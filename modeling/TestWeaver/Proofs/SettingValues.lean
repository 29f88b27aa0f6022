import TestWeaver.Proofs.SettingsRead

/-!
What values stand for where a setting has a type, and reading them: every value is read as what it
stands for, or as nothing, unless it is an integer out of range.
-/

namespace TestWeaver.Proofs.SettingValues

open Config Outcomes
open Yaml (Value)

/-! ### What values stand for -/

/-- Where a text is asked for, numbers stand for the text that they are written as. -/
inductive IsText : Value → Text → Prop
  | text (s : Text) : IsText (.text s) s
  | int (n : Int) : IsText (.int n) (Decimal.integer n)
  | float (x : Binary64) : IsText (.float x) (Decimal.shortest x)

inductive IsInteger : Value → Int → Prop
  | int (n : Int) : IsInteger (.int n) n
  | text {s : Text} {n : Int} (h : Decimal.integer? s = some n) : IsInteger (.text s) n

inductive IsNumber : Value → Binary64 → Prop
  | int {n : Int} {x : Binary64} (h : Binary64.ofInt? n = some x) : IsNumber (.int n) x
  | float (x : Binary64) : IsNumber (.float x) x
  | text {s : Text} {x : Binary64} (h : Decimal.number? s = some x) : IsNumber (.text s) x

inductive IsTruth : Value → Bool → Prop
  | bool (b : Bool) : IsTruth (.bool b) b
  | yes {s : Text} (h : String.ofList (Text.lower (Text.trim s)) ∈ ["true", "yes", "1"]) :
      IsTruth (.text s) true
  | no {s : Text} (h : String.ofList (Text.lower (Text.trim s)) ∈ ["false", "no", "0"]) :
      IsTruth (.text s) false

/-- Items of a list of texts. -/
inductive IsItem : Value → Text → Prop
  | text {v : Value} {s : Text} (h : IsText v s) : IsItem v s
  | yes : IsItem (.bool true) "True".toList
  | no : IsItem (.bool false) "False".toList

/-- The texts of the items that stand for one, in order. -/
inductive Items : List Value → List Text → Prop
  | nil : Items [] []
  | cons {v : Value} {s : Text} {vs : List Value} {ss : List Text} (h : IsItem v s)
      (hs : Items vs ss) : Items (v :: vs) (s :: ss)
  | skip {v : Value} {vs : List Value} {ss : List Text} (h : ∀ s, ¬ IsItem v s)
      (hs : Items vs ss) : Items (v :: vs) ss

/-- Lists of texts. Nothing is the empty list, and octets are the numbers that they are. -/
inductive IsList : Value → List Text → Prop
  | null : IsList .null []
  | text (s : Text) : IsList (.text s) [s]
  | items {vs : List Value} {ss : List Text} (h : Items vs ss) : IsList (.sequence vs) ss
  | octets (bs : Utf8.Octets) :
      IsList (.bytes bs) (bs.map fun b => Decimal.integer b.toNat)

/-- Integers with more digits than are written. -/
inductive TooLong : Value → Prop
  | int {n : Int} (h : Nat.pow 10 Decimal.maxDigits ≤ n.natAbs) : TooLong (.int n)

/-- Integers beyond the range of floats. -/
inductive TooLarge : Value → Prop
  | int {n : Int} (h : Binary64.ofInt? n = none) : TooLarge (.int n)

/-- What is raised for values that are out of range. -/
def OutOfRange (e : Failure) : Prop := ∃ m, e = .value m ∨ e = .overflow m

/-! ### One value -/

variable {v : Value} {e : Failure}

lemma asText_ok {o : Option Text} (h : asText v = .ok o) :
    ¬ TooLong v ∧ ∀ s, IsText v s ↔ o = some s := by
  cases v with
  | text s =>
    obtain rfl := Except.ok.inj h
    refine ⟨nofun, fun t => ⟨fun ht => ?_, fun ht => ?_⟩⟩
    · cases ht
      rfl
    · obtain rfl := Option.some.inj ht
      exact .text s
  | int n =>
    rw [asText] at h
    obtain ⟨s, hs, rfl⟩ := map_eq_ok.mp h
    rw [integerText] at hs
    split at hs
    · cases hs
    · next hshort =>
      obtain rfl := Except.ok.inj hs
      refine ⟨fun hlong => ?_, fun t => ⟨fun ht => ?_, fun ht => ?_⟩⟩
      · cases hlong with
        | int hlong => exact hshort hlong
      · cases ht
        rfl
      · obtain rfl := Option.some.inj ht
        exact .int n
  | float x =>
    obtain rfl := Except.ok.inj h
    refine ⟨nofun, fun t => ⟨fun ht => ?_, fun ht => ?_⟩⟩
    · cases ht
      rfl
    · obtain rfl := Option.some.inj ht
      exact .float x
  | _ =>
    obtain rfl := Except.ok.inj h
    exact ⟨nofun, fun t => ⟨nofun, nofun⟩⟩

lemma asText_error (h : asText v = .error e) : TooLong v ∧ OutOfRange e := by
  cases v with
  | int n =>
    rw [asText] at h
    have hs := map_eq_error.mp h
    rw [integerText] at hs
    split at hs
    · next hlong => exact ⟨.int hlong, _, .inl (Except.error.inj hs).symm⟩
    · cases hs
  | _ => cases h

lemma asNumber_ok {o : Option Binary64} (h : asNumber v = .ok o) :
    ¬ TooLarge v ∧ ∀ x, IsNumber v x ↔ o = some x := by
  cases v with
  | int n =>
    rw [asNumber] at h
    split at h
    · next x hx =>
      obtain rfl := Except.ok.inj h
      refine ⟨fun hlarge => ?_, fun y => ⟨fun hy => ?_, fun hy => ?_⟩⟩
      · cases hlarge with
        | int hlarge => cases hx.symm.trans hlarge
      · cases hy with
        | int hy => exact hx.symm.trans hy
      · exact .int (hx.trans hy)
    · cases h
  | float x =>
    obtain rfl := Except.ok.inj h
    refine ⟨nofun, fun y => ⟨fun hy => ?_, fun hy => ?_⟩⟩
    · cases hy
      rfl
    · obtain rfl := Option.some.inj hy
      exact .float x
  | text s =>
    obtain rfl := Except.ok.inj h
    refine ⟨nofun, fun y => ⟨fun hy => ?_, .text⟩⟩
    cases hy with
    | text hy => exact hy
  | _ =>
    obtain rfl := Except.ok.inj h
    exact ⟨nofun, fun y => ⟨nofun, nofun⟩⟩

lemma asNumber_error (h : asNumber v = .error e) : TooLarge v ∧ OutOfRange e := by
  cases v with
  | int n =>
    rw [asNumber] at h
    split at h
    · cases h
    · next hlarge => exact ⟨.int hlarge, _, .inr (Except.error.inj h).symm⟩
  | _ => cases h

lemma asInteger_eq_some {n : Int} : asInteger v = some n ↔ IsInteger v n := by
  constructor
  · intro h
    cases v with
    | int m =>
      obtain rfl := Option.some.inj h
      exact .int m
    | text s => exact .text h
    | _ => cases h
  · intro h
    cases h with
    | int => rfl
    | text h => exact h

lemma asBool_eq_some {b : Bool} : asBool v = some b ↔ IsTruth v b := by
  constructor
  · intro h
    cases v with
    | bool c =>
      obtain rfl := Option.some.inj h
      exact .bool c
    | text s =>
      rw [asBool] at h
      split at h
      · next hyes =>
        obtain rfl := Option.some.inj h
        exact .yes (by simpa [or_assoc] using hyes)
      · split at h
        · next hno =>
          obtain rfl := Option.some.inj h
          exact .no (by simpa [or_assoc] using hno)
        · cases h
    | _ => cases h
  · intro h
    cases h with
    | bool => rfl
    | yes hs =>
      rw [asBool, if_pos (by simpa [or_assoc] using hs)]
    | no hs =>
      simp only [List.mem_cons, List.not_mem_nil, or_false] at hs
      rcases hs with hs | hs | hs <;> simp [asBool, hs]

/-! ### Lists -/

lemma itemText_ok {o : Option Text} (h : itemText v = .ok o) :
    ¬ TooLong v ∧ ∀ s, IsItem v s ↔ o = some s := by
  -- Values other than truths are items just when they are texts.
  have hplain : (∀ b, v ≠ .bool b) → asText v = .ok o →
      ¬ TooLong v ∧ ∀ s, IsItem v s ↔ o = some s := by
    intro hv h
    obtain ⟨hshort, hs⟩ := asText_ok h
    refine ⟨hshort, fun s => ⟨fun hitem => ?_, fun hsome => .text ((hs s).mpr hsome)⟩⟩
    cases hitem with
    | text htext => exact (hs s).mp htext
    | yes => exact absurd rfl (hv true)
    | no => exact absurd rfl (hv false)
  cases v with
  | bool b =>
    obtain rfl := Except.ok.inj h
    refine ⟨nofun, fun s => ⟨fun hitem => ?_, fun hsome => ?_⟩⟩
    · cases hitem with
      | text htext => cases htext
      | yes => rfl
      | no => rfl
    · obtain rfl := Option.some.inj hsome
      cases b
      · exact .no
      · exact .yes
  | _ => exact hplain (fun b hb => by cases hb) h

lemma itemText_error (h : itemText v = .error e) : TooLong v ∧ OutOfRange e := by
  cases v with
  | bool b => cases h
  | _ => exact asText_error h

lemma items_ok {vs : List Value} {os : List (Option Text)} (h : vs.mapM itemText = .ok os) :
    (∀ v ∈ vs, ¬ TooLong v) ∧ Items vs (os.filterMap id) := by
  induction vs generalizing os with
  | nil =>
    obtain rfl := Except.ok.inj h
    exact ⟨nofun, .nil⟩
  | cons v vs ih =>
    rw [List.mapM_cons] at h
    obtain ⟨o, ho, h⟩ := bind_eq_ok.mp h
    obtain ⟨os', hos, h⟩ := bind_eq_ok.mp h
    obtain rfl := Except.ok.inj h
    obtain ⟨hshort, hitem⟩ := itemText_ok ho
    obtain ⟨hshorts, hitems⟩ := ih hos
    refine ⟨List.forall_mem_cons.mpr ⟨hshort, hshorts⟩, ?_⟩
    rcases o with _ | s
    · exact .skip (fun s hs => by cases (hitem s).mp hs) hitems
    · exact .cons ((hitem s).mpr rfl) hitems

lemma items_error {vs : List Value} (h : vs.mapM itemText = .error e) :
    (∃ v ∈ vs, TooLong v) ∧ OutOfRange e := by
  induction vs with
  | nil => cases h
  | cons v vs ih =>
    rw [List.mapM_cons] at h
    rcases bind_eq_error.mp h with h | ⟨o, -, h⟩
    · obtain ⟨hlong, he⟩ := itemText_error h
      exact ⟨⟨v, List.mem_cons_self, hlong⟩, he⟩
    · rcases bind_eq_error.mp h with h | ⟨os, -, h⟩
      · obtain ⟨⟨w, hw, hlong⟩, he⟩ := ih h
        exact ⟨⟨w, List.mem_cons_of_mem _ hw, hlong⟩, he⟩
      · cases h

lemma asTexts_ok {ss : List Text} (h : asTexts v = .ok ss) :
    (∀ vs, v = .sequence vs → ∀ w ∈ vs, ¬ TooLong w) ∧
      (IsList v ss ∨ (∀ ts, ¬ IsList v ts) ∧ ss = []) := by
  cases v with
  | sequence vs =>
    rw [asTexts] at h
    obtain ⟨os, hos, rfl⟩ := map_eq_ok.mp h
    obtain ⟨hshort, hitems⟩ := items_ok hos
    refine ⟨fun ws hws => ?_, .inl (.items hitems)⟩
    cases hws
    exact hshort
  | null =>
    obtain rfl := Except.ok.inj h
    exact ⟨nofun, .inl .null⟩
  | text s =>
    obtain rfl := Except.ok.inj h
    exact ⟨nofun, .inl (.text s)⟩
  | bytes bs =>
    obtain rfl := Except.ok.inj h
    exact ⟨nofun, .inl (.octets bs)⟩
  | _ =>
    obtain rfl := Except.ok.inj h
    exact ⟨nofun, .inr ⟨nofun, rfl⟩⟩

lemma asTexts_error (h : asTexts v = .error e) :
    (∃ vs, v = .sequence vs ∧ ∃ w ∈ vs, TooLong w) ∧ OutOfRange e := by
  cases v with
  | sequence vs =>
    rw [asTexts] at h
    obtain ⟨hlong, he⟩ := items_error (map_eq_error.mp h)
    exact ⟨⟨vs, rfl, hlong⟩, he⟩
  | _ => cases h

end TestWeaver.Proofs.SettingValues
