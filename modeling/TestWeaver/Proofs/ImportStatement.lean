import Mathlib.Data.List.TakeWhile
import TestWeaver.Source.Import

/-!
The grammar of import statements, and that `directive?` reads exactly what it derives.

A statement is the keyword, the imported name and a semicolon, with blanks in front of each; it
ends at its first semicolon. Since the text of a statement is known, what follows it can be
changed at will.
-/

namespace TestWeaver.Proofs.ImportStatement

open Source Text

/-! ### Characters -/

/-- The blank characters from U+0080 on. -/
def wideBlanks : List ℕ :=
  [0x85, 0xA0, 0x1680, 0x2000, 0x2001, 0x2002, 0x2003, 0x2004, 0x2005, 0x2006, 0x2007, 0x2008,
    0x2009, 0x200A, 0x2028, 0x2029, 0x202F, 0x205F, 0x3000]

lemma wideBlanks_not_alphanumeric : ∀ n ∈ wideBlanks, inRanges n alphanumericRanges = false := by
  decide +kernel

lemma narrowBlanks_not_wordChar :
    ∀ n < 0x80, isWordChar (Char.ofNat n) = true → isBlank (Char.ofNat n) = false := by
  decide +kernel

lemma not_blank_of_wordChar {c : Char} (h : isWordChar c = true) : isBlank c = false := by
  by_cases hn : c.toNat < 0x80
  · have hnarrow := narrowBlanks_not_wordChar c.toNat hn
    rw [Char.ofNat_toNat] at hnarrow
    exact hnarrow h
  · by_contra hb
    have hb : isBlank c = true := by simpa using hb
    unfold isWordChar at h
    unfold isBlank at hb
    simp only [hn, if_false, Bool.or_eq_true, Bool.and_eq_true, beq_iff_eq, decide_eq_true_eq]
      at h hb
    have hmem : c.toNat ∈ wideBlanks := by
      simp only [wideBlanks, List.mem_cons, List.not_mem_nil, or_false]
      omega
    simp [wideBlanks_not_alphanumeric _ hmem] at h

lemma not_blank_of_dottedChar {c : Char} (h : isDottedChar c = true) : isBlank c = false := by
  simp only [isDottedChar, Bool.or_eq_true, beq_iff_eq] at h
  rcases h with h | rfl
  · exact not_blank_of_wordChar h
  · decide

/-! ### The grammar -/

def Blanks (b : Text) : Prop := ∀ c ∈ b, isBlank c = true

instance : DecidablePred Blanks := fun b => List.decidableBAll _ b

/-- A name: word characters and dots. -/
def Dotted (n : Text) : Prop := n ≠ [] ∧ ∀ c ∈ n, isDottedChar c = true

instance : DecidablePred Dotted := fun n =>
  @instDecidableAnd (n ≠ []) _ inferInstance (List.decidableBAll _ n)

/-- What is imported: a name, or all of a package. -/
inductive Target : Text → Prop
  | name {n : Text} (h : Dotted n) : Target n
  | all {n : Text} (h : Dotted n) : Target (n ++ ['.', '*'])

/-- The part of a statement between keyword and semicolon, and its directive: blanks behind
`static` come down to one space. -/
inductive Core : Text → Text → Prop
  | plain {n : Text} (h : Target n) : Core n n
  | static {b n : Text} (hb : Blanks b) (hne : b ≠ []) (h : Target n) :
      Core ("static".toList ++ b ++ n) ("static ".toList ++ n)

/-- The text of a statement, up to its semicolon, and its directive. -/
inductive Statement : Text → Text → Prop
  | mk {b₁ b₂ b₃ w d : Text} (h₁ : Blanks b₁) (h₂ : Blanks b₂) (hne : b₂ ≠ []) (hw : Core w d)
      (h₃ : Blanks b₃) : Statement (b₁ ++ ("import".toList ++ (b₂ ++ (w ++ (b₃ ++ [';']))))) d

lemma Blanks.append {a b : Text} (ha : Blanks a) (hb : Blanks b) : Blanks (a ++ b) := by
  intro c hc
  rcases List.mem_append.mp hc with hc | hc
  · exact ha c hc
  · exact hb c hc

lemma Blanks.of_append {a b : Text} (h : Blanks (a ++ b)) : Blanks a ∧ Blanks b :=
  ⟨fun c hc => h c (by simp [hc]), fun c hc => h c (by simp [hc])⟩

lemma Target.chars {n : Text} (h : Target n) : ∀ c ∈ n, isDottedChar c = true ∨ c = '*' := by
  cases h with
  | name h => exact fun c hc => Or.inl (h.2 c hc)
  | @all n h =>
    intro c hc
    simp only [List.mem_append, List.mem_cons, List.not_mem_nil, or_false] at hc
    rcases hc with hc | rfl | rfl
    · exact Or.inl (h.2 c hc)
    · exact Or.inl (by decide)
    · exact Or.inr rfl

lemma Target.head {n : Text} (h : Target n) : ∃ c r, n = c :: r ∧ isDottedChar c = true := by
  have hn : ∀ {m : Text}, Dotted m → ∃ c r, m = c :: r ∧ isDottedChar c = true := by
    intro m hm
    rcases m with _ | ⟨c, r⟩
    · exact absurd rfl hm.1
    · exact ⟨c, r, rfl, hm.2 c (by simp)⟩
  cases h with
  | name h => exact hn h
  | all h =>
    obtain ⟨c, r, rfl, hc⟩ := hn h
    exact ⟨c, _, rfl, hc⟩

lemma Target.not_blank {n : Text} (h : Target n) : ∀ c ∈ n, isBlank c = false := by
  intro c hc
  rcases h.chars c hc with hd | rfl
  · exact not_blank_of_dottedChar hd
  · decide

lemma Core.head {w d : Text} (h : Core w d) : ∃ c r, w = c :: r ∧ isDottedChar c = true := by
  cases h with
  | plain h => exact h.head
  | static hb hne h => exact ⟨'s', _, rfl, by decide⟩

lemma dotted_static : Dotted "static".toList := by decide

lemma Core.chars {w d : Text} (h : Core w d) :
    ∀ c ∈ w, isDottedChar c = true ∨ c = '*' ∨ isBlank c = true := by
  have hname : ∀ {n : Text}, Target n →
      ∀ c ∈ n, isDottedChar c = true ∨ c = '*' ∨ isBlank c = true :=
    fun hn c hc => (hn.chars c hc).imp_right Or.inl
  cases h with
  | plain hn => exact hname hn
  | static hb hne hn =>
    intro c hc
    simp only [List.mem_append] at hc
    rcases hc with (hc | hc) | hc
    · exact Or.inl (dotted_static.2 c hc)
    · exact Or.inr (Or.inr (hb c hc))
    · exact hname hn c hc

/-- A directive is the text of an import itself. -/
lemma Core.directive {w d : Text} (h : Core w d) : Core d d := by
  cases h with
  | plain h => exact .plain h
  | @static b n hb hne h => exact .static (b := [' ']) (by simp [Blanks]; decide) (by simp) h

lemma Target.newline {n : Text} (h : Target n) : '\n' ∉ n := by
  intro hn
  exact absurd (h.not_blank _ hn) (by decide)

lemma Core.newline {w d : Text} (h : Core w d) : '\n' ∉ d := by
  cases h with
  | plain h => exact h.newline
  | static hb hne h =>
    rw [List.mem_append, not_or]
    exact ⟨by decide, h.newline⟩

lemma Statement.shape {u d : Text} (h : Statement u d) : ∃ x, x ≠ [] ∧ u = x ++ [';'] := by
  cases h with
  | @mk b₁ b₂ b₃ w d h₁ h₂ hne hw h₃ =>
    exact ⟨b₁ ++ ("import".toList ++ (b₂ ++ (w ++ b₃))), by simp, by simp⟩

lemma Statement.core {u d : Text} (h : Statement u d) : Core d d := by
  cases h with
  | mk h₁ h₂ hne hw h₃ => exact hw.directive

/-! ### Reading what the grammar derives -/

lemma trimStart_append {b s : Text} (hb : Blanks b) : trimStart (b ++ s) = trimStart s :=
  trimStart_append_of_all hb s

lemma trimStart_of_head {c : Char} {s : Text} (h : isBlank c = false) :
    trimStart (c :: s) = c :: s := trimStart_cons_of_not_blank h s

lemma trimStart_eq_nil {b : Text} (hb : Blanks b) : trimStart b = [] := by
  simpa using trimStart_append (s := []) hb

/-- The blanks in front of a text. -/
lemma exists_blanks (s : Text) : ∃ b, Blanks b ∧ s = b ++ trimStart s :=
  ⟨s.takeWhile isBlank, fun c hc => by simpa using List.mem_takeWhile_imp hc,
    (List.takeWhile_append_dropWhile (p := isBlank) (l := s)).symm⟩

lemma not_blank_of_trimStart {s r : Text} {c : Char} (h : trimStart s = c :: r) :
    isBlank c = false := by
  have hstop := List.head?_dropWhile_not isBlank s
  rw [← trimStart, h] at hstop
  simpa using hstop

lemma blanks_of_trimStart {r : Text} (h : trimStart r = []) : Blanks r := by
  obtain ⟨b, hb, hr⟩ := exists_blanks r
  rw [h, List.append_nil] at hr
  rwa [hr]

lemma afterBlanks?_append {b s : Text} (hb : Blanks b) (hne : b ≠ []) :
    afterBlanks? (b ++ s) = some (trimStart s) := by
  obtain ⟨c, b, rfl⟩ := List.exists_cons_of_ne_nil hne
  have hc : isBlank c = true := hb c (by simp)
  have hrest : Blanks b := fun d hd => hb d (by simp [hd])
  simp [afterBlanks?, hc, trimStart_append hrest]

lemma afterSemicolon?_append {b : Text} (hb : Blanks b) (t : Text) :
    afterSemicolon? (b ++ ';' :: t) = some t := by
  have hs : trimStart (';' :: t) = ';' :: t := trimStart_of_head (by decide)
  simp only [afterSemicolon?, trimStart_append hb, hs]

lemma dotted?_append {n x : Text} (hn : Dotted n)
    (hx : ∀ c r, x = c :: r → isDottedChar c = false) : dotted? (n ++ x) = some (n, x) := by
  have hstop : x.takeWhile isDottedChar = [] ∧ x.dropWhile isDottedChar = x := by
    rcases x with _ | ⟨c, r⟩
    · simp
    · simp [hx c r rfl]
  obtain ⟨c, m, rfl⟩ := List.exists_cons_of_ne_nil hn.1
  have htake : (c :: m ++ x).takeWhile isDottedChar = c :: m := by
    rw [List.takeWhile_append_of_pos hn.2, hstop.1, List.append_nil]
  have hdrop : (c :: m ++ x).dropWhile isDottedChar = x := by
    rw [List.dropWhile_append_of_pos hn.2, hstop.2]
  simp only [dotted?, htake, hdrop]

/-- Where a name ends: blanks and a semicolon. -/
lemma semicolon_head {b : Text} (hb : Blanks b) (t : Text) :
    ∀ c r, b ++ ';' :: t = c :: r → isDottedChar c = false := by
  intro c r h
  rcases b with _ | ⟨e, b⟩
  · obtain ⟨rfl, -⟩ := List.cons.inj h
    decide
  · obtain ⟨rfl, -⟩ := List.cons.inj h
    by_contra hd
    have := not_blank_of_dottedChar (by simpa using hd)
    simp [hb e (by simp)] at this

lemma directiveName?_append {n b : Text} (hn : Target n) (hb : Blanks b) (t : Text) :
    directiveName? (n ++ (b ++ ';' :: t)) = some (n, t) := by
  cases hn with
  | name h =>
    simp only [directiveName?, dotted?_append h (semicolon_head hb t), afterSemicolon?_append hb]
  | @all n h =>
    have hdot : Dotted (n ++ ['.']) := by
      refine ⟨by simp, fun c hc => ?_⟩
      rcases List.mem_append.mp hc with hc | hc
      · exact h.2 c hc
      · obtain rfl : c = '.' := by simpa using hc
        decide
    have hstar : ∀ c r, '*' :: (b ++ ';' :: t) = c :: r → isDottedChar c = false := by
      intro c r hcr
      obtain ⟨rfl, -⟩ := List.cons.inj hcr
      decide
    have hsplit : n ++ ['.', '*'] ++ (b ++ ';' :: t) = n ++ ['.'] ++ '*' :: (b ++ ';' :: t) := by
      simp
    have hnone : afterSemicolon? ('*' :: (b ++ ';' :: t)) = none := by
      have hs : trimStart ('*' :: (b ++ ';' :: t)) = '*' :: (b ++ ';' :: t) :=
        trimStart_of_head (by decide)
      simp [afterSemicolon?, hs]
    have hends : endsWith (n ++ ['.']) ['.'] = true := by
      simp [endsWith, startsWith, after?]
    have hlen : 2 ≤ (n ++ ['.']).length := by
      have := List.length_pos_iff.mpr h.1
      simp only [List.length_append, List.length_singleton]
      omega
    simp only [hsplit, directiveName?, dotted?_append hdot hstar, hnone, hends, hlen,
      afterSemicolon?_append hb]
    simp

/-- What looks like a keyword at the start of a name is the whole name: behind it only the
semicolon is left. -/
lemma eq_semicolon_of_after {k n b r : Text} (hk : Dotted k) (hn : Target n) (hb : Blanks b)
    (t : Text) (h : (after? k (n ++ (b ++ ';' :: t))).bind afterBlanks? = some r) :
    r = ';' :: t := by
  obtain ⟨x, hx, hr⟩ := Option.bind_eq_some_iff.mp h
  have hs : n ++ (b ++ ';' :: t) = k ++ x := eq_append_of_after? hx
  rcases x with _ | ⟨c, x⟩
  · cases hr
  have hc : isBlank c = true := by
    by_contra hc
    simp [afterBlanks?, hc] at hr
  obtain rfl : trimStart x = r := by simpa [afterBlanks?, hc] using hr
  have hrun : dotted? (n ++ (b ++ ';' :: t)) = some (k, c :: x) := by
    rw [hs]
    refine dotted?_append hk fun e u heu => ?_
    obtain ⟨rfl, -⟩ := List.cons.inj heu
    by_contra hd
    have := not_blank_of_dottedChar (by simpa using hd)
    simp [hc] at this
  have hname := directiveName?_append hn hb t
  cases hn with
  | name h =>
    rw [dotted?_append h (semicolon_head hb t)] at hrun
    obtain ⟨-, hrest⟩ := Prod.mk.inj (Option.some.inj hrun)
    have htrim : trimStart (c :: x) = ';' :: t := by
      rw [← hrest, trimStart_append hb, trimStart_of_head (by decide)]
    rwa [trimStart_cons_of_blank hc] at htrim
  | all h =>
    -- a star would have to follow, but a blank does
    exfalso
    simp only [directiveName?, hrun] at hname
    split at hname
    · next t' ht' =>
      obtain ⟨hall, -⟩ := Prod.mk.inj (Option.some.inj hname)
      have hdot := hk.2 '*' (by rw [hall]; simp)
      revert hdot
      decide
    · next heq =>
      obtain ⟨rfl, -⟩ := List.cons.inj heq
      revert hc
      decide
    · cases hname

@[simp] lemma directiveName?_semicolon (t : Text) : directiveName? (';' :: t) = none := by
  have : dotted? (';' :: t) = none := rfl
  simp [directiveName?, this]

lemma dotted_import : Dotted "import".toList := by decide

/-- `static` behind the keyword is the name itself if no name follows. -/
lemma static_none {α : Type} {f : Text → Option α} {t : Text} (hf : f (';' :: t) = none)
    {n b : Text} (hn : Target n) (hb : Blanks b) :
    ((after? "static".toList (n ++ (b ++ ';' :: t))).bind afterBlanks?).bind f = none := by
  rcases hr : (after? "static".toList (n ++ (b ++ ';' :: t))).bind afterBlanks? with _ | r
  · rfl
  · obtain rfl := eq_semicolon_of_after dotted_static hn hb t hr
    exact hf

/-- What stands behind the keyword of a statement. -/
lemma afterKeyword?_import {b₁ b₂ b₃ w d : Text} (h₁ : Blanks b₁) (h₂ : Blanks b₂) (hne : b₂ ≠ [])
    (hw : Core w d) (t : Text) :
    afterKeyword? "import" (b₁ ++ ("import".toList ++ (b₂ ++ (w ++ (b₃ ++ [';'])))) ++ t) =
      some (w ++ (b₃ ++ ';' :: t)) := by
  obtain ⟨c, r, hcr, hdot⟩ := hw.head
  have himp : ∀ x, trimStart ("import".toList ++ x) = "import".toList ++ x := fun x =>
    trimStart_of_head (by decide)
  have hw : trimStart (w ++ (b₃ ++ ';' :: t)) = w ++ (b₃ ++ ';' :: t) := by
    rw [hcr]
    exact trimStart_of_head (not_blank_of_dottedChar hdot)
  simp only [afterKeyword?, List.append_assoc, trimStart_append h₁, himp, after?_append,
    Option.bind_some, afterBlanks?_append h₂ hne, List.cons_append, List.nil_append, hw]

/-- What stands behind the keyword and `static`. -/
lemma afterStatic?_append {b n : Text} (hb : Blanks b) (hne : b ≠ []) (hn : Target n) (x : Text) :
    (after? "static".toList ("static".toList ++ b ++ n ++ x)).bind afterBlanks? =
      some (n ++ x) := by
  obtain ⟨e, m, rfl, he⟩ := hn.head
  have hin : trimStart (e :: m ++ x) = e :: m ++ x := trimStart_of_head (not_blank_of_dottedChar he)
  simp only [List.append_assoc, after?_append, Option.bind_some, afterBlanks?_append hb hne, hin]

lemma directive?_append {u d : Text} (h : Statement u d) (t : Text) :
    directive? (u ++ t) = some (d, t) := by
  cases h with
  | @mk b₁ b₂ b₃ w d h₁ h₂ hne hw h₃ =>
    simp only [directive?, afterKeyword?_import h₁ h₂ hne hw, Option.bind_eq_bind,
      Option.bind_some]
    cases hw with
    | plain h =>
      rw [static_none (directiveName?_semicolon t) h h₃, directiveName?_append h h₃]
      rfl
    | @static b n hb hbne h =>
      rw [afterStatic?_append hb hbne h, Option.bind_some, directiveName?_append h h₃]
      rfl

/-! ### Only what the grammar derives is read -/

lemma dotted?_eq_some {s n r : Text} (h : dotted? s = some (n, r)) : Dotted n ∧ s = n ++ r := by
  unfold dotted? at h
  split at h
  · cases h
  · next c w hw =>
    simp only [Option.some.injEq, Prod.mk.injEq] at h
    obtain ⟨rfl, rfl⟩ := h
    refine ⟨⟨by simp, fun e he => ?_⟩, ?_⟩
    · rw [← hw] at he
      exact List.mem_takeWhile_imp he
    · rw [← hw, List.takeWhile_append_dropWhile]

lemma afterSemicolon?_eq_some {s t : Text} (h : afterSemicolon? s = some t) :
    ∃ b, Blanks b ∧ s = b ++ ';' :: t := by
  obtain ⟨b, hb, hs⟩ := exists_blanks s
  refine ⟨b, hb, ?_⟩
  unfold afterSemicolon? at h
  split at h
  · next r hr =>
    obtain rfl := Option.some.inj h
    rw [← hr]
    exact hs
  · cases h

lemma directiveName?_eq_some {s n t : Text} (h : directiveName? s = some (n, t)) :
    Target n ∧ ∃ b, Blanks b ∧ s = n ++ (b ++ ';' :: t) := by
  unfold directiveName? at h
  split at h
  · cases h
  · next m r hr =>
    obtain ⟨hm, rfl⟩ := dotted?_eq_some hr
    split at h
    · next t' ht' =>
      obtain ⟨rfl, rfl⟩ := Prod.mk.inj (Option.some.inj h)
      obtain ⟨b, hb, rfl⟩ := afterSemicolon?_eq_some ht'
      exact ⟨.name hm, b, hb, rfl⟩
    · next x _ =>
      split at h
      · next hdot =>
        obtain ⟨hends, hlen⟩ : endsWith m ['.'] = true ∧ 2 ≤ m.length := by simpa using hdot
        obtain ⟨t', ht', heq⟩ := Option.map_eq_some_iff.mp h
        obtain ⟨rfl, rfl⟩ := Prod.mk.inj heq
        obtain ⟨b, hb, rfl⟩ := afterSemicolon?_eq_some ht'
        obtain ⟨k, hk⟩ := Option.isSome_iff_exists.mp hends
        obtain rfl : m = k.reverse ++ ['.'] := by
          have := eq_append_of_after? hk
          simpa using congrArg List.reverse this
        have hk : Dotted k.reverse := by
          refine ⟨?_, fun c hc => hm.2 c (by simp [hc])⟩
          rintro hnil
          simp [hnil] at hlen
        refine ⟨by simpa using Target.all hk, b, hb, by simp⟩
      · cases h
    · cases h

lemma afterBlanks?_eq_some {s r : Text} (h : afterBlanks? s = some r) :
    ∃ b, Blanks b ∧ b ≠ [] ∧ s = b ++ r := by
  rcases s with _ | ⟨c, s⟩
  · cases h
  by_cases hc : isBlank c = true
  · obtain rfl : trimStart s = r := by simpa [afterBlanks?, hc] using h
    obtain ⟨b, hb, hs⟩ := exists_blanks s
    refine ⟨c :: b, fun e he => ?_, by simp, by rw [List.cons_append, ← hs]⟩
    rcases List.mem_cons.mp he with rfl | he
    · exact hc
    · exact hb e he
  · simp [afterBlanks?, hc] at h

lemma afterAny?_eq_some {marks : List Text} {s : Text} {q : Text × Text}
    (h : afterAny? marks s = some q) : q.1 ∈ marks ∧ s = q.1 ++ q.2 := by
  obtain ⟨m, hm, hq⟩ := List.exists_of_findSome?_eq_some h
  obtain ⟨r, hr, rfl⟩ := Option.map_eq_some_iff.mp hq
  exact ⟨hm, eq_append_of_after? hr⟩

lemma afterKeyword?_eq_some {k : String} {s r : Text} (h : afterKeyword? k s = some r) :
    ∃ b₁ b₂, Blanks b₁ ∧ Blanks b₂ ∧ b₂ ≠ [] ∧ s = b₁ ++ (k.toList ++ (b₂ ++ r)) := by
  obtain ⟨b₁, h₁, hs⟩ := exists_blanks s
  obtain ⟨x, hx, hr⟩ := Option.bind_eq_some_iff.mp h
  obtain ⟨b₂, h₂, hne, rfl⟩ := afterBlanks?_eq_some hr
  exact ⟨b₁, b₂, h₁, h₂, hne, by rw [← eq_append_of_after? hx]; exact hs⟩

/-- **A statement is read exactly where the grammar derives one**, with its directive and what
follows it. -/
theorem directive?_eq_some_iff {s d t : Text} :
    directive? s = some (d, t) ↔ ∃ u, Statement u d ∧ s = u ++ t := by
  constructor
  · intro h
    obtain ⟨x, hx, hread⟩ := Option.bind_eq_some_iff.mp h
    obtain ⟨b₁, b₂, h₁, h₂, hne, rfl⟩ := afterKeyword?_eq_some hx
    rcases Option.or_eq_some_iff.mp hread with hs | ⟨-, hp⟩
    · obtain ⟨⟨n, t'⟩, hbind, heq⟩ := Option.map_eq_some_iff.mp hs
      obtain ⟨rfl, rfl⟩ := Prod.mk.inj heq
      obtain ⟨z, hstatic, hname⟩ := Option.bind_eq_some_iff.mp hbind
      obtain ⟨y, hy, hz⟩ := Option.bind_eq_some_iff.mp hstatic
      obtain rfl := eq_append_of_after? hy
      obtain ⟨b, hb, hbne, rfl⟩ := afterBlanks?_eq_some hz
      obtain ⟨hn, b₃, h₃, rfl⟩ := directiveName?_eq_some hname
      exact ⟨_, .mk h₁ h₂ hne (.static hb hbne hn) h₃, by simp⟩
    · obtain ⟨hn, b₃, h₃, rfl⟩ := directiveName?_eq_some hp
      exact ⟨_, .mk h₁ h₂ hne (.plain hn) h₃, by simp⟩
  · rintro ⟨u, hu, rfl⟩
    exact directive?_append hu t

/-- What is read does not depend on what follows. -/
lemma directive?_extend {s d t : Text} (h : directive? s = some (d, t)) (y : Text) :
    directive? (s ++ y) = some (d, t ++ y) := by
  obtain ⟨u, hu, rfl⟩ := directive?_eq_some_iff.mp h
  rw [List.append_assoc]
  exact directive?_append hu _

lemma directive?_blank {b : Text} (hb : Blanks b) (s : Text) :
    directive? (b ++ s) = directive? s := by
  simp only [directive?, afterKeyword?, trimStart_append hb]

/-! ### Inside a statement -/

/-- What is left of a statement behind a newline: no keyword any more. -/
inductive Tail : Text → Prop
  | bare {b₁ b₂ : Text} (h₁ : Blanks b₁) (h₂ : Blanks b₂) : Tail (b₁ ++ (b₂ ++ [';']))
  | core {b₁ b₂ w d : Text} (h₁ : Blanks b₁) (hw : Core w d) (h₂ : Blanks b₂) :
      Tail (b₁ ++ (w ++ (b₂ ++ [';'])))

/-- The only newline that two texts share a border with lies in one of them. -/
lemma newline_split {a b x y : Text} (h : a ++ b = x ++ '\n' :: y) :
    (∃ z, a = x ++ '\n' :: z ∧ y = z ++ b) ∨ ∃ z, x = a ++ z ∧ b = z ++ '\n' :: y := by
  rcases List.append_eq_append_iff.mp h with ⟨z, hx, hb⟩ | ⟨z, ha, hb⟩
  · exact Or.inr ⟨z, hx, hb⟩
  · rcases z with _ | ⟨c, z⟩
    · exact Or.inr ⟨[], by simpa using ha.symm, by simpa using hb.symm⟩
    · obtain ⟨rfl, rfl⟩ := List.cons.inj hb
      exact Or.inl ⟨z, ha, rfl⟩

lemma Blanks.split {b x y : Text} (h : Blanks b) (hb : b = x ++ '\n' :: y) :
    Blanks x ∧ Blanks y := by
  subst hb
  exact ⟨h.of_append.1, fun c hc => h c (by simp [hc])⟩

lemma Tail.of_semicolon {b x y : Text} (hb : Blanks b) (h : b ++ [';'] = x ++ '\n' :: y) :
    Tail y := by
  rcases newline_split h with ⟨z, hz, rfl⟩ | ⟨z, -, hz⟩
  · have hnil : Blanks [] := by simp [Blanks]
    simpa using Tail.bare hnil (hb.split hz).2
  · exact absurd (by simp [hz] : '\n' ∈ [';']) (by decide)

lemma Tail.of_core {w d b x y : Text} (hw : Core w d) (hb : Blanks b)
    (h : w ++ (b ++ [';']) = x ++ '\n' :: y) : Tail y := by
  rcases newline_split h with ⟨z, hz, rfl⟩ | ⟨z, -, hz⟩
  · cases hw with
    | plain hn => exact absurd (by simp [hz]) hn.newline
    | @static c n hc hne hn =>
      rcases newline_split hz with ⟨z', hz', rfl⟩ | ⟨z', -, hz'⟩
      · rcases newline_split hz' with ⟨z'', hz'', -⟩ | ⟨z'', -, hz''⟩
        · exact absurd (by simp [hz''] : '\n' ∈ "static".toList) (by decide)
        · rw [List.append_assoc]
          exact .core (hc.split hz'').2 (.plain hn) hb
      · exact absurd (by simp [hz']) hn.newline
  · exact .of_semicolon hb hz

/-- Behind another newline a tail is left as well. -/
lemma Tail.below {v x y : Text} (h : Tail v) (hv : v = x ++ '\n' :: y) : Tail y := by
  cases h with
  | bare h₁ h₂ =>
    rw [← List.append_assoc] at hv
    exact .of_semicolon (h₁.append h₂) hv
  | core h₁ hw h₂ =>
    rcases newline_split hv with ⟨z, hz, rfl⟩ | ⟨z, -, hz⟩
    · exact .core (h₁.split hz).2 hw h₂
    · exact .of_core hw h₂ hz

/-- A statement that started above a newline has a tail below it. -/
lemma Statement.tail {u d x y : Text} (h : Statement u d) (hu : u = x ++ '\n' :: y)
    (hx : trimStart x ≠ []) : Tail y := by
  cases h with
  | mk h₁ h₂ hne hw h₃ =>
    rcases newline_split hu with ⟨z, hz, -⟩ | ⟨z, -, hz⟩
    · exact absurd (trimStart_eq_nil (h₁.split hz).1) hx
    · rcases newline_split hz with ⟨z', hz', -⟩ | ⟨z', -, hz'⟩
      · exact absurd (by simp [hz'] : '\n' ∈ "import".toList) (by decide)
      · exact (Tail.core h₂ hw h₃).below hz'

lemma directive?_of_afterKeyword {s t : Text}
    (h : ∀ r, afterKeyword? "import" s = some r → r = ';' :: t) : directive? s = none := by
  rcases hr : afterKeyword? "import" s with _ | r
  · simp [directive?, hr]
  · obtain rfl := h r hr
    have hstatic : after? "static".toList (';' :: t) = none := rfl
    simp only [directive?, hr, hstatic, Option.bind_eq_bind, Option.bind_some, Option.bind_none,
      Option.map_none, Option.none_or, directiveName?_semicolon]

/-- No statement starts on a row inside another one, whatever follows. -/
lemma Tail.directive? {v : Text} (h : Tail v) (t : Text) : directive? (v ++ t) = none := by
  refine directive?_of_afterKeyword (t := t) fun r hr => ?_
  cases h with
  | @bare b₁ b₂ h₁ h₂ =>
    have htrim : trimStart (b₁ ++ (b₂ ++ [';']) ++ t) = ';' :: t := by
      rw [List.append_assoc, List.append_assoc, trimStart_append h₁, trimStart_append h₂]
      exact trimStart_of_head (by decide)
    have himport : after? "import".toList (';' :: t) = none := rfl
    rw [afterKeyword?, htrim, himport] at hr
    cases hr
  | @core b₁ b₂ w d h₁ hw h₂ =>
    have htrim : trimStart (b₁ ++ (w ++ (b₂ ++ [';'])) ++ t) = w ++ (b₂ ++ ';' :: t) := by
      obtain ⟨c, w, rfl, hc⟩ := hw.head
      rw [List.append_assoc, trimStart_append h₁]
      simpa using trimStart_of_head (s := w ++ (b₂ ++ ';' :: t)) (not_blank_of_dottedChar hc)
    rw [afterKeyword?, htrim] at hr
    cases hw with
    | plain hn => exact eq_semicolon_of_after dotted_import hn h₂ t hr
    | static hb hne hn => cases hr

lemma Tail.head {v : Text} (h : Tail v) (t : Text) :
    ∃ c r, trimStart (v ++ t) = c :: r ∧ (c = ';' ∨ isDottedChar c = true) := by
  cases h with
  | @bare b₁ b₂ h₁ h₂ =>
    refine ⟨';', t, ?_, Or.inl rfl⟩
    rw [List.append_assoc, List.append_assoc, trimStart_append h₁, trimStart_append h₂]
    exact trimStart_of_head (by decide)
  | @core b₁ b₂ w d h₁ hw h₂ =>
    obtain ⟨c, r, rfl, hc⟩ := hw.head
    refine ⟨c, r ++ (b₂ ++ [';']) ++ t, ?_, Or.inr hc⟩
    rw [List.append_assoc, trimStart_append h₁]
    exact trimStart_of_head (not_blank_of_dottedChar hc)

lemma slash_ne_append_tail {s v t : Text} (h : ∃ r, trimStart s = '/' :: r) (hv : Tail v) :
    s ≠ v ++ t := by
  rintro rfl
  obtain ⟨r, hr⟩ := h
  obtain ⟨c, r', hc, hread⟩ := hv.head t
  rw [hr] at hc
  obtain ⟨rfl, -⟩ := List.cons.inj hc
  rcases hread with h | h
  · exact absurd h (by decide)
  · exact absurd h (by decide)

lemma directive?_slash {s : Text} (h : ∃ r, trimStart s = '/' :: r) : directive? s = none := by
  obtain ⟨r, hr⟩ := h
  refine directive?_of_afterKeyword (t := []) fun x hx => ?_
  rw [afterKeyword?, hr] at hx
  cases hx

end TestWeaver.Proofs.ImportStatement
