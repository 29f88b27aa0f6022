import Mathlib.Data.List.DropRight
import TestWeaver.Proofs.HeaderText

/-!
The signature of a method, and that it is read as the method it was printed for.

A signature is a header again: modifiers, type, name and parameters with single blanks between
them, and neither annotations nor type parameters. Its type is the type that was read, so it is no
modifier, and the modifiers end in front of it; behind it the header can be read in one way only.
-/

namespace TestWeaver.Proofs.Signatures

open Source Text ImportStatement HeaderText

/-! ### Trimming -/

lemma trimEnd_trimEnd (s : Text) : trimEnd (trimEnd s) = trimEnd s := by
  rw [trimEnd, trimEnd, List.reverse_reverse, List.dropWhile_idempotent]

lemma trimEnd_concat {c : Char} (h : isBlank c = false) (s : Text) :
    trimEnd (s ++ [c]) = s ++ [c] := by
  simp [trimEnd, h]

lemma trimStart_trim (s : Text) : trimStart (trim s) = trim s := by
  obtain ⟨b, hb, hs⟩ := MergedBraces.exists_trimEnd (trimStart s)
  rcases ht : trim s with _ | ⟨c, t⟩
  · rfl
  · rw [← trim, ht] at hs
    exact trimStart_of_head (not_blank_of_trimStart hs)

lemma trim_trim (s : Text) : trim (trim s) = trim s := by
  rw [trim, trimStart_trim, trim, trimEnd_trimEnd]

/-! ### Signatures -/

lemma blanks_nil : Blanks [] := fun _ hc => absurd hc List.not_mem_nil

lemma blanks_space : Blanks [' '] := by decide

/-- Modifiers with single blanks between them are read as these modifiers. -/
lemma modified_joinWith {m : Text} {ms : List Text} (hms : ∀ m' ∈ m :: ms, m' ∈ memberModifiers)
    (r : Text) : Modified (m :: ms) (joinWith ' ' (m :: ms) ++ ' ' :: r) r := by
  have hspace : [' '] ≠ [] := by simp
  induction ms generalizing m with
  | nil => exact .cons (hms m (List.mem_cons_self ..)) blanks_space hspace (.nil r)
  | cons m' ms ih =>
    obtain ⟨hm, hms⟩ := List.forall_mem_cons.mp hms
    have hjoin : joinWith ' ' (m :: m' :: ms) ++ ' ' :: r =
        m ++ ([' '] ++ (joinWith ' ' (m' :: ms) ++ ' ' :: r)) := by simp [joinWith]
    rw [hjoin]
    exact .cons hm blanks_space hspace (ih hms)

/-- A signature, behind the blanks that trimming takes away. -/
lemma exists_modified {ms : List Text} (hms : ∀ m ∈ ms, m ∈ memberModifiers) (r : Text) :
    ∃ b s, Blanks b ∧ joinWith ' ' ms ++ ' ' :: r = b ++ s ∧ Modified ms s r := by
  rcases ms with _ | ⟨m, ms⟩
  · exact ⟨[' '], r, blanks_space, rfl, .nil r⟩
  · exact ⟨[], _, blanks_nil, rfl, modified_joinWith hms r⟩

/-- **A signature is a faithful record of the method**: it is read, and as the method that it was
printed for. -/
theorem member?_signature {line : Text} {n : Int} {m : Member} (h : member? line n = some m) :
    member? m.signature n = some m := by
  obtain ⟨⟨ms, ty, name, parameters⟩, hread, hmethod, rfl⟩ := member?_eq_some_iff.mp h
  obtain ⟨hms, t, ht, rfl, tail, hnamed⟩ := header?_eq_some hread
  obtain ⟨hname, hclose⟩ : Word name ∧ ')' ∉ parameters := by
    cases hnamed with
    | mk h₁ hne hn h₂ hp => exact ⟨hn, hp⟩
  let tail' : Text := [' '] ++ (name ++ ([] ++ '(' :: (trim parameters ++ ')' :: [])))
  have hnamed' : Named name (trim parameters) tail' :=
    .mk blanks_space (List.cons_ne_nil ' ' []) hname blanks_nil
      fun hp => hclose ((mem_trim_iff (by decide)).mp hp)
  have hplain : Plain (t.text ++ tail') := plain_text ht hmethod.modifier hnamed'
  obtain ⟨b, s, hb, hsplit, hs⟩ := exists_modified hms (t.text ++ tail')
  have hsignature : Member.signature ⟨name, ms, t.text, trim parameters, n, n⟩ = s := by
    obtain ⟨front, hfront⟩ := hs.suffix
    have hend : s = front ++ (t.text ++ ' ' :: (name ++ '(' :: trim parameters)) ++ [')'] := by
      simp [← hfront, tail']
    calc Member.signature ⟨name, ms, t.text, trim parameters, n, n⟩
        = trim (joinWith ' ' ms ++ ' ' :: (t.text ++ tail')) := by
          simp [Member.signature, tail']
      _ = trimEnd (trimStart s) := by rw [hsplit, trim, trimStart_append hb]
      _ = trimEnd s := by rw [hs.trimStart_eq hplain.head]
      _ = s := by rw [hend, trimEnd_concat (by decide)]
  rw [hsignature]
  have hheader := header?_text (b := []) ht hmethod.modifier hnamed' blanks_nil hs
  exact member?_eq_some_iff.mpr ⟨_, hheader, ⟨hmethod.name, hmethod.modifier, hmethod.keyword⟩,
    by rw [trim_trim]⟩

/-- Annotations, type parameters, blanks and what is thrown are not part of a signature. -/
theorem member?_signature_pick :
    let line := "  @Override public static <T> Map<K, T>[]  pick (T a, int b ) throws E \x7b".toList
    let m : Member := ⟨"pick".toList, ["public".toList, "static".toList], "Map<K, T>[]".toList,
      "T a, int b".toList, 7, 7⟩
    m.signature = "public static Map<K, T>[] pick(T a, int b)".toList ∧
      member? line 7 = some m ∧ member? m.signature 7 = some m := by
  intro line m
  have hread : member? line 7 = some m := by decide +kernel
  exact ⟨by decide +kernel, hread, member?_signature hread⟩

end TestWeaver.Proofs.Signatures
