import Mathlib.Algebra.BigOperators.Group.List.Basic
import Mathlib.Algebra.GroupWithZero.Nat
import Mathlib.Data.List.Forall2
import TestWeaver.Text.Basic

/-!
A text and its pieces: cutting at a character and joining with it undo each other, and both go
along with appending.
-/

namespace TestWeaver.Proofs.RowText

open Text

variable {sep : Char}

/-! ### Joining -/

lemma joinWith_cons (p : Text) {ps : List Text} (h : ps ≠ []) :
    joinWith sep (p :: ps) = p ++ sep :: joinWith sep ps := by
  cases ps with
  | nil => exact absurd rfl h
  | cons q qs => rfl

variable (sep) in
/-- Pieces put together begin with the first piece. -/
lemma exists_joinWith_cons (p : Text) (ps : List Text) :
    ∃ s, joinWith sep (p :: ps) = p ++ s := by
  by_cases h : ps = []
  · exact ⟨[], by rw [h, List.append_nil]; rfl⟩
  · exact ⟨sep :: joinWith sep ps, joinWith_cons p h⟩

lemma joinWith_append {ps qs : List Text} (hp : ps ≠ []) (hq : qs ≠ []) :
    joinWith sep (ps ++ qs) = joinWith sep ps ++ sep :: joinWith sep qs := by
  induction ps with
  | nil => exact absurd rfl hp
  | cons p ps ih =>
    rw [List.cons_append, joinWith_cons p (by simp [hq])]
    by_cases h : ps = []
    · subst h
      rfl
    · rw [ih h, joinWith_cons p h]
      simp

/-- Joining adds no characters but the separator. -/
lemma mem_joinWith {c : Char} (hc : c ≠ sep) {ps : List Text} :
    c ∈ joinWith sep ps ↔ ∃ p ∈ ps, c ∈ p := by
  induction ps with
  | nil => simp [joinWith]
  | cons p ps ih =>
    by_cases h : ps = []
    · subst h
      simp [joinWith]
    · rw [joinWith_cons p h]
      simp [ih, hc]

/-- More pieces in front make a longer text. -/
lemma length_joinWith_lt {ps qs : List Text} (hp : ps ≠ []) (hne : ∀ p ∈ ps, p ≠ []) :
    (joinWith sep qs).length < (joinWith sep (ps ++ qs)).length := by
  by_cases hq : qs = []
  · obtain ⟨p, ps, rfl⟩ := List.exists_cons_of_ne_nil hp
    obtain ⟨s, hs⟩ := exists_joinWith_cons sep p (ps ++ qs)
    have hpos := List.length_pos_iff.mpr (hne p (List.mem_cons_self ..))
    rw [List.cons_append, hs, hq, List.length_append]
    exact Nat.lt_of_lt_of_le hpos (Nat.le_add_right _ _)
  · rw [joinWith_append hp hq, List.length_append, List.length_cons]
    omega

/-- Pieces of known lengths can be told apart when they are joined. -/
lemma joinWith_injective {ps qs : List Text}
    (h : List.Forall₂ (fun p q => p.length = q.length) ps qs)
    (heq : joinWith sep ps = joinWith sep qs) : ps = qs := by
  induction h with
  | nil => rfl
  | cons hpq hrest ih =>
    next p q ps qs =>
    by_cases hp : ps = []
    · subst hp
      obtain rfl := List.forall₂_nil_left_iff.mp hrest
      exact congrArg (fun s => [s]) heq
    · have hq : qs ≠ [] := by
        rintro rfl
        exact hp (List.forall₂_nil_right_iff.mp hrest)
      rw [joinWith_cons p hp, joinWith_cons q hq] at heq
      obtain ⟨rfl, htail⟩ := List.append_inj heq hpq
      rw [ih (List.cons.inj htail).2]

/-! ### Cutting -/

lemma splitAt_cons_self (s : Text) : splitAt sep (sep :: s) = [] :: splitAt sep s := by
  simp [splitAt]

lemma splitAt_cons_of_ne {c : Char} (h : c ≠ sep) (s : Text) :
    ∃ p ps, splitAt sep s = p :: ps ∧ splitAt sep (c :: s) = (c :: p) :: ps := by
  rcases hs : splitAt sep s with _ | ⟨p, ps⟩
  · exact absurd hs (splitAt_ne_nil sep s)
  · exact ⟨p, ps, rfl, by simp [splitAt, h, hs]⟩

lemma splitAt_of_not_mem {p : Text} (h : sep ∉ p) : splitAt sep p = [p] := by
  induction p with
  | nil => rfl
  | cons c p ih =>
    obtain ⟨hc, hp⟩ := List.ne_and_not_mem_of_not_mem_cons h
    simp [splitAt, Ne.symm hc, ih hp]

lemma splitAt_append (a b : Text) :
    splitAt sep (a ++ sep :: b) = splitAt sep a ++ splitAt sep b := by
  induction a with
  | nil => simp [splitAt]
  | cons c a ih =>
    by_cases hc : c = sep
    · subst hc
      rw [List.cons_append, splitAt_cons_self, splitAt_cons_self, ih, List.cons_append]
    · obtain ⟨p, ps, ha, hca⟩ := splitAt_cons_of_ne hc a
      rw [hca, List.cons_append]
      simp [splitAt, hc, ih, ha]

/-- No piece holds the character that the text was cut at. -/
lemma not_mem_of_mem_splitAt {s p : Text} (h : p ∈ splitAt sep s) : sep ∉ p := by
  induction s generalizing p with
  | nil =>
    obtain rfl : p = [] := by simpa [splitAt] using h
    simp
  | cons c s ih =>
    by_cases hc : c = sep
    · subst hc
      rw [splitAt_cons_self, List.mem_cons] at h
      rcases h with rfl | h
      · simp
      · exact ih h
    · obtain ⟨q, qs, hs, hcs⟩ := splitAt_cons_of_ne hc s
      rw [hcs, List.mem_cons] at h
      rcases h with rfl | h
      · have := ih (p := q) (by simp [hs])
        simp [this, Ne.symm hc]
      · exact ih (by simp [hs, h])

/-- Cutting gives back the pieces that were joined. -/
lemma splitAt_joinWith {ps : List Text} (hne : ps ≠ []) (h : ∀ p ∈ ps, sep ∉ p) :
    splitAt sep (joinWith sep ps) = ps := by
  induction ps with
  | nil => exact absurd rfl hne
  | cons p ps ih =>
    obtain ⟨hp, hps⟩ := List.forall_mem_cons.mp h
    by_cases hnil : ps = []
    · subst hnil
      exact splitAt_of_not_mem hp
    · rw [joinWith_cons p hnil, splitAt_append, splitAt_of_not_mem hp, ih hnil hps]
      rfl

/-- A character other than the separator occurs in a text as often as in its pieces. -/
lemma count_eq_sum_splitAt {c : Char} (h : c ≠ sep) (s : Text) :
    s.count c = ((splitAt sep s).map fun p => p.count c).sum := by
  induction s with
  | nil => simp [splitAt]
  | cons d s ih =>
    by_cases hd : d = sep
    · subst hd
      rw [splitAt_cons_self, List.count_cons_of_ne (Ne.symm h), ih]
      simp
    · obtain ⟨p, ps, hs, hds⟩ := splitAt_cons_of_ne hd s
      rw [hs] at ih
      rw [hds]
      simp only [List.map_cons, List.sum_cons, List.count_cons] at ih ⊢
      omega

end TestWeaver.Proofs.RowText
