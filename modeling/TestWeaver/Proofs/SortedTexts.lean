import Mathlib.Data.Char
import Mathlib.Data.List.Lex
import Mathlib.Order.Bounds.Basic
import TestWeaver.Dependency.Lookup

/-!
Texts in the order of code points.

That order is the lexical one, so it is total, and a list of texts is sorted by insertion: the same
texts, each below all that follow it. So the first text that a search finds in the sorted list is
the least one, whatever the order was in which the texts came.
-/

namespace TestWeaver.Proofs.SortedTexts

open Dependency

lemma textLe_iff {s t : Text} : textLe s t = true ↔ s ≤ t := by
  rw [← not_lt]
  induction s generalizing t with
  | nil => simp [textLe]
  | cons c s ih =>
    cases t with
    | nil => simp [textLe]
    | cons d t =>
      have hlt : c.toNat < d.toNat ↔ c < d := Iff.rfl
      have hcons : d :: t < c :: s ↔ d < c ∨ d = c ∧ t < s := List.cons_lt_cons_iff
      rw [hcons, textLe, Bool.or_eq_true, Bool.and_eq_true, decide_eq_true_iff,
        decide_eq_true_iff, ih, hlt]
      rcases lt_trichotomy c d with hcd | rfl | hcd
      · simp [hcd, hcd.not_gt, hcd.ne']
      · simp
      · simp [hcd, hcd.not_gt, hcd.ne']

variable {a b : Text} {ts us : List Text}

lemma mem_insertSorted : b ∈ insertSorted a ts ↔ b = a ∨ b ∈ ts := by
  induction ts with
  | nil => simp [insertSorted]
  | cons t ts ih =>
    rw [insertSorted]
    split
    · rw [List.mem_cons]
    · rw [List.mem_cons, List.mem_cons, ih]
      exact or_left_comm

lemma mem_sortTexts : b ∈ sortTexts ts ↔ b ∈ ts := by
  induction ts with
  | nil => exact Iff.rfl
  | cons t ts ih =>
    change b ∈ insertSorted t (sortTexts ts) ↔ _
    rw [mem_insertSorted, ih, List.mem_cons]

lemma insertSorted_sorted (h : ts.Pairwise (· ≤ ·)) : (insertSorted a ts).Pairwise (· ≤ ·) := by
  induction ts with
  | nil => exact List.pairwise_singleton _ a
  | cons t ts ih =>
    obtain ⟨ht, hts⟩ := List.pairwise_cons.mp h
    rw [insertSorted]
    split
    · next hle =>
      have hle := textLe_iff.mp hle
      refine List.pairwise_cons.mpr ⟨List.forall_mem_cons.mpr ⟨hle, fun u hu => ?_⟩, h⟩
      exact hle.trans (ht u hu)
    · next hnot =>
      have hle : t ≤ a := le_of_not_ge fun hle => hnot (textLe_iff.mpr hle)
      refine List.pairwise_cons.mpr ⟨fun u hu => ?_, ih hts⟩
      rcases mem_insertSorted.mp hu with rfl | hu
      · exact hle
      · exact ht u hu

lemma sortTexts_sorted (ts : List Text) : (sortTexts ts).Pairwise (· ≤ ·) := by
  induction ts with
  | nil => exact List.Pairwise.nil
  | cons t ts ih => exact insertSorted_sorted ih

/-- The first hit in a sorted list is the least one. -/
lemma find?_eq_some_iff {p : Text → Bool} (h : ts.Pairwise (· ≤ ·)) :
    ts.find? p = some a ↔ IsLeast {b | b ∈ ts ∧ p b = true} a := by
  induction ts with
  | nil => simp [IsLeast]
  | cons t ts ih =>
    obtain ⟨ht, hts⟩ := List.pairwise_cons.mp h
    rcases hp : p t with _ | _
    · rw [List.find?_cons_of_neg (by simp [hp]), ih hts]
      have hset : {b | b ∈ t :: ts ∧ p b = true} = {b | b ∈ ts ∧ p b = true} := by
        ext b
        simp only [Set.mem_ofPred_eq, List.mem_cons, or_and_right, or_iff_right_iff_imp]
        rintro ⟨rfl, hb⟩
        rw [hp] at hb
        cases hb
      rw [hset]
    · rw [List.find?_cons_of_pos hp]
      have hleast : IsLeast {b | b ∈ t :: ts ∧ p b = true} t :=
        ⟨⟨List.mem_cons_self, hp⟩, fun b hb => (List.mem_cons.mp hb.1).elim Eq.ge (ht b)⟩
      exact ⟨fun heq => Option.some.inj heq ▸ hleast, fun ha => congrArg some (hleast.unique ha)⟩

end TestWeaver.Proofs.SortedTexts
