/-!
Sets of code points as sorted, disjoint ranges, the form in which the character properties
of this library are tabulated.
-/

namespace TestWeaver.Text

/-- Whether `n` lies in one of the sorted ranges, ends included. -/
def inRanges (n : Nat) : List (Nat × Nat) → Bool
  | [] => false
  | (lo, hi) :: rs => if n < lo then false else if n ≤ hi then true else inRanges n rs

theorem inRanges_sound {n : Nat} {rs : List (Nat × Nat)} (h : inRanges n rs = true) :
    ∃ r ∈ rs, r.1 ≤ n ∧ n ≤ r.2 := by
  induction rs with
  | nil => simp [inRanges] at h
  | cons r rs ih =>
    obtain ⟨lo, hi⟩ := r
    simp only [inRanges] at h
    split at h
    · simp at h
    · split at h
      · exact ⟨(lo, hi), by simp, by omega, by omega⟩
      · obtain ⟨r, hr, h1⟩ := ih h
        exact ⟨r, by simp [hr], h1⟩

end TestWeaver.Text
