import TestWeaver.Proofs.RowText
import TestWeaver.Proofs.Utf8Octets
import TestWeaver.Text.Lowercase

/-!
Lower-casing and the rows of a text.

What stands around a character matters to lower-casing only for a final sigma, and the search for a
word's end never passes a newline, which neither belongs to a word nor is skipped. So the rows of a
lower-cased text are the lower-cased rows, and a mark without a newline is in the text just where it
is in one of them.
-/

namespace TestWeaver.Proofs.LowerRows

open Text RowText Utf8Octets

/-! ### The newline and the case tables -/

lemma not_isCaseIgnorable_newline : isCaseIgnorable '\n' = false := by decide

lemma not_isCased_newline : isCased '\n' = false := by decide

lemma lowerChar_newline : lowerChar '\n' = ['\n'] := by decide

/-- Small letters stay above a code point that the letters and all shifted runs are above. -/
lemma lt_lowerIn {k n : Nat} (hn : k < n) {runs : List CaseRun}
    (h : ∀ r ∈ runs, (k : Int) < r.first + r.offset) : k < lowerIn n runs := by
  induction runs with
  | nil => exact hn
  | cons r rs ih =>
    obtain ⟨hr, hrs⟩ := List.forall_mem_cons.mp h
    rw [lowerIn]
    split
    · exact hn
    · split
      · omega
      · exact ih hrs

lemma ofNat_ne_newline {n : Nat} (h : 10 < n) : Char.ofNat n ≠ '\n' := by
  intro heq
  by_cases hvalid : n.isValidChar
  · have hn : n = 10 := by rw [← toNat_ofNat hvalid, heq]; rfl
    omega
  · rw [Char.ofNat, dif_neg hvalid] at heq
    exact absurd heq (by decide)

lemma newline_lt_runs : ∀ r ∈ lowercaseRuns, ((10 : Nat) : Int) < r.first + r.offset := by
  decide +kernel

/-- Only the newline is lower-cased to a newline. -/
lemma newline_not_mem_lowerChar {c : Char} (hc : c ≠ '\n') : '\n' ∉ lowerChar c := by
  rw [lowerChar]
  split
  · rw [List.mem_singleton]
    split
    · next hupper =>
      have hlow : 65 ≤ c.toNat := (decide_eq_true_iff.mp hupper).1
      exact (ofNat_ne_newline (by omega)).symm
    · exact hc.symm
  · split
    · decide
    · next hascii _ =>
      rw [List.mem_singleton]
      exact (ofNat_ne_newline (lt_lowerIn (by omega) newline_lt_runs)).symm

/-! ### Lower-casing row by row -/

lemma meetsCased_newline (s : Text) : meetsCased ('\n' :: s) = false := by
  rw [meetsCased, not_isCaseIgnorable_newline]
  exact not_isCased_newline

/-- The search for the end of a word ends at a newline. -/
lemma meetsCased_append_newline (a b : Text) : meetsCased (a ++ '\n' :: b) = meetsCased a := by
  induction a with
  | nil => exact meetsCased_newline b
  | cons c a ih => rw [List.cons_append, meetsCased, meetsCased, ih]

lemma lowerAfter_newline (inWord : Bool) (s : Text) :
    lowerAfter inWord ('\n' :: s) = '\n' :: lower s := by
  rw [lowerAfter, lowerChar_newline, not_isCaseIgnorable_newline, not_isCased_newline]
  rfl

/-- Behind a newline lower-casing begins anew. -/
lemma lowerAfter_append_newline (inWord : Bool) (a b : Text) :
    lowerAfter inWord (a ++ '\n' :: b) = lowerAfter inWord a ++ '\n' :: lower b := by
  induction a generalizing inWord with
  | nil => exact lowerAfter_newline inWord b
  | cons c a ih =>
    rw [List.cons_append, lowerAfter, lowerAfter, meetsCased_append_newline, ih,
      List.append_assoc]

lemma newline_not_mem_lowerAfter {s : Text} (h : '\n' ∉ s) (inWord : Bool) :
    '\n' ∉ lowerAfter inWord s := by
  induction s generalizing inWord with
  | nil => exact h
  | cons c s ih =>
    obtain ⟨hc, hs⟩ := List.ne_and_not_mem_of_not_mem_cons h
    rw [lowerAfter, List.mem_append, not_or]
    refine ⟨?_, ih hs _⟩
    split
    · decide
    · exact newline_not_mem_lowerChar (Ne.symm hc)

lemma lower_append_newline (a b : Text) : lower (a ++ '\n' :: b) = lower a ++ '\n' :: lower b :=
  lowerAfter_append_newline false a b

lemma lower_joinWith (rs : List Text) :
    lower (joinWith '\n' rs) = joinWith '\n' (rs.map lower) := by
  induction rs with
  | nil => rfl
  | cons r rs ih =>
    by_cases hnil : rs = []
    · subst hnil
      rfl
    · have hmap : rs.map lower ≠ [] := by simpa using hnil
      rw [List.map_cons, joinWith_cons r hnil, joinWith_cons (lower r) hmap,
        lower_append_newline, ih]

/-- **Lower-casing goes row by row.** -/
lemma rows_lower (s : Text) : rows (lower s) = (rows s).map lower := by
  have hfree : ∀ r ∈ (rows s).map lower, '\n' ∉ r := by
    intro r hr
    obtain ⟨q, hq, rfl⟩ := List.mem_map.mp hr
    exact newline_not_mem_lowerAfter (not_mem_of_mem_splitAt hq) false
  have hjoin : lower s = joinWith '\n' ((rows s).map lower) := by
    rw [← lower_joinWith, joinWith_splitAt]
  rw [hjoin]
  exact splitAt_joinWith (by simpa using splitAt_ne_nil '\n' s) hfree

/-! ### Marks in rows -/

variable {sep : Char}

lemma eq_nil_of_prefix_cons {m s : Text} (hm : sep ∉ m) (h : m <+: sep :: s) : m = [] := by
  rcases List.prefix_cons_iff.mp h with hnil | ⟨t, rfl, -⟩
  · exact hnil
  · exact absurd (List.mem_cons_self ..) hm

/-- A mark without the separator does not reach across it. -/
lemma infix_append_cons {m p s : Text} (hm : sep ∉ m) :
    m <:+: p ++ sep :: s ↔ m <:+: p ∨ m <:+: s := by
  constructor
  · intro h
    rcases List.infix_append_iff.mp h with hp | hs | ⟨l, r, rfl, hl, hr⟩
    · exact .inl hp
    · rcases List.infix_cons_iff.mp hs with hprefix | hs
      · exact .inl (eq_nil_of_prefix_cons hm hprefix ▸ List.nil_infix)
      · exact .inr hs
    · have hnil : r = [] := eq_nil_of_prefix_cons (fun h => hm (List.mem_append_right l h)) hr
      rw [hnil, List.append_nil]
      exact .inl hl.isInfix
  · rintro (hp | hs)
    · exact hp.trans (List.prefix_append ..).isInfix
    · exact hs.trans ((List.suffix_cons sep s).trans (List.suffix_append ..)).isInfix

/-- A mark without the separator lies in one of the pieces. -/
lemma infix_iff_exists_splitAt {m : Text} (hm : sep ∉ m) (s : Text) :
    m <:+: s ↔ ∃ p ∈ splitAt sep s, m <:+: p := by
  have hpieces : ∀ ps : List Text, ps ≠ [] →
      (m <:+: joinWith sep ps ↔ ∃ p ∈ ps, m <:+: p) := by
    intro ps
    induction ps with
    | nil => exact fun h => absurd rfl h
    | cons p ps ih =>
      intro _
      by_cases hnil : ps = []
      · subst hnil
        simp [joinWith]
      · rw [joinWith_cons p hnil, infix_append_cons hm, ih hnil]
        simp
  rw [← hpieces _ (splitAt_ne_nil sep s), joinWith_splitAt]

/-- **A mark is in a lower-cased text where it is in a lower-cased row.** -/
lemma infix_lower_iff {m : Text} (hm : '\n' ∉ m) (s : Text) :
    m <:+: lower s ↔ ∃ row ∈ rows s, m <:+: lower row := by
  rw [infix_iff_exists_splitAt hm, ← rows, rows_lower]
  simp

end TestWeaver.Proofs.LowerRows
