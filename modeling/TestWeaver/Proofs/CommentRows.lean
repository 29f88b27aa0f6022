import TestWeaver.Proofs.FirstType
import TestWeaver.Proofs.MethodPlace

/-!
One more comment row, and the row that closes a type.

The scan passes over comments, but the search for the closing row counts their braces. So a comment
below the declaration of the first type stays without effect only if it moves the depth of no row
that closes or would close then, and does not become the closing row itself. A comment without
braces is always such a comment.
-/

namespace TestWeaver.Proofs.CommentRows

open Merge Source Text Splice ClosingRow MethodPlace FirstType

/-- The text with one more row, which gets the number `p`. -/
def withRow (p : ℕ) (row s : Text) : Text := Insertion.applyText ⟨p, [row]⟩ s

/-- The number that row `n` gets when one more row comes in as number `p`. -/
def moved (p n : ℕ) : ℕ := if p ≤ n then n + 1 else n

/-- Rows from the new one on get the next number. -/
lemma moved_add (p : ℕ) : moved p ∘ (· + p) = (· + (p + 1)) := by
  funext c
  simp only [Function.comp_apply, moved]
  rw [if_pos (Nat.le_add_left p c), Nat.add_assoc]

/-- The braces of a new row number `p` are without effect: they balance, or no row from there on
closes with them or without them; and the new row does not close unless a later one does. -/
structure Unseen (rs : List Text) (u p : ℕ) (row : Text) : Prop where
  kept : braceDelta row = 0 ∨ ∀ n, p ≤ n → ∀ r ∈ rs[n]?, '}' ∈ r →
    depthAbove rs u (n + 1) ≠ 0 ∧ depthAbove rs u (n + 1) + braceDelta row ≠ 0
  passed : '}' ∈ row → depthAbove rs u p + braceDelta row = 0 → ∃ n, p ≤ n ∧ Closes rs u n

lemma declaresType_of_comment {l : Text} (h : isCommentOrBlank l = true) :
    declaresType l = false := by
  rcases hd : declaredType? l with _ | n
  · rw [declaresType, hd]
    rfl
  · have hcode := (plain_of_declaredType? hd).2
    rw [opensType, h] at hcode
    cases hcode

/-! ### The search in the rows below -/

/-- The search below finds nothing just where no row ends at depth zero with a closing brace. -/
lemma closingFrom_eq_none_iff {d : Int} {n : ℕ} {rs : List Text} :
    closingFrom true d n rs = none ↔
      ∀ k, ∀ r ∈ rs[k]?, '}' ∈ r → d + braceSum (rs.take (k + 1)) ≠ 0 := by
  refine ⟨fun h k r hr hbrace => depth_of_closingFrom_eq_none h hr hbrace, fun h => ?_⟩
  by_contra hne
  obtain ⟨c, hc⟩ := Option.ne_none_iff_exists'.mp hne
  obtain ⟨body, close, below, rfl, -, hsum, hbrace, -⟩ := closingFrom_eq_some hc
  refine h body.length close (by simp) hbrace ?_
  rw [List.take_length_add_append, List.take_succ_cons, List.take_zero, braceSum_append,
    braceSum_cons, braceSum_nil]
  omega

/-- One row closes at one depth only. -/
lemma depth_unique {d d' : Int} {n c : ℕ} {rs : List Text}
    (h : closingFrom true d n rs = some c) (h' : closingFrom true d' n rs = some c) : d = d' := by
  obtain ⟨body, close, below, rfl, rfl, hsum, -, -⟩ := closingFrom_eq_some h
  obtain ⟨body', close', below', hrows, hlen, hsum', -, -⟩ := closingFrom_eq_some h'
  obtain ⟨rfl, hrest⟩ := List.append_inj hrows (by omega)
  obtain ⟨rfl, -⟩ := List.cons.inj hrest
  omega

lemma closingFrom_congr_iff {d d' : Int} {rs : List Text} :
    closingFrom true d 0 rs = closingFrom true d' 0 rs ↔
      d = d' ∨ closingFrom true d 0 rs = none ∧ closingFrom true d' 0 rs = none := by
  constructor
  · intro h
    rcases hc : closingFrom true d 0 rs with _ | c
    · exact Or.inr ⟨rfl, by rw [← h, hc]⟩
    · exact Or.inl (depth_unique hc (by rw [← h, hc]))
  · rintro (rfl | ⟨h, h'⟩)
    · rfl
    · rw [h, h']

lemma closingFrom_lt {d : Int} {n c : ℕ} {rs : List Text}
    (h : closingFrom true d n rs = some c) : c < n + rs.length := by
  obtain ⟨body, close, below, rfl, rfl, -⟩ := closingFrom_eq_some h
  simp only [List.length_append, List.length_cons]
  omega

/-- Of three searches, of which the first one wins, the last ones find what is above. -/
lemma or_eq_or_iff {p : ℕ} {above own below below' : Option ℕ} (habove : ∀ a ∈ above, a < p)
    (hown : ∀ c ∈ own, c = p) :
    (below'.map (· + (p + 1))).or (own.or above) = (below.map (· + (p + 1))).or above ↔
      below = below' ∧ (own ≠ none → below ≠ none) := by
  rcases below with _ | b
  · rcases below' with _ | b'
    · rcases own with _ | c
      · simp
      · obtain rfl := hown c rfl
        simp only [Option.map_none, Option.none_or, Option.some_or]
        refine ⟨fun h => ?_, fun h => absurd rfl (h.2 (Option.some_ne_none c))⟩
        have := habove c h.symm
        omega
    · simp only [Option.map_some, Option.map_none, Option.some_or, Option.none_or, reduceCtorEq,
        false_and, iff_false]
      intro h
      have := habove _ h.symm
      omega
  · rcases below' with _ | b'
    · simp only [Option.map_none, Option.map_some, Option.none_or, Option.some_or, reduceCtorEq,
        false_and, iff_false]
      intro h
      rcases own with _ | c
      · have := habove _ h
        omega
      · have := hown c rfl
        have := Option.some.inj h
        omega
    · simp [eq_comm]

/-! ### Depths below the new row -/

lemma depthAbove_add {rs : List Text} {u p : ℕ} (hu : u ≤ p) (hp : p ≤ rs.length) (k : ℕ) :
    depthAbove rs u (p + k) = depthAbove rs u p + braceSum ((rs.drop p).take k) := by
  have hlen : u ≤ (rs.take p).length := by rwa [List.length_take_of_le hp]
  rw [depthAbove, depthAbove, between, between, List.take_add, List.drop_append_of_le_length hlen,
    braceSum_append]

lemma closingFrom_drop_eq_none_iff {rs : List Text} {u p : ℕ} (hu : u ≤ p) (hp : p ≤ rs.length)
    (e : Int) :
    closingFrom true (depthAbove rs u p + e) 0 (rs.drop p) = none ↔
      ∀ n, p ≤ n → ∀ r ∈ rs[n]?, '}' ∈ r → depthAbove rs u (n + 1) + e ≠ 0 := by
  rw [closingFrom_eq_none_iff]
  constructor
  · intro h n hn r hr hbrace
    obtain ⟨k, rfl⟩ := Nat.exists_eq_add_of_le hn
    have := h k r (by rwa [List.getElem?_drop]) hbrace
    rw [Nat.add_assoc, depthAbove_add hu hp]
    omega
  · intro h k r hr hbrace
    have := h (p + k) (Nat.le_add_right p k) r (by rwa [← List.getElem?_drop]) hbrace
    rw [Nat.add_assoc, depthAbove_add hu hp] at this
    omega

lemma closingFrom_drop_ne_none_iff {rs : List Text} {u p : ℕ} (hu : u ≤ p) (hp : p ≤ rs.length) :
    closingFrom true (depthAbove rs u p) 0 (rs.drop p) ≠ none ↔ ∃ n, p ≤ n ∧ Closes rs u n := by
  rw [← Int.add_zero (depthAbove rs u p), Ne, closingFrom_drop_eq_none_iff hu hp]
  constructor
  · intro h
    push Not at h
    obtain ⟨n, hn, r, hr, hbrace, hd⟩ := h
    exact ⟨n, hn, hu.trans hn, ⟨r, hr, hbrace⟩, by omega⟩
  · rintro ⟨n, hn, -, ⟨r, hr, hbrace⟩, hd⟩ h
    exact h n hn r hr hbrace (by omega)

/-! ### The closing row -/

/-- The search from the first type on, in the three parts that row `p` makes. -/
lemma closingFrom_parts {rs : List Text} {u p : ℕ} (hu : rs.findIdx? declaresType = some u)
    (hup : u < p) (hp : p ≤ rs.length) (new : List Text) :
    closingFrom false 0 0 (rs.take p ++ new) =
      (closingFrom true (depthAbove rs u p) p new).or
        (closingFrom true 0 u (between rs u p)) := by
  obtain ⟨above, head, rest, rfl, rfl, hfree, hhead⟩ := split_at_type hu
  obtain ⟨k, rfl⟩ : ∃ k, p = above.length + (k + 1) := ⟨p - above.length - 1, by omega⟩
  rw [List.length_append] at hp
  have hlen : (List.take (k + 1) (head :: rest)).length = k + 1 :=
    List.length_take_of_le (by omega)
  rw [depthAbove, between_append, List.take_length_add_append, List.append_assoc,
    closingFrom_above hfree, Nat.zero_add, List.take_succ_cons, List.cons_append,
    closingFrom_head hhead, ← List.cons_append, ← List.take_succ_cons, closingFrom_append, hlen,
    Int.zero_add]

/-- The first rows declare no type if the first type is not among them. -/
lemma free_of_take {rs : List Text} {p : ℕ}
    (h : ∀ u, rs.findIdx? declaresType = some u → ¬ u < p) :
    ∀ r ∈ rs.take p, declaresType r = false := by
  rcases hu : (rs.take p).findIdx? declaresType with _ | u
  · simpa using List.findIdx?_eq_none_iff.mp hu
  · have hlt := (List.findIdx?_eq_some_iff_getElem.mp hu).1
    rw [List.length_take] at hlt
    have hfirst : rs.findIdx? declaresType = some u := by
      rw [← List.take_append_drop p rs, List.findIdx?_append, hu, Option.some_or]
    exact absurd (by omega) (h u hfirst)

/-- A comment above the first type only moves the rows below it. -/
lemma closing_above {rs : List Text} {p : ℕ} {l : Text} (hl : declaresType l = false)
    (hp : p ≤ rs.length) (hfree : ∀ r ∈ rs.take p, declaresType r = false) :
    closingFrom false 0 0 (rs.take p ++ l :: rs.drop p) =
      (closingFrom false 0 0 rs).map (moved p) := by
  have hlen : 0 + (rs.take p).length = 0 + p := by rw [List.length_take_of_le hp]
  have hold : closingFrom false 0 0 rs = (closingFrom false 0 0 (rs.drop p)).map (· + p) := by
    conv_lhs => rw [← List.take_append_drop p rs]
    rw [closingFrom_above hfree, hlen, closingFrom_shift]
  rw [closingFrom_above hfree, hlen, closingFrom, hl, Bool.or_false, if_neg Bool.false_ne_true,
    Nat.add_assoc, closingFrom_shift, hold, Option.map_map, moved_add]

section Below

variable {rs : List Text} {u p : ℕ}

lemma closing_between_lt (hp : p ≤ rs.length) (hup : u < p) :
    ∀ a ∈ closingFrom true 0 u (between rs u p), a < p := by
  intro a ha
  have := closingFrom_lt ha
  rw [between, List.length_drop, List.length_take_of_le hp] at this
  omega

/-- The search without the new row, in the numbers that the rows have with it. -/
lemma closing_moved (hu : rs.findIdx? declaresType = some u) (hup : u < p) (hp : p ≤ rs.length) :
    (closingFrom false 0 0 rs).map (moved p) =
      ((closingFrom true (depthAbove rs u p) 0 (rs.drop p)).map (· + (p + 1))).or
        (closingFrom true 0 u (between rs u p)) := by
  have habove : (closingFrom true 0 u (between rs u p)).map (moved p) =
      closingFrom true 0 u (between rs u p) := by
    rcases ha : closingFrom true 0 u (between rs u p) with _ | a
    · rfl
    · rw [Option.map_some, moved, if_neg (Nat.not_le.mpr (closing_between_lt hp hup a ha))]
  conv_lhs => rw [← List.take_append_drop p rs]
  rw [closingFrom_parts hu hup hp, Option.map_or, ← Nat.zero_add p, closingFrom_shift,
    Nat.zero_add, Option.map_map, moved_add, habove]

/-- The search with the new row: below it, in it, above it. -/
lemma closing_withRow (hu : rs.findIdx? declaresType = some u) (hup : u < p) (hp : p ≤ rs.length)
    (l : Text) : closingFrom false 0 0 (rs.take p ++ l :: rs.drop p) =
      ((closingFrom true (depthAbove rs u p + braceDelta l) 0 (rs.drop p)).map (· + (p + 1))).or
        ((if depthAbove rs u p + braceDelta l = 0 && l.contains '}' then some p else none).or
          (closingFrom true 0 u (between rs u p))) := by
  rw [closingFrom_parts hu hup hp, closingFrom, Bool.true_or, if_pos rfl, Option.or_assoc,
    ← Nat.zero_add (p + 1), closingFrom_shift, Nat.zero_add]

/-- Below the new row the search finds the same just if the braces of the row have no effect. -/
lemma closing_kept_iff (hup : u ≤ p) (hp : p ≤ rs.length) (l : Text) :
    closingFrom true (depthAbove rs u p) 0 (rs.drop p) =
        closingFrom true (depthAbove rs u p + braceDelta l) 0 (rs.drop p) ↔
      braceDelta l = 0 ∨ ∀ n, p ≤ n → ∀ r ∈ rs[n]?, '}' ∈ r →
        depthAbove rs u (n + 1) ≠ 0 ∧ depthAbove rs u (n + 1) + braceDelta l ≠ 0 := by
  have hold := closingFrom_drop_eq_none_iff hup hp 0
  simp only [Int.add_zero] at hold
  rw [closingFrom_congr_iff, hold, closingFrom_drop_eq_none_iff hup hp]
  refine or_congr (by omega) ⟨fun h n hn r hr hbrace => ?_, fun h => ?_⟩
  · exact ⟨h.1 n hn r hr hbrace, h.2 n hn r hr hbrace⟩
  · exact ⟨fun n hn r hr hbrace => (h n hn r hr hbrace).1,
      fun n hn r hr hbrace => (h n hn r hr hbrace).2⟩

/-- A comment below the declaration of the first type leaves the closing row as it is just if it is
without effect. -/
lemma closing_below_iff (hu : rs.findIdx? declaresType = some u) (hup : u < p)
    (hp : p ≤ rs.length) (l : Text) :
    closingFrom false 0 0 (rs.take p ++ l :: rs.drop p) =
        (closingFrom false 0 0 rs).map (moved p) ↔ Unseen rs u p l := by
  have hown : ∀ c ∈ (if depthAbove rs u p + braceDelta l = 0 && l.contains '}' then some p
      else none), c = p := by
    intro c hc
    split at hc
    · exact (Option.some.inj hc).symm
    · cases hc
  rw [closing_withRow hu hup hp, closing_moved hu hup hp,
    or_eq_or_iff (closing_between_lt hp hup) hown, closing_kept_iff hup.le hp,
    closingFrom_drop_ne_none_iff hup.le hp]
  constructor
  · rintro ⟨hk, hpassed⟩
    exact ⟨hk, fun hbrace hd => hpassed (by simp [hbrace, hd])⟩
  · rintro ⟨hk, hpassed⟩
    refine ⟨hk, fun hne => ?_⟩
    split at hne
    · next hclose =>
      simp only [Bool.and_eq_true, decide_eq_true_eq, List.contains_iff_mem] at hclose
      exact hpassed hclose.2 hclose.1
    · exact absurd rfl hne

end Below

/-- **A comment among the rows.** Wherever a comment comes in, the closing row stays the same row,
and none stays none, just if the comment stands above the declaration of the first type or its
braces are without effect there. -/
theorem closingRow?_withRow_iff {s l : Text} {p : ℕ} (hl : isCommentOrBlank l = true)
    (hn : '\n' ∉ l) (hp : p ≤ (rows s).length) :
    closingRow? (withRow p l s) = (closingRow? s).map (moved p) ↔
      ∀ u, (rows s).findIdx? declaresType = some u → u < p → Unseen (rows s) u p l := by
  have hrows : rows (withRow p l s) = (rows s).take p ++ l :: (rows s).drop p := by
    rw [withRow, rows_applyText (by simpa using hn), Insertion.apply, List.append_assoc]
    rfl
  rw [closingRow?, hrows, closingRow?]
  by_cases h : ∃ u, (rows s).findIdx? declaresType = some u ∧ u < p
  · obtain ⟨u, hu, hup⟩ := h
    rw [closing_below_iff hu hup hp]
    constructor
    · intro hunseen v hv _
      obtain rfl : u = v := Option.some.inj (hu.symm.trans hv)
      exact hunseen
    · exact fun hunseen => hunseen u hu hup
  · have hfree := free_of_take fun u hu hup => h ⟨u, hu, hup⟩
    refine iff_of_true (closing_above (declaresType_of_comment hl) hp hfree) fun u hu hup => ?_
    exact absurd ⟨u, hu, hup⟩ h

/-- Braces that balance inside the body of a type have no effect. -/
theorem closingRow?_withRow_balanced :
    let s := "class A \x7b\n  void f() \x7b\n  \x7d\n\x7d\n".toList
    let l := "  // an empty body: \x7b\x7d".toList
    isCommentOrBlank l = true ∧ '\n' ∉ l ∧ 2 ≤ (rows s).length ∧
      closingRow? (withRow 2 l s) = some 4 := by
  intro s l
  have hclosing : closingRow? s = some 3 := by decide +kernel
  have hunseen : Unseen (rows s) 0 2 l := by
    refine ⟨.inl (by decide +kernel), fun _ _ => ⟨3, by omega, ?_⟩⟩
    decide +kernel
  have hsame := closingRow?_withRow_iff (s := s) (l := l) (p := 2) (by decide +kernel)
    (by decide +kernel) (by decide +kernel)
  refine ⟨by decide +kernel, by decide +kernel, by decide +kernel, ?_⟩
  rw [hsame.mpr fun u hu _ => ?_, hclosing]
  · rfl
  · obtain rfl : 0 = u := by
      have htype : (rows s).findIdx? declaresType = some 0 := by decide +kernel
      exact Option.some.inj (htype.symm.trans hu)
    exact hunseen

/-- With a closing brace in a comment the search ends at the last row of a method. -/
theorem closingRow?_withRow_brace :
    let s := "class A \x7b\n  void f() \x7b\n  \x7d\n\x7d".toList
    let l := "  // \x7d".toList
    isCommentOrBlank l = true ∧ '\n' ∉ l ∧ (closingRow? s).map (moved 1) = some 4 ∧
      closingRow? (withRow 1 l s) = some 3 := by
  decide +kernel

end TestWeaver.Proofs.CommentRows
