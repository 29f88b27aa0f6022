import Mathlib.Algebra.BigOperators.Group.List.Basic
import Mathlib.Algebra.Ring.Int.Defs
import TestWeaver.Merge.Closing
import TestWeaver.Merge.Insertion
import TestWeaver.Proofs.RowText

/-!
The row that closes the outermost type, by sums of braces.

The rows of a text that a type closes fall into five parts, and the closing row stays the same
row when rows that declare no type come in above the type, or when rows whose braces balance
come in above the closing row.
-/

namespace TestWeaver.Proofs.ClosingRow

open Merge Source Text RowText

/-- Opening less closing braces on all the rows. -/
def braceSum (rs : List Text) : Int := (rs.map braceDelta).sum

@[simp] lemma braceSum_nil : braceSum [] = 0 := rfl

@[simp] lemma braceSum_cons (r : Text) (rs : List Text) :
    braceSum (r :: rs) = braceDelta r + braceSum rs := by
  simp [braceSum]

@[simp] lemma braceSum_append (xs ys : List Text) :
    braceSum (xs ++ ys) = braceSum xs + braceSum ys := by
  simp [braceSum]

/-- The braces on the rows of a text are those of the text. -/
lemma braceSum_rows (s : Text) : braceSum (rows s) = braceDelta s := by
  have hsum : ∀ rs : List Text, braceSum rs =
      (((rs.map fun r => r.count '{').sum : ℕ) : Int) -
        ((rs.map fun r => r.count '}').sum : ℕ) := by
    intro rs
    induction rs with
    | nil => rfl
    | cons r rs ih =>
      rw [braceSum_cons, ih, braceDelta]
      simp only [List.map_cons, List.sum_cons]
      omega
  rw [hsum, ← count_eq_sum_splitAt (by decide), ← count_eq_sum_splitAt (by decide), braceDelta]

/-! ### The search for the closing row -/

lemma closingFrom_append (d : Int) (n : ℕ) (xs ys : List Text) :
    closingFrom true d n (xs ++ ys) =
      (closingFrom true (d + braceSum xs) (n + xs.length) ys).or (closingFrom true d n xs) := by
  induction xs generalizing d n with
  | nil => simp [closingFrom]
  | cons x xs ih =>
    have hd : d + braceDelta x + braceSum xs = d + braceSum (x :: xs) := by
      rw [braceSum_cons]
      omega
    have hn : n + 1 + xs.length = n + (x :: xs).length := by
      rw [List.length_cons]
      omega
    simp only [List.cons_append, closingFrom, Bool.true_or, if_true, ih, hd, hn, Option.or_assoc]

lemma closingFrom_shift (inType : Bool) (d : Int) (n k : ℕ) (rs : List Text) :
    closingFrom inType d (n + k) rs = (closingFrom inType d n rs).map (· + k) := by
  induction rs generalizing inType d n with
  | nil => rfl
  | cons r rs ih =>
    have hn : n + k + 1 = n + 1 + k := by omega
    rw [closingFrom, closingFrom, hn]
    split
    · simp only [ih, Option.map_or]
      split <;> rfl
    · exact ih _ _ _

/-- Rows in front of the first type are passed over. -/
lemma closingFrom_above {above : List Text} (h : ∀ r ∈ above, declaresType r = false) (d : Int)
    (n : ℕ) (rs : List Text) :
    closingFrom false d n (above ++ rs) = closingFrom false d (n + above.length) rs := by
  induction above generalizing n with
  | nil => rfl
  | cons r above ih =>
    obtain ⟨hr, hrest⟩ := List.forall_mem_cons.mp h
    have hn : n + 1 + above.length = n + (r :: above).length := by
      rw [List.length_cons]
      omega
    simp only [List.cons_append, closingFrom, hr, Bool.or_false, Bool.false_eq_true, if_false,
      ih hrest, hn]

lemma closingFrom_head {head : Text} (h : declaresType head = true) (d : Int) (n : ℕ)
    (rs : List Text) : closingFrom false d n (head :: rs) = closingFrom true d n (head :: rs) := by
  simp [closingFrom, h]

/-- A closing row inside a type stands where the braces balance, and no row below it closes. -/
lemma closingFrom_eq_some {d : Int} {n c : ℕ} {rs : List Text}
    (h : closingFrom true d n rs = some c) :
    ∃ body close below, rs = body ++ close :: below ∧ c = n + body.length ∧
      d + braceSum body + braceDelta close = 0 ∧ '}' ∈ close ∧
      closingFrom true 0 0 below = none := by
  induction rs generalizing d n with
  | nil => cases h
  | cons r rs ih =>
    simp only [closingFrom, Bool.true_or, if_true] at h
    rcases Option.or_eq_some_iff.mp h with hrest | ⟨hrest, hr⟩
    · obtain ⟨body, close, below, rfl, rfl, hsum, hbrace, hlast⟩ := ih hrest
      refine ⟨r :: body, close, below, rfl, ?_, ?_, hbrace, hlast⟩
      · rw [List.length_cons]
        omega
      · rw [braceSum_cons]
        omega
    · split at hr
      · next hd =>
        simp only [Bool.and_eq_true, decide_eq_true_eq, List.contains_iff_mem] at hd
        obtain ⟨hd, hbrace⟩ := hd
        refine ⟨[], r, rs, rfl, ?_, ?_, hbrace, ?_⟩
        · simpa using (Option.some.inj hr).symm
        · simpa using hd
        · have hshift := closingFrom_shift true 0 0 (n + 1) rs
          rw [hd, ← Nat.zero_add (n + 1), hshift] at hrest
          exact Option.map_eq_none_iff.mp hrest
      · cases hr

/-- The rows above the first type, its own row and the rows below it. -/
lemma split_at_type {rs : List Text} {u : ℕ} (hu : rs.findIdx? declaresType = some u) :
    ∃ above head rest, rs = above ++ head :: rest ∧ above.length = u ∧
      (∀ r ∈ above, declaresType r = false) ∧ declaresType head = true := by
  obtain ⟨hlt, hhead, habove⟩ := List.findIdx?_eq_some_iff_getElem.mp hu
  refine ⟨rs.take u, rs[u], rs.drop (u + 1), ?_, ?_, fun r hr => ?_, hhead⟩
  · rw [← List.drop_eq_getElem_cons hlt, List.take_append_drop]
  · rw [List.length_take]
    omega
  · obtain ⟨i, hi, rfl⟩ := List.mem_take_iff_getElem.mp hr
    simpa using habove i (by omega)

/-! ### Rows with a closed type -/

/-- Rows in which the type that `head` declares, the first one, is closed by the row `close`. -/
structure ClosedType where
  above : List Text
  head : Text
  body : List Text
  close : Text
  below : List Text
  above_free : ∀ r ∈ above, declaresType r = false
  declares : declaresType head = true
  balanced : braceSum (head :: body) + braceDelta close = 0
  brace : '}' ∈ close
  last : closingFrom true 0 0 below = none

namespace ClosedType

/-- The rows in front of the closing one. -/
def front (u : ClosedType) : List Text := u.above ++ u.head :: u.body

def rows (u : ClosedType) : List Text := u.front ++ u.close :: u.below

lemma closing_rows (u : ClosedType) :
    closingFrom false 0 0 u.rows = some u.front.length := by
  have hrows : u.rows = u.above ++ u.head :: (u.body ++ u.close :: u.below) := by
    simp [rows, front]
  have hlen : 0 + u.above.length + (u.head :: u.body).length = u.front.length := by
    simp [front]
  have hlast : closingFrom true 0 (u.front.length + 1) u.below = none := by
    rw [← Nat.zero_add (u.front.length + 1), closingFrom_shift, u.last]
    rfl
  have hdepth : 0 + braceSum (u.head :: u.body) + braceDelta u.close = 0 := by
    have := u.balanced
    omega
  have hclose : u.close.contains '}' = true := List.contains_iff_mem.mpr u.brace
  rw [hrows, closingFrom_above u.above_free, closingFrom_head u.declares, ← List.cons_append,
    closingFrom_append, hlen, closingFrom, Bool.true_or, if_pos rfl]
  simp only [hdepth, hlast, hclose, decide_true, Bool.and_true, if_true, Option.none_or,
    Option.some_or]

/-- Rows whose closing row lies below the first row that declares a type have the five parts. -/
lemma exists_of_closing {rs : List Text} {u c : ℕ} (hu : rs.findIdx? declaresType = some u)
    (hc : closingFrom false 0 0 rs = some c) (huc : u < c) :
    ∃ t : ClosedType, t.rows = rs ∧ t.front.length = c := by
  obtain ⟨above, head, rest, rfl, rfl, hfree, hhead⟩ := split_at_type hu
  rw [closingFrom_above hfree, closingFrom_head hhead, Nat.zero_add, closingFrom] at hc
  simp only [Bool.true_or, if_true] at hc
  rcases Option.or_eq_some_iff.mp hc with hc | ⟨-, hc⟩
  · obtain ⟨body, close, below, rfl, rfl, hsum, hbrace, hlast⟩ := closingFrom_eq_some hc
    refine ⟨⟨above, head, body, close, below, hfree, hhead, ?_, hbrace, hlast⟩, ?_, ?_⟩
    · rw [braceSum_cons]
      omega
    · rw [rows, front, List.append_assoc, List.cons_append]
    · simp only [front, List.length_append, List.length_cons]
      omega
  · split at hc
    · obtain rfl := Option.some.inj hc
      omega
    · cases hc

/-- Rows that declare no type come in above the type. -/
def insertAbove (u : ClosedType) (n : ℕ) (block : List Text)
    (h : ∀ r ∈ block, declaresType r = false) : ClosedType where
  above := u.above.take n ++ block ++ u.above.drop n
  head := u.head
  body := u.body
  close := u.close
  below := u.below
  above_free := by
    intro r hr
    simp only [List.mem_append] at hr
    rcases hr with (hr | hr) | hr
    · exact u.above_free r (List.mem_of_mem_take hr)
    · exact h r hr
    · exact u.above_free r (List.mem_of_mem_drop hr)
  declares := u.declares
  balanced := u.balanced
  brace := u.brace
  last := u.last

/-- Rows whose braces balance come in above the closing row. -/
def insertBelow (u : ClosedType) (block : List Text) (h : braceSum block = 0) : ClosedType where
  above := u.above
  head := u.head
  body := u.body ++ block
  close := u.close
  below := u.below
  above_free := u.above_free
  declares := u.declares
  balanced := by
    have := u.balanced
    simp only [braceSum_cons, braceSum_append] at this ⊢
    omega
  brace := u.brace
  last := u.last

lemma rows_insertAbove {u : ClosedType} {i : Insertion} (hi : i.position ≤ u.above.length)
    (h : ∀ r ∈ i.added, declaresType r = false) :
    (u.insertAbove i.position i.added h).rows = i.apply u.rows := by
  simp only [rows, front, insertAbove, Insertion.apply, List.append_assoc]
  rw [List.take_append_of_le_length hi, List.drop_append_of_le_length hi]

lemma length_insertAbove (u : ClosedType) (n : ℕ) {block : List Text}
    (h : ∀ r ∈ block, declaresType r = false) :
    (u.insertAbove n block h).front.length = u.front.length + block.length := by
  simp only [front, insertAbove, List.length_append, List.length_take, List.length_drop,
    List.length_cons]
  omega

lemma rows_insertBelow {u : ClosedType} {block : List Text} (h : braceSum block = 0) :
    (u.insertBelow block h).rows = Insertion.apply ⟨u.front.length, block⟩ u.rows := by
  rw [Insertion.apply, rows, rows, List.take_left, List.drop_left]
  simp [front, insertBelow]

lemma length_insertBelow (u : ClosedType) {block : List Text} (h : braceSum block = 0) :
    (u.insertBelow block h).front.length = u.front.length + block.length := by
  simp only [front, insertBelow, List.length_append, List.length_cons]
  omega

end ClosedType

end TestWeaver.Proofs.ClosingRow
