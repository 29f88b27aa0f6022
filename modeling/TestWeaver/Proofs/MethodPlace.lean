import TestWeaver.Proofs.ClosingRow
import TestWeaver.Proofs.ScanMoves
import TestWeaver.Proofs.Splice

/-!
Where the methods of a fragment go: directly above the last row that closes, however many types
the text declares.

Depths are counted from the first row that declares a type. A row closes where it has a closing
brace and the depth at its end is zero. So the depth above the closing row is what this row
closes itself, and it is the last block on the outermost level that gets the methods. That is the
body of the first type where no other row closes.
-/

namespace TestWeaver.Proofs.MethodPlace

open Merge Source Text RowText Splice ClosingRow

/-! ### Depths -/

/-- The rows from row `u` on that stand above row `n`. -/
def between (rs : List Text) (u n : ℕ) : List Text := (rs.take n).drop u

/-- The depth of braces above row `n`, counted from row `u` on. -/
def depthAbove (rs : List Text) (u n : ℕ) : Int := braceSum (between rs u n)

/-- Row `n` has a closing brace and ends at depth zero. -/
def Closes (rs : List Text) (u n : ℕ) : Prop :=
  u ≤ n ∧ (∃ r ∈ rs[n]?, '}' ∈ r) ∧ depthAbove rs u (n + 1) = 0

/-- A brace has been opened between row `u` and row `n`. -/
def Opened (rs : List Text) (u n : ℕ) : Prop := ∃ r ∈ between rs u n, '{' ∈ r

/-- What goes in above row `c` goes directly into the body of the type that row `u` declares: one
brace is open there, and the depth has not been zero since a brace was opened. -/
def DirectlyInside (rs : List Text) (u c : ℕ) : Prop :=
  depthAbove rs u c = 1 ∧ ∀ n ≤ c, Opened rs u n → depthAbove rs u n ≠ 0

instance (rs : List Text) (u n : ℕ) : Decidable (Opened rs u n) := by
  unfold Opened; infer_instance

instance (rs : List Text) (u n : ℕ) : Decidable (Closes rs u n) := by
  unfold Closes; infer_instance

instance (rs : List Text) (u c : ℕ) : Decidable (DirectlyInside rs u c) := by
  unfold DirectlyInside; infer_instance

lemma between_succ {rs : List Text} {u n : ℕ} {r : Text} (hr : rs[n]? = some r) (hu : u ≤ n) :
    between rs u (n + 1) = between rs u n ++ [r] := by
  have hlen : n < rs.length := (List.getElem?_eq_some_iff.mp hr).1
  have htake : u ≤ (rs.take n).length := by
    rw [List.length_take]
    omega
  rw [between, between, List.take_add_one, hr, Option.toList_some,
    List.drop_append_of_le_length htake]

lemma between_self (rs : List Text) (u : ℕ) : between rs u u = [] := by
  rw [between, List.drop_eq_nil_iff, List.length_take]
  omega

/-- The rows between are the first rows of those from row `u` on. -/
lemma between_append (above rs : List Text) (k : ℕ) :
    between (above ++ rs) above.length (above.length + k) = rs.take k := by
  rw [between, List.take_length_add_append, List.drop_left]

lemma depthAbove_self (rs : List Text) (u : ℕ) : depthAbove rs u u = 0 := by
  rw [depthAbove, between_self, braceSum_nil]

lemma depthAbove_succ {rs : List Text} {u n : ℕ} {r : Text} (hr : rs[n]? = some r)
    (hu : u ≤ n) : depthAbove rs u (n + 1) = depthAbove rs u n + braceDelta r := by
  rw [depthAbove, depthAbove, between_succ hr hu, braceSum_append, braceSum_cons, braceSum_nil,
    Int.add_zero]

lemma depthAbove_append (above rs : List Text) (k : ℕ) :
    depthAbove (above ++ rs) above.length (above.length + k) = braceSum (rs.take k) := by
  rw [depthAbove, between_append]

/-! ### The closing row -/

/-- No row closes inside a type where the search finds none. -/
lemma depth_of_closingFrom_eq_none {d : Int} {n : ℕ} {rs : List Text}
    (h : closingFrom true d n rs = none) {k : ℕ} {r : Text} (hr : rs[k]? = some r)
    (hbrace : '}' ∈ r) : d + braceSum (rs.take (k + 1)) ≠ 0 := by
  induction rs generalizing d n k with
  | nil => cases hr
  | cons s rs ih =>
    rw [closingFrom, Bool.true_or, if_pos rfl, Option.or_eq_none_iff] at h
    obtain ⟨hrest, hrow⟩ := h
    rw [List.take_succ_cons, braceSum_cons]
    rcases k with _ | k
    · obtain rfl : s = r := by simpa using hr
      rw [List.take_zero, braceSum_nil]
      intro hd
      have hzero : d + braceDelta s = 0 := by omega
      simp [hzero, hbrace] at hrow
    · have := ih hrest (k := k) (by simpa using hr)
      omega

lemma exists_type_of_closing {rs : List Text} {d : Int} {n c : ℕ}
    (h : closingFrom false d n rs = some c) : ∃ u, rs.findIdx? declaresType = some u := by
  by_contra hno
  have hnone : rs.findIdx? declaresType = none := by
    rcases hu : rs.findIdx? declaresType with _ | u
    · rfl
    · exact absurd ⟨u, hu⟩ hno
  have hfree : ∀ r ∈ rs, declaresType r = false := by
    simpa using List.findIdx?_eq_none_iff.mp hnone
  have habove := closingFrom_above hfree d n []
  rw [List.append_nil, h] at habove
  cases habove

/-- The closing row is the last one that closes. -/
lemma closes_closingRow {s : Text} {c : ℕ} (h : closingRow? s = some c) :
    ∃ u, (rows s).findIdx? declaresType = some u ∧ Closes (rows s) u c ∧
      ∀ n, c < n → ¬ Closes (rows s) u n := by
  obtain ⟨u, hu⟩ := exists_type_of_closing h
  refine ⟨u, hu, ?_⟩
  obtain ⟨above, head, rest, hrows, rfl, hfree, hhead⟩ := split_at_type hu
  rw [closingRow?, hrows, closingFrom_above hfree, closingFrom_head hhead, Nat.zero_add] at h
  obtain ⟨body, close, below, hbody, rfl, hsum, hbrace, hlast⟩ := closingFrom_eq_some h
  rw [hrows, hbody]
  constructor
  · have hclose : (above ++ (body ++ close :: below))[above.length + body.length]? =
        some close := by simp
    refine ⟨Nat.le_add_right _ _, ⟨close, hclose, hbrace⟩, ?_⟩
    rw [Nat.add_assoc, depthAbove_append, List.take_length_add_append, braceSum_append,
      List.take_succ_cons, List.take_zero, braceSum_cons, braceSum_nil]
    omega
  · rintro n hn ⟨-, ⟨r, hr, hrbrace⟩, hdepth⟩
    obtain ⟨k, rfl⟩ : ∃ k, n = above.length + (body.length + (k + 1)) :=
      ⟨n - (above.length + body.length + 1), by omega⟩
    have hbelow : below[k]? = some r := by
      rw [List.getElem?_append_right (by omega), Nat.add_sub_cancel_left,
        List.getElem?_append_right (by omega), Nat.add_sub_cancel_left] at hr
      simpa using hr
    rw [Nat.add_assoc, Nat.add_assoc, depthAbove_append, List.take_length_add_append,
      braceSum_append, List.take_succ_cons, braceSum_cons] at hdepth
    have := depth_of_closingFrom_eq_none hlast hbelow hrbrace
    omega

lemma closingRow_lt {source : Text} {c : ℕ} (h : closingRow? source = some c) :
    c < (rows source).length := by
  obtain ⟨u, -, hcloses, -⟩ := closes_closingRow h
  obtain ⟨r, hr, -⟩ := hcloses.2.1
  exact (List.getElem?_eq_some_iff.mp hr).1

/-! ### The place -/

/-- What the closing row closes is what is open above it. -/
lemma Closes.depth {rs : List Text} {u c : ℕ} (h : Closes rs u c) :
    ∃ r ∈ rs[c]?, depthAbove rs u c = - braceDelta r := by
  obtain ⟨hu, ⟨r, hr, -⟩, hdepth⟩ := h
  refine ⟨r, hr, ?_⟩
  rw [depthAbove_succ hr hu] at hdepth
  omega

/-- The outermost block that is open above row `c` has been open since some row: it is not the
body of the first type where the depth was zero in between. -/
lemma exists_blockStart {rs : List Text} {u c : ℕ} (hu : u ≤ c) :
    ∃ p, u ≤ p ∧ p ≤ c ∧ depthAbove rs u p = 0 ∧
      ∀ n, p < n → n ≤ c → depthAbove rs u n ≠ 0 := by
  induction c, hu using Nat.le_induction with
  | base => exact ⟨u, le_rfl, le_rfl, depthAbove_self rs u, fun n hn hle => by omega⟩
  | succ c hu ih =>
    by_cases hc : depthAbove rs u (c + 1) = 0
    · exact ⟨c + 1, by omega, le_rfl, hc, fun n hn hle => by omega⟩
    · obtain ⟨p, hup, hpc, hp, hopen⟩ := ih
      refine ⟨p, hup, by omega, hp, fun n hn hle => ?_⟩
      rcases Nat.lt_or_ge c n with h | h
      · obtain rfl : n = c + 1 := by omega
        exact hc
      · exact hopen n hn h

/-- Where braces never close more than is open, a depth of zero behind an open brace is the work
of a row that closes. -/
lemma exists_closes_of_depth {rs : List Text} {u n : ℕ} (hu : u ≤ n) (hlen : n ≤ rs.length)
    (hnest : ∀ n, 0 ≤ depthAbove rs u n) (ho : Opened rs u n) (hd : depthAbove rs u n = 0) :
    ∃ m < n, Closes rs u m := by
  induction n, hu using Nat.le_induction with
  | base =>
    obtain ⟨r, hr, -⟩ := ho
    rw [between_self] at hr
    cases hr
  | succ n hu ih =>
    have hr : rs[n]? = some rs[n] := List.getElem?_eq_getElem (by omega)
    have hsucc := depthAbove_succ hr hu
    by_cases hclose : '}' ∈ rs[n]
    · exact ⟨n, by omega, hu, ⟨_, hr, hclose⟩, hd⟩
    have hopen : '{' ∉ rs[n] := by
      intro hopen
      have hzero : rs[n].count '}' = 0 := List.count_eq_zero.mpr hclose
      have hpos : 0 < rs[n].count '{' := List.count_pos_iff.mpr hopen
      have := hnest n
      rw [braceDelta] at hsucc
      omega
    -- a row without braces: the depth was zero above it already
    have hdelta : braceDelta rs[n] = 0 := by
      rw [braceDelta, List.count_eq_zero.mpr hopen, List.count_eq_zero.mpr hclose]
      rfl
    have hbefore : Opened rs u n := by
      obtain ⟨r, hmem, hbrace⟩ := ho
      rw [between_succ hr hu, List.mem_append, List.mem_singleton] at hmem
      rcases hmem with hmem | rfl
      · exact ⟨r, hmem, hbrace⟩
      · exact absurd hbrace hopen
    obtain ⟨m, hm, hcloses⟩ := ih (by omega) hbefore (by omega)
    exact ⟨m, by omega, hcloses⟩

lemma braceSum_le_zero {rs : List Text} (h : ∀ r ∈ rs, '{' ∉ r) : braceSum rs ≤ 0 := by
  induction rs with
  | nil => simp
  | cons r rs ih =>
    obtain ⟨hr, hrest⟩ := List.forall_mem_cons.mp h
    have := ScanMoves.braceDelta_le_zero hr
    have := ih hrest
    rw [braceSum_cons]
    omega

/-- A row that closes has an open brace above its end. -/
lemma Closes.opened {rs : List Text} {u n : ℕ} (h : Closes rs u n) : Opened rs u (n + 1) := by
  obtain ⟨hu, ⟨r, hr, hbrace⟩, hdepth⟩ := h
  by_contra hno
  have hnone : ∀ s ∈ between rs u (n + 1), '{' ∉ s := fun s hs hb => hno ⟨s, hs, hb⟩
  rw [between_succ hr hu, List.forall_mem_append] at hnone
  obtain ⟨habove, hrow⟩ := hnone
  have hsum := braceSum_le_zero habove
  have hopen : r.count '{' = 0 := List.count_eq_zero.mpr (hrow r (by simp))
  have hclose : 0 < r.count '}' := List.count_pos_iff.mpr hbrace
  rw [depthAbove_succ hr hu, depthAbove, braceDelta] at hdepth
  omega

/-- Where braces never close more than is open, the place is in the first type's body just if its
row closes one brace and no other row closes. -/
lemma directlyInside_iff {rs : List Text} {u c : ℕ} (h : Closes rs u c)
    (hlast : ∀ n, c < n → ¬ Closes rs u n) (hnest : ∀ n, 0 ≤ depthAbove rs u n) :
    DirectlyInside rs u c ↔
      (∃ r ∈ rs[c]?, braceDelta r = -1) ∧ ∀ n, Closes rs u n → n = c := by
  obtain ⟨r, hr, hdepth⟩ := h.depth
  have hlen : c < rs.length := (List.getElem?_eq_some_iff.mp hr).1
  constructor
  · rintro ⟨hone, hinside⟩
    refine ⟨⟨r, hr, by omega⟩, fun n hn => ?_⟩
    by_contra hne
    have hle : n + 1 ≤ c := by
      have : ¬ c < n := fun hlt => hlast n hlt hn
      omega
    exact hinside (n + 1) hle hn.opened hn.2.2
  · rintro ⟨⟨r', hr', hone⟩, honly⟩
    obtain rfl : r = r' := Option.some.inj (hr.symm.trans hr')
    refine ⟨by omega, fun n hn ho hzero => ?_⟩
    have hu : u ≤ n := by
      by_contra hlt
      obtain ⟨s, hs, -⟩ := ho
      have hnil : between rs u n = [] := by
        rw [between, List.drop_eq_nil_iff, List.length_take]
        omega
      rw [hnil] at hs
      cases hs
    obtain ⟨m, hm, hcloses⟩ := exists_closes_of_depth hu (by omega) hnest ho hzero
    have := honly m hcloses
    omega

/-- **The place of the methods.** They go directly above the last row from the first type on that
closes, and nothing else changes. As many braces are open there as this row closes, one just if it
closes one; the outermost of them has been open since some row, and the depth has not been zero in
between. Where braces never close more than is open, the place is directly in the body of the first
type just if its row closes one brace and no other row closes. -/
theorem mergeFragment_place {existing : Text} {c : ℕ} (h : closingRow? existing = some c)
    (fragment : Text) :
    ∃ u, (rows existing).findIdx? declaresType = some u ∧
      rows (mergeFragment existing fragment) =
        (rows existing).take c ++ (methodBlock fragment ++ (rows existing).drop c) ∧
      Closes (rows existing) u c ∧ (∀ n, c < n → ¬ Closes (rows existing) u n) ∧
      (depthAbove (rows existing) u c = 1 ↔ ∃ r ∈ (rows existing)[c]?, braceDelta r = -1) ∧
      (∃ p, u ≤ p ∧ p ≤ c ∧ depthAbove (rows existing) u p = 0 ∧
        ∀ n, p < n → n ≤ c → depthAbove (rows existing) u n ≠ 0) ∧
      ((∀ n, 0 ≤ depthAbove (rows existing) u n) →
        (DirectlyInside (rows existing) u c ↔
          (∃ r ∈ (rows existing)[c]?, braceDelta r = -1) ∧
            ∀ n, Closes (rows existing) u n → n = c)) := by
  obtain ⟨u, hu, hcloses, hlast⟩ := closes_closingRow h
  refine ⟨u, hu, rows_mergeFragment h fragment, hcloses, hlast, ?_,
    exists_blockStart hcloses.1, directlyInside_iff hcloses hlast⟩
  obtain ⟨r, hr, hdepth⟩ := hcloses.depth
  constructor
  · exact fun hone => ⟨r, hr, by omega⟩
  · rintro ⟨r', hr', hone⟩
    obtain rfl : r = r' := Option.some.inj (hr.symm.trans hr')
    omega

/-- A class with one method: its only row that closes is the last, so new methods go directly into
its body. -/
theorem mergeFragment_place_oneType :
    let existing := "@Tag\nclass A \x7b\n  void f() \x7b\n  \x7d\n\x7d\n".toList
    let fragment := "@Test\nvoid t() \x7b\x7d\n\x7d".toList
    closingRow? existing = some 4 ∧
      rows (mergeFragment existing fragment) =
        (rows existing).take 4 ++ (methodBlock fragment ++ (rows existing).drop 4) ∧
      DirectlyInside (rows existing) 1 4 := by
  intro existing fragment
  have hc : closingRow? existing = some 4 := by decide +kernel
  obtain ⟨u, hu, hrows, hcloses, hlast, -, -, hinside⟩ := mergeFragment_place hc fragment
  obtain rfl : u = 1 := by
    have htype : (rows existing).findIdx? declaresType = some 1 := by decide +kernel
    exact Option.some.inj (hu.symm.trans htype)
  have hfirst : ∀ n ≤ 6, 0 ≤ depthAbove (rows existing) 1 n := by decide +kernel
  have hnest : ∀ n, 0 ≤ depthAbove (rows existing) 1 n := by
    intro n
    rcases Nat.le_or_ge n 6 with hn | hn
    · exact hfirst n hn
    · have hall : depthAbove (rows existing) 1 n = depthAbove (rows existing) 1 6 := by
        have hlen : (rows existing).length = 6 := by decide +kernel
        rw [depthAbove, depthAbove, between, between, List.take_of_length_le (by omega),
          List.take_of_length_le (by omega)]
      rw [hall]
      exact hfirst 6 le_rfl
  have honly : ∀ n ≤ 4, Closes (rows existing) 1 n → n = 4 := by decide +kernel
  refine ⟨hc, hrows, (hinside hnest).mpr ⟨by decide +kernel, fun n hn => ?_⟩⟩
  rcases Nat.le_or_ge n 4 with hle | hge
  · exact honly n hle hn
  · by_contra hne
    exact hlast n (by omega) hn

/-- With two types the methods go into the body of the second one. -/
theorem mergeFragment_place_twoTypes :
    let existing := "class A \x7b\n\x7d\nclass B \x7b\n\x7d".toList
    let fragment := "@Test\nvoid t() \x7b\x7d\n\x7d".toList
    (rows existing).findIdx? declaresType = some 0 ∧ closingRow? existing = some 3 ∧
      ¬ DirectlyInside (rows existing) 0 3 ∧
      mergeFragment existing fragment =
        ("class A \x7b\n\x7d\nclass B \x7b\n\n    // Additional test methods\n" ++
          "@Test\nvoid t() \x7b\x7d\n\x7d").toList := by
  decide +kernel

end TestWeaver.Proofs.MethodPlace
