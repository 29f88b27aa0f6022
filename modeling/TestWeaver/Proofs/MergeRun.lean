import TestWeaver.Proofs.ImportPlace
import TestWeaver.Proofs.MergedBraces

/-!
Merging step after step into a text that a type closes.

No step moves the closing row: new imports come in above the type, and methods directly above
the closing row itself, so that the row that closes the type is the same after every step.
-/

namespace TestWeaver.Merge.Step

/-- The edits that a step makes, in order. -/
def insertions (existing : Text) : Step → List Insertion
  | imports f => (importInsertion? existing f).toList
  | members f => (fragmentInsertion? existing f).toList
  | both f =>
    (importInsertion? existing f).toList ++
      (fragmentInsertion? (mergeImports existing f) f).toList

/-- The rows that a step puts in front of the closing row. -/
def block : Step → List Text
  | imports _ => []
  | members f => Proofs.Splice.methodBlock f
  | both f => Proofs.Splice.methodBlock f

/-- The methods that a step adds have as many opening as closing braces. -/
def Balanced : Step → Prop
  | imports _ => True
  | members f => (fragmentMembers f).count '{' = (fragmentMembers f).count '}'
  | both f => (fragmentMembers f).count '{' = (fragmentMembers f).count '}'

instance : DecidablePred Balanced := fun s =>
  match s with
  | imports _ => inferInstanceAs (Decidable True)
  | members _ => inferInstanceAs (Decidable (_ = _))
  | both _ => inferInstanceAs (Decidable (_ = _))

/-- The step finds no closing row and puts its fragment at the end. -/
def Appends (existing : Text) : Step → Prop
  | imports _ => False
  | members f => fragmentInsertion? existing f = none
  | both f => fragmentInsertion? (mergeImports existing f) f = none

end TestWeaver.Merge.Step

namespace TestWeaver.Proofs.MergeRun

open Merge Source Text RowText Splice ClosingRow ImportPlace

/-! ### New imports stay above the type -/

lemma importPosition_le (u : ClosedType) : (importPosition u.rows).1 ≤ u.above.length := by
  obtain ⟨above, between, rest, hrows, hpos, hfree, -, -⟩ := importPosition_split u.rows
  rw [hpos]
  by_contra hlt
  -- the row that declares the type would stand above the place
  have hhead : u.rows[u.above.length]? = some u.head := by
    simp [ClosedType.rows, ClosedType.front]
  rw [hrows, List.getElem?_append_left (by omega)] at hhead
  have hdeclares := hfree u.head (List.mem_append_left _ (List.mem_of_getElem? hhead))
  rw [u.declares] at hdeclares
  cases hdeclares

/-! ### The invariant -/

/-- The number of rows that edits put in. -/
def inserted (is : List Insertion) : ℕ := (is.map fun i => i.added.length).sum

lemma inserted_append (is js : List Insertion) :
    inserted (is ++ js) = inserted is + inserted js := by
  simp [inserted]

/-- The text `t` is what the edits `is` make of a text that closes on row `c`; the rows `block`
are those that they put in front of the closing row. -/
structure Grown (existing : Text) (c : ℕ) (is : List Insertion) (block : List Text)
    (t : Text) : Prop where
  parts : ∃ u : ClosedType, u.rows = rows t ∧ u.front.length = c + inserted is ∧
    u.close :: u.below = (rows existing).drop c ∧ ∃ mid, u.body = mid ++ block
  applied : is.foldl (fun rs i => i.apply rs) (rows existing) = rows t
  undone : is.foldr Insertion.undo (rows t) = rows existing

section Steps

variable {existing : Text} {c : ℕ} {is : List Insertion} {block : List Text} {t : Text}

lemma grown_start {u : ℕ} (hu : (rows existing).findIdx? declaresType = some u)
    (hc : closingRow? existing = some c) (huc : u < c) : Grown existing c [] [] existing := by
  obtain ⟨v, hrows, hlen⟩ := ClosedType.exists_of_closing hu hc huc
  refine ⟨⟨v, hrows, hlen, ?_, v.body, (List.append_nil _).symm⟩, rfl, rfl⟩
  rw [← hrows, ClosedType.rows, ← hlen, List.drop_left]

lemma Grown.closing (h : Grown existing c is block t) :
    closingRow? t = some (c + inserted is) := by
  obtain ⟨u, hrows, hlen, -, -⟩ := h.parts
  rw [closingRow?, ← hrows, u.closing_rows, hlen]

/-- The closing row and all below it are the old ones. -/
lemma Grown.drop (h : Grown existing c is block t) :
    (rows t).drop (c + inserted is) = (rows existing).drop c := by
  obtain ⟨u, hrows, hlen, hback, -⟩ := h.parts
  rw [← hlen, ← hrows, ClosedType.rows, List.drop_left, hback]

/-- One edit more, the type closed as before. -/
lemma Grown.insert {i : Insertion} {t' : Text} {block' : List Text}
    (h : Grown existing c is block t) (hi : i.position ≤ (rows t).length)
    (ht : rows t' = i.apply (rows t))
    (hparts : ∃ u : ClosedType, u.rows = rows t' ∧ u.front.length = c + inserted (is ++ [i]) ∧
      u.close :: u.below = (rows existing).drop c ∧ ∃ mid, u.body = mid ++ block') :
    Grown existing c (is ++ [i]) block' t' := by
  refine ⟨hparts, ?_, ?_⟩
  · rw [List.foldl_append, h.applied, ht]
    rfl
  · have hundo : [i].foldr Insertion.undo (rows t') = rows t := by
      rw [ht]
      exact Insertion.undo_apply hi
    rw [List.foldr_append, hundo, h.undone]

lemma Grown.imports (h : Grown existing c is block t) (fragment : Text) :
    Grown existing c (is ++ (importInsertion? t fragment).toList) block
      (mergeImports t fragment) := by
  rcases hi : importInsertion? t fragment with _ | i
  · rw [mergeImports_of_nil (importInsertion?_eq_none.mp hi), Option.toList_none,
      List.append_nil]
    exact h
  · obtain ⟨u, hrows, hlen, hback, mid, hbody⟩ := h.parts
    have heq := importInsertion?_eq_some hi
    have hfree : ∀ r ∈ i.added, declaresType r = false := by
      rw [heq]
      exact importBlock_free t fragment
    have hpos : i.position ≤ u.above.length := by
      rw [heq, ← hrows]
      exact importPosition_le u
    have hle : u.above.length ≤ (rows t).length := by
      rw [← hrows]
      simp [ClosedType.rows, ClosedType.front]
    have hsum : inserted [i] = i.added.length := by simp [inserted]
    refine h.insert (hpos.trans hle) (rows_mergeImports hi)
      ⟨u.insertAbove i.position i.added hfree, ?_, ?_, hback, mid, hbody⟩
    · rw [rows_mergeImports hi, ← hrows, ClosedType.rows_insertAbove hpos]
    · rw [ClosedType.length_insertAbove, hlen, inserted_append, hsum, Nat.add_assoc]

lemma Grown.fragmentInsertion?_eq (h : Grown existing c is block t) (fragment : Text) :
    fragmentInsertion? t fragment = some ⟨c + inserted is, methodBlock fragment⟩ := by
  rw [Splice.fragmentInsertion?_eq, h.closing]
  rfl

lemma Grown.members (h : Grown existing c is block t) {fragment : Text}
    (hb : (fragmentMembers fragment).count '{' = (fragmentMembers fragment).count '}') :
    Grown existing c (is ++ (fragmentInsertion? t fragment).toList)
      (block ++ methodBlock fragment) (mergeFragment t fragment) := by
  obtain ⟨u, hrows, hlen, hback, mid, hbody⟩ := h.parts
  have hsum : inserted [⟨c + inserted is, methodBlock fragment⟩] =
      (methodBlock fragment).length := by simp [inserted]
  have hle : u.front.length ≤ (rows t).length := by
    rw [← hrows]
    simp [ClosedType.rows]
  have hmerge : rows (mergeFragment t fragment) =
      Insertion.apply ⟨c + inserted is, methodBlock fragment⟩ (rows t) := by
    rw [rows_mergeFragment h.closing, Insertion.apply, List.append_assoc]
  have hbraces : braceSum (methodBlock fragment) = 0 := by
    rw [MergedBraces.braceSum_methodBlock, braceDelta, hb, Int.sub_self]
  rw [h.fragmentInsertion?_eq, Option.toList_some]
  refine h.insert (by rw [← hlen]; exact hle) hmerge
    ⟨u.insertBelow (methodBlock fragment) hbraces, ?_, ?_, hback, mid, ?_⟩
  · rw [hmerge, ← hrows, ClosedType.rows_insertBelow, hlen]
  · rw [ClosedType.length_insertBelow, hlen, inserted_append, hsum, Nat.add_assoc]
  · rw [← List.append_assoc, ← hbody]
    rfl

/-- **One step**: the invariant holds again, and no fragment goes to the end. -/
theorem Grown.step (h : Grown existing c is block t) {s : Step} (hs : s.Balanced) :
    Grown existing c (is ++ s.insertions t) (block ++ s.block) (s.apply t) ∧ ¬ s.Appends t := by
  cases s with
  | imports f =>
    have hsame : block ++ (Step.imports f).block = block := List.append_nil _
    rw [hsame]
    exact ⟨h.imports f, id⟩
  | members f =>
    refine ⟨h.members hs, fun hend => ?_⟩
    rw [Step.Appends, h.fragmentInsertion?_eq] at hend
    cases hend
  | both f =>
    have himports := h.imports f
    refine ⟨?_, fun hend => ?_⟩
    · rw [Step.insertions, ← List.append_assoc]
      exact himports.members hs
    · rw [Step.Appends, himports.fragmentInsertion?_eq] at hend
      cases hend

end Steps

/-! ### The run -/

/-- The edits that steps make, in order. -/
def insertions (existing : Text) : List Step → List Insertion
  | [] => []
  | s :: ss => s.insertions existing ++ insertions (s.apply existing) ss

lemma grown_history {existing t : Text} {c n : ℕ} {is : List Insertion} {block : List Text}
    {steps : List Step} (h : Grown existing c is block t) (hb : ∀ s ∈ steps, s.Balanced)
    {t' : Text} (ht : (t :: history t steps)[n]? = some t') :
    Grown existing c (is ++ insertions t (steps.take n))
      (block ++ (steps.take n).flatMap Step.block) t' := by
  induction steps generalizing t is block n with
  | nil =>
    rcases n with _ | n
    · obtain rfl := Option.some.inj ht
      simpa [insertions] using h
    · cases ht
  | cons s ss ih =>
    obtain ⟨hs, hss⟩ := List.forall_mem_cons.mp hb
    rcases n with _ | n
    · obtain rfl := Option.some.inj ht
      simpa [insertions] using h
    · have := ih (h.step hs).1 hss ht
      simpa [insertions, List.append_assoc] using this

/-- **A run keeps the closing row**: if a text closes below the row that declares its type, no
step of a run puts its fragment at the end, and after each step the text closes on the same row
as ever, further down by the rows put in. The methods stand directly above it, in the order of
the steps, and without the rows put in the text is the old one. -/
theorem history_closes {existing : Text} {u c : ℕ} {steps : List Step}
    (hu : (rows existing).findIdx? declaresType = some u) (hc : closingRow? existing = some c)
    (huc : u < c) (hb : ∀ s ∈ steps, s.Balanced) (n : ℕ) {t : Text}
    (ht : (existing :: history existing steps)[n]? = some t) :
    (∀ s ∈ steps[n]?, ¬ s.Appends t) ∧
      closingRow? t = some (c + inserted (insertions existing (steps.take n))) ∧
      (rows t).drop (c + inserted (insertions existing (steps.take n))) =
        (rows existing).drop c ∧
      (∃ top, (rows t).take (c + inserted (insertions existing (steps.take n))) =
        top ++ (steps.take n).flatMap Step.block) ∧
      (insertions existing (steps.take n)).foldl (fun rs i => i.apply rs) (rows existing) =
        rows t ∧
      (insertions existing (steps.take n)).foldr Insertion.undo (rows t) = rows existing := by
  have hgrown : Grown existing c (insertions existing (steps.take n))
      ((steps.take n).flatMap Step.block) t := grown_history (grown_start hu hc huc) hb ht
  obtain ⟨v, hrows, hlen, hback, mid, hbody⟩ := hgrown.parts
  refine ⟨fun s hs => (hgrown.step (hb s (List.mem_of_getElem? hs))).2, hgrown.closing,
    hgrown.drop, ⟨v.above ++ v.head :: mid, ?_⟩, hgrown.applied, hgrown.undone⟩
  rw [← hlen, ← hrows, ClosedType.rows, List.take_left, ClosedType.front, hbody,
    List.append_assoc, List.cons_append]

/-- A test class merged whole, an import and one more method: the brace on row 1 stays the closing
one all along. -/
theorem history_closes_testClass :
    let existing := "class A \x7b\n\x7d".toList
    let steps := [Step.both "import x;\nclass T \x7b\n  @Test\n  void t() \x7b\x7d\n\x7d".toList,
      Step.imports "import y;".toList, Step.members "@Test void u() \x7b \x7d \x7d".toList]
    (rows existing).findIdx? declaresType = some 0 ∧ closingRow? existing = some 1 ∧
      (∀ s ∈ steps, s.Balanced) ∧
      ∀ n t, (existing :: history existing steps)[n]? = some t →
        closingRow? t = some (1 + inserted (insertions existing (steps.take n))) ∧
        (rows t).drop (1 + inserted (insertions existing (steps.take n))) = ["\x7d".toList] := by
  intro existing steps
  have hu : (rows existing).findIdx? declaresType = some 0 := by decide +kernel
  have hc : closingRow? existing = some 1 := by decide +kernel
  have hb : ∀ s ∈ steps, s.Balanced := by decide +kernel
  refine ⟨hu, hc, hb, fun n t ht => ?_⟩
  obtain ⟨-, hclosing, hdrop, -⟩ := history_closes hu hc (by omega) hb n ht
  refine ⟨hclosing, hdrop.trans ?_⟩
  decide +kernel

end TestWeaver.Proofs.MergeRun
