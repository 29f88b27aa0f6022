import TestWeaver.Merge.Fragment
import TestWeaver.Proofs.ImportStatement
import TestWeaver.Proofs.RowText

/-!
What a merge does to the rows of a text: each one is an insertion of whole rows, or none, or it
puts the fragment at the end.
-/

namespace TestWeaver.Proofs.Splice

open Merge Source Text ImportStatement RowText

lemma rows_newline {s r : Text} (h : r ∈ rows s) : '\n' ∉ r := not_mem_of_mem_splitAt h

lemma rows_unrows {rs : List Text} (hne : rs ≠ []) (h : ∀ r ∈ rs, '\n' ∉ r) :
    rows (unrows rs) = rs := splitAt_joinWith hne h

/-- The rows of the edited text are the edited rows. -/
lemma rows_applyText {i : Insertion} (h : ∀ r ∈ i.added, '\n' ∉ r) (s : Text) :
    rows (i.applyText s) = i.apply (rows s) := by
  refine rows_unrows ?_ fun r hr => ?_
  · intro hnil
    have hlen : (i.apply (rows s)).length = (rows s).length + i.added.length :=
      Insertion.length_apply
    have hpos : 0 < (rows s).length := List.length_pos_iff.mpr (splitAt_ne_nil '\n' s)
    rw [hnil, List.length_nil] at hlen
    omega
  · simp only [Insertion.apply, List.mem_append] at hr
    rcases hr with (hr | hr) | hr
    · exact rows_newline (List.mem_of_mem_take hr)
    · exact h r hr
    · exact rows_newline (List.mem_of_mem_drop hr)

/-! ### Directives -/

/-- A directive is one that the grammar has. -/
lemma core_of_mem_directives {s d : Text} (h : d ∈ directives s) : Core d d := by
  have hrun : ∀ (t : Text) (n : ℕ) (b : Bool), d ∈ statementsFrom directive? n b t → Core d d := by
    intro t
    induction t with
    | nil => simp [statementsFrom]
    | cons c t ih =>
      intro n b hd
      rcases n with _ | n
      · simp only [statementsFrom] at hd
        split at hd
        · next a r hread =>
          rcases List.mem_cons.mp hd with rfl | hd
          · obtain ⟨u, hu, -⟩ := directive?_eq_some_iff.mp (by
              split at hread
              · exact hread
              · cases hread)
            exact hu.core
          · exact ih _ _ hd
        · exact ih _ _ hd
      · exact ih _ _ (by simpa [statementsFrom] using hd)
  exact hrun s 0 true h

lemma mem_missing {existing fragment d : Text} :
    d ∈ (missingImports existing fragment).items ↔
      d ∈ directives fragment ∧ d ∉ directives existing := by
  simp [missingImports, ImportSet.ofSource]

lemma core_of_mem_missing {existing fragment d : Text}
    (h : d ∈ (missingImports existing fragment).items) : Core d d :=
  core_of_mem_directives (mem_missing.mp h).1

/-- The row of an import is a statement. -/
lemma statement_importRow {d : Text} (h : Core d d) : Statement (importRow d) d := by
  have hnil : Blanks [] := fun c hc => by cases hc
  have hspace : Blanks [' '] := fun c hc => by
    obtain rfl := List.mem_singleton.mp hc
    decide
  exact Statement.mk hnil hspace (List.cons_ne_nil _ _) h hnil

/-! ### New imports -/

/-- The rows that come with new imports. -/
def importBlock (existing fragment : Text) : List Text :=
  (missingImports existing fragment).items.map importRow ++
    if (importPosition (rows existing)).2 then [] else [[]]

lemma importInsertion?_eq (existing fragment : Text) :
    importInsertion? existing fragment =
      if (missingImports existing fragment).items = [] then none
      else some ⟨(importPosition (rows existing)).1, importBlock existing fragment⟩ := by
  rw [importInsertion?, importBlock]
  rcases (missingImports existing fragment).items with _ | ⟨d, ds⟩
  · rfl
  · rfl

lemma importInsertion?_eq_none {existing fragment : Text} :
    importInsertion? existing fragment = none ↔ (missingImports existing fragment).items = [] := by
  simp [importInsertion?_eq]

lemma missing_ne_nil {existing fragment : Text} {i : Insertion}
    (h : importInsertion? existing fragment = some i) :
    (missingImports existing fragment).items ≠ [] := by
  rw [Ne, ← importInsertion?_eq_none, h]
  exact Option.some_ne_none i

lemma mergeImports_of_nil {existing fragment : Text}
    (h : (missingImports existing fragment).items = []) :
    mergeImports existing fragment = existing := by
  rw [mergeImports, importInsertion?_eq_none.mpr h]

lemma importInsertion?_eq_some {existing fragment : Text} {i : Insertion}
    (h : importInsertion? existing fragment = some i) :
    i = ⟨(importPosition (rows existing)).1, importBlock existing fragment⟩ := by
  rw [importInsertion?_eq] at h
  split at h
  · cases h
  · exact (Option.some.inj h).symm

lemma importRow_newline {d : Text} (h : '\n' ∉ d) : '\n' ∉ importRow d := by
  have hword : '\n' ∉ "import ".toList := by decide
  have hend : '\n' ∉ [';'] := by decide
  unfold importRow
  rw [List.mem_append, List.mem_append]
  rintro ((hn | hn) | hn)
  · exact hword hn
  · exact h hn
  · exact hend hn

lemma importBlock_newline {existing fragment : Text} :
    ∀ r ∈ importBlock existing fragment, '\n' ∉ r := by
  intro r hr
  rw [importBlock, List.mem_append, List.mem_map] at hr
  rcases hr with ⟨d, hd, rfl⟩ | hr
  · exact importRow_newline (core_of_mem_missing hd).newline
  · split at hr
    · simp at hr
    · obtain rfl : r = [] := by simpa using hr
      simp

lemma rows_mergeImports {existing fragment : Text} {i : Insertion}
    (h : importInsertion? existing fragment = some i) :
    rows (mergeImports existing fragment) = i.apply (rows existing) := by
  have hi := importInsertion?_eq_some h
  rw [mergeImports, h]
  exact rows_applyText (by rw [hi]; exact importBlock_newline) existing

lemma declaresType_importRow (d : Text) : declaresType (importRow d) = false := by
  have hmodifiers : ∀ n s,
      modifiersIn typeModifiers n ('i' :: 'm' :: s) = ([], 'i' :: 'm' :: s) := by
    intro n s
    cases n with
    | zero => rfl
    | succ n => rfl
  have hshape : ∃ s, importRow d = 'i' :: 'm' :: s := ⟨_, rfl⟩
  obtain ⟨s, hs⟩ := hshape
  rw [declaresType, declaredType?, hs, trimStart_cons_of_not_blank (by decide), modifiers,
    hmodifiers]
  rfl

lemma declaresType_importRows (ds : List Text) :
    ∀ r ∈ ds.map importRow, declaresType r = false := by
  intro r hr
  obtain ⟨d, -, rfl⟩ := List.mem_map.mp hr
  exact declaresType_importRow d

lemma importBlock_free (existing fragment : Text) :
    ∀ r ∈ importBlock existing fragment, declaresType r = false := by
  intro r hr
  rw [importBlock, List.mem_append] at hr
  rcases hr with hr | hr
  · exact declaresType_importRows _ r hr
  · split at hr
    · cases hr
    · obtain rfl := List.mem_singleton.mp hr
      rfl

/-! ### New methods -/

/-- The rows that come with the methods of a fragment. -/
def methodBlock (fragment : Text) : List Text :=
  [] :: marker :: rows (fragmentMembers fragment)

lemma methodBlock_newline {fragment : Text} : ∀ r ∈ methodBlock fragment, '\n' ∉ r := by
  intro r hr
  simp only [methodBlock, List.mem_cons] at hr
  rcases hr with rfl | rfl | hr
  · simp
  · decide
  · exact rows_newline hr

lemma fragmentInsertion?_eq {existing fragment : Text} :
    fragmentInsertion? existing fragment =
      (closingRow? existing).map fun c => ⟨c, methodBlock fragment⟩ := rfl

lemma rows_mergeFragment {existing : Text} {c : ℕ} (h : closingRow? existing = some c)
    (fragment : Text) :
    rows (mergeFragment existing fragment) =
      (rows existing).take c ++ (methodBlock fragment ++ (rows existing).drop c) := by
  rw [mergeFragment, fragmentInsertion?_eq, h]
  simp only [Option.map_some]
  rw [rows_applyText methodBlock_newline, Insertion.apply, List.append_assoc]

lemma mergeFragment_of_none {existing : Text} (h : closingRow? existing = none)
    (fragment : Text) :
    mergeFragment existing fragment = unrows (rows existing ++ [] :: rows fragment) := by
  rw [mergeFragment, fragmentInsertion?_eq, h]
  have hrows : ([] : Text) :: rows fragment ≠ [] := by simp
  rw [unrows, joinWith_append (splitAt_ne_nil _ _) hrows, joinWith_splitAt,
    joinWith_cons [] (splitAt_ne_nil _ _), joinWith_splitAt]
  rfl

end TestWeaver.Proofs.Splice
