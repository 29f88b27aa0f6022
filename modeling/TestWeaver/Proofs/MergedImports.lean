import TestWeaver.Proofs.ImportRows
import TestWeaver.Proofs.Splice

/-!
The imports of a merged text.

The rows of a new import hold exactly that import. Both splices can part a statement that runs
over several rows, and the rows of a fragment bring the imports that stand in them.
-/

namespace TestWeaver.Proofs.MergedImports

open Merge Source Text ImportStatement ImportRows RowText Splice

/-! ### Rows that end no statement -/

lemma directive?_importRow {d : Text} (h : Core d d) (rest : List Text) :
    ∃ s, directive? (unrows (importRow d :: rest)) = some (d, s) := by
  obtain ⟨s, hs⟩ := exists_joinWith_cons '\n' (importRow d) rest
  exact ⟨s, by rw [unrows, hs, directive?_append (statement_importRow h)]⟩

lemma crossing_importRow {d : Text} (h : Core d d) (above rest : List Text) :
    crossing above (importRow d :: rest) = [] := by
  refine crossing_eq_nil (fun v t hv hs => ?_) above
  obtain ⟨s, hread⟩ := directive?_importRow h rest
  rw [hs, hv.directive? t] at hread
  cases hread

lemma trimStart_marker (rest : List Text) :
    ∃ r, trimStart (unrows (marker :: rest)) = '/' :: r := by
  obtain ⟨s, hs⟩ := exists_joinWith_cons '\n' marker rest
  rw [unrows, hs]
  exact ⟨_, rfl⟩

lemma crossing_methodBlock (fragment : Text) (above below : List Text) :
    crossing above (methodBlock fragment ++ below) = [] := by
  refine crossing_eq_nil (fun v t hv => slash_ne_append_tail ?_ hv) above
  rw [methodBlock, List.cons_append, List.cons_append, unrows, joinWith_cons _ (by simp),
    List.nil_append, trimStart_cons_of_blank (by decide)]
  exact trimStart_marker _

/-! ### The rows of the splices -/

lemma opening_importRow {d : Text} (h : Core d d) (rest : List Text) :
    opening (importRow d :: rest) = [d] := by
  have hblank : trimStart (importRow d) ≠ [] := by
    intro hnil
    have hend : ';' ∈ importRow d := List.mem_append_right _ (List.mem_singleton.mpr rfl)
    exact absurd (blanks_of_trimStart hnil ';' hend) (by decide)
  obtain ⟨s, hread⟩ := directive?_importRow h rest
  rw [opening, if_neg hblank, hread]
  rfl

/-- The rows of new imports hold exactly these imports. -/
lemma directives_importRows {ds : List Text} (h : ∀ d ∈ ds, Core d d) (rest : List Text) :
    directives (unrows (ds.map importRow ++ rest)) = ds ++ directives (unrows rest) := by
  induction ds with
  | nil => rfl
  | cons d ds ih =>
    obtain ⟨hd, hds⟩ := List.forall_mem_cons.mp h
    rw [List.map_cons, List.cons_append, directives_cons (importRow_newline hd.newline),
      opening_importRow hd, ih hds]
    rfl

lemma directives_emptyRow (rest : List Text) :
    directives (unrows ([] :: rest)) = directives (unrows rest) := by
  rw [directives_cons (by simp)]
  rfl

lemma directives_importBlock (existing fragment : Text) (below : List Text) :
    directives (unrows (importBlock existing fragment ++ below)) =
      (missingImports existing fragment).items ++ directives (unrows below) := by
  rw [importBlock, List.append_assoc, directives_importRows fun d => core_of_mem_missing]
  split
  · rfl
  · rw [List.singleton_append, directives_emptyRow]

lemma crossing_importBlock {existing fragment : Text}
    (hne : (missingImports existing fragment).items ≠ []) (above below : List Text) :
    crossing above (importBlock existing fragment ++ below) = [] := by
  obtain ⟨d, ds, hds⟩ := List.exists_cons_of_ne_nil hne
  have hd : Core d d := core_of_mem_missing (by rw [hds]; simp)
  rw [importBlock, hds, List.map_cons, List.cons_append, List.cons_append, crossing_importRow hd]

lemma directives_methodBlock (fragment : Text) (below : List Text) :
    directives (unrows (methodBlock fragment ++ below)) =
      directives (unrows (rows (fragmentMembers fragment) ++ below)) := by
  rw [methodBlock, List.cons_append, directives_emptyRow, List.cons_append,
    directives_cons (by decide), opening, directive?_slash (trimStart_marker _)]
  rfl

/-! ### The accounts of the two splices -/

/-- The directive of the statement that an insertion takes apart. -/
def parted (i : Option Insertion) (s : Text) : List Text :=
  match i with
  | none => []
  | some i => crossing ((rows s).take i.position) ((rows s).drop i.position)

/-- The directives that the rows of a fragment bring along, with that of a statement that one of
these rows begins and a row of the text ends, or the other way round. -/
def brought (s fragment : Text) : List Text :=
  match closingRow? s with
  | none => crossing (rows s) ([] :: rows fragment) ++ directives fragment
  | some c =>
    directives (fragmentMembers fragment) ++
      crossing (rows (fragmentMembers fragment)) ((rows s).drop c)

lemma directives_unrows_append {above : List Text} {s : Text} (h : ∀ r ∈ above, r ∈ rows s)
    (below : List Text) :
    directives (unrows (above ++ below)) =
      directives (unrows above) ++ crossing above below ++ directives (unrows below) :=
  directives_append (fun r hr => rows_newline (h r hr)) below

lemma directives_split (s : Text) (n : ℕ) :
    directives s = directives (unrows ((rows s).take n)) ++
      crossing ((rows s).take n) ((rows s).drop n) ++ directives (unrows ((rows s).drop n)) := by
  rw [← directives_unrows_append (s := s) (fun r hr => List.mem_of_mem_take hr),
    List.take_append_drop, unrows_rows]

lemma directives_rows_append (s : Text) (below : List Text) :
    directives (unrows (rows s ++ below)) =
      directives s ++ crossing (rows s) below ++ directives (unrows below) := by
  rw [directives_unrows_append (s := s) fun r hr => hr, unrows_rows]

lemma directives_mergeImports {existing fragment : Text} {i : Insertion}
    (h : importInsertion? existing fragment = some i) :
    directives (mergeImports existing fragment) =
      directives (unrows ((rows existing).take i.position)) ++
        ((missingImports existing fragment).items ++
          directives (unrows ((rows existing).drop i.position))) := by
  have hrows : rows (mergeImports existing fragment) = (rows existing).take i.position ++
      (importBlock existing fragment ++ (rows existing).drop i.position) := by
    have hi := importInsertion?_eq_some h
    rw [rows_mergeImports h, Insertion.apply, List.append_assoc, hi]
  calc directives (mergeImports existing fragment)
      = directives (unrows ((rows existing).take i.position ++
          (importBlock existing fragment ++ (rows existing).drop i.position))) := by
        rw [← hrows, unrows_rows]
    _ = directives (unrows ((rows existing).take i.position)) ++
          crossing ((rows existing).take i.position)
            (importBlock existing fragment ++ (rows existing).drop i.position) ++
          directives (unrows (importBlock existing fragment ++
            (rows existing).drop i.position)) :=
        directives_unrows_append (fun r hr => List.mem_of_mem_take hr) _
    _ = directives (unrows ((rows existing).take i.position)) ++
          ((missingImports existing fragment).items ++
            directives (unrows ((rows existing).drop i.position))) := by
        rw [crossing_importBlock (missing_ne_nil h), directives_importBlock, List.append_nil]

lemma directives_mergeFragment_of_some {s : Text} {c : ℕ} (h : closingRow? s = some c)
    (fragment : Text) :
    directives (mergeFragment s fragment) =
      directives (unrows ((rows s).take c)) ++
        (brought s fragment ++ directives (unrows ((rows s).drop c))) := by
  calc directives (mergeFragment s fragment)
      = directives (unrows ((rows s).take c ++ (methodBlock fragment ++ (rows s).drop c))) := by
        rw [← rows_mergeFragment h fragment, unrows_rows]
    _ = directives (unrows ((rows s).take c)) ++
          crossing ((rows s).take c) (methodBlock fragment ++ (rows s).drop c) ++
          directives (unrows (methodBlock fragment ++ (rows s).drop c)) :=
        directives_unrows_append (fun r hr => List.mem_of_mem_take hr) _
    _ = directives (unrows ((rows s).take c)) ++
          directives (unrows (rows (fragmentMembers fragment) ++ (rows s).drop c)) := by
        rw [crossing_methodBlock, directives_methodBlock, List.append_nil]
    _ = directives (unrows ((rows s).take c)) ++
          (brought s fragment ++ directives (unrows ((rows s).drop c))) := by
        rw [directives_rows_append, brought, h]

lemma directives_mergeFragment_of_none {s : Text} (h : closingRow? s = none) (fragment : Text) :
    directives (mergeFragment s fragment) = directives s ++ brought s fragment := by
  rw [mergeFragment_of_none h, directives_rows_append, directives_emptyRow, unrows_rows, brought,
    h, List.append_assoc]

lemma count_mergeImports (existing fragment d : Text) :
    (directives (mergeImports existing fragment)).count d +
        (parted (importInsertion? existing fragment) existing).count d =
      (directives existing).count d + (missingImports existing fragment).items.count d := by
  rcases h : importInsertion? existing fragment with _ | i
  · rw [mergeImports_of_nil (importInsertion?_eq_none.mp h), importInsertion?_eq_none.mp h]
    rfl
  · have hsplit := directives_split existing i.position
    rw [directives_mergeImports h, hsplit, parted]
    simp only [List.count_append]
    omega

lemma count_mergeFragment (s fragment d : Text) :
    (directives (mergeFragment s fragment)).count d +
        (parted (fragmentInsertion? s fragment) s).count d =
      (directives s).count d + (brought s fragment).count d := by
  rw [fragmentInsertion?_eq]
  rcases h : closingRow? s with _ | c
  · rw [directives_mergeFragment_of_none h, List.count_append]
    rfl
  · have hsplit := directives_split s c
    rw [directives_mergeFragment_of_some h, hsplit, Option.map_some, parted]
    simp only [List.count_append]
    omega

/-! ### The whole merge -/

/-- The directives of the statements that a merge takes apart. -/
def severed (existing fragment : Text) : List Text :=
  parted (importInsertion? existing fragment) existing ++
    parted (fragmentInsertion? (mergeImports existing fragment) fragment)
      (mergeImports existing fragment)

/-- The directives that come with the rows of the fragment. -/
def pasted (existing fragment : Text) : List Text :=
  brought (mergeImports existing fragment) fragment

lemma count_mergeGenerated (existing fragment d : Text) :
    (directives (mergeGenerated existing fragment)).count d + (severed existing fragment).count d =
      (directives existing).count d + (missingImports existing fragment).items.count d +
        (pasted existing fragment).count d := by
  have himports := count_mergeImports existing fragment d
  have hmethods := count_mergeFragment (mergeImports existing fragment) fragment d
  rw [mergeGenerated, severed, pasted, List.count_append]
  omega

lemma count_missing (existing fragment d : Text) :
    (missingImports existing fragment).items.count d =
      if d ∈ (missingImports existing fragment).items then 1 else 0 :=
  (missingImports existing fragment).nodup.count

lemma pasted_perm_severed_iff {existing fragment : Text} :
    (pasted existing fragment).Perm (severed existing fragment) ↔
      ∀ d, (directives (mergeGenerated existing fragment)).count d =
        (directives existing).count d +
          if d ∈ (missingImports existing fragment).items then 1 else 0 := by
  rw [List.perm_iff_count]
  refine forall_congr' fun d => ?_
  have hcount := count_mergeGenerated existing fragment d
  rw [← count_missing existing fragment d]
  omega

/-- Nothing is missing where every import of the fragment occurs. -/
lemma missing_eq_nil {existing fragment : Text}
    (h : ∀ d ∈ directives fragment, d ∈ directives existing) :
    (missingImports existing fragment).items = [] := by
  refine List.eq_nil_iff_forall_not_mem.mpr fun d hd => ?_
  obtain ⟨hf, he⟩ := mem_missing.mp hd
  exact he (h d hf)

/-- Once nothing is missing, a merge leaves the imports as they are where it brings along just
what it takes apart. -/
lemma directives_mergeGenerated_eq_iff {existing fragment : Text}
    (h : (missingImports existing fragment).items = []) :
    directives (mergeGenerated existing fragment) = directives existing ↔
      pasted existing fragment = severed existing fragment := by
  have hnone := importInsertion?_eq_none.mpr h
  rw [mergeGenerated, pasted, severed, mergeImports_of_nil h, hnone, fragmentInsertion?_eq,
    parted, List.nil_append]
  rcases hc : closingRow? existing with _ | c
  · rw [directives_mergeFragment_of_none hc, Option.map_none, parted]
    exact List.append_right_eq_self
  · have hsplit := directives_split existing c
    rw [directives_mergeFragment_of_some hc, hsplit, Option.map_some, parted, List.append_assoc,
      List.append_cancel_left_eq, List.append_cancel_right_eq]

/-- Every import of the fragment is there after a merge that brings along what it takes apart. -/
lemma mem_directives_mergeGenerated {existing fragment d : Text}
    (h : (severed existing fragment).Subperm (pasted existing fragment))
    (hd : d ∈ directives fragment) : d ∈ directives (mergeGenerated existing fragment) := by
  have hcount := count_mergeGenerated existing fragment d
  have hle := h.count_le d
  have hpos : 0 < (directives existing).count d +
      (missingImports existing fragment).items.count d := by
    by_cases he : d ∈ directives existing
    · have := List.count_pos_iff.mpr he
      omega
    · have := List.count_pos_iff.mpr (mem_missing.mpr ⟨hd, he⟩)
      omega
  exact List.count_pos_iff.mp (by omega)

end TestWeaver.Proofs.MergedImports
