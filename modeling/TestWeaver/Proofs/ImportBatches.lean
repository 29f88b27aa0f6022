import TestWeaver.Proofs.ImportPlace
import TestWeaver.Proofs.MergedImports

/-!
Adding imports, fragment after fragment.

On rows, adding imports twice is adding them once, whatever the rows are. On texts it takes that the
imports added first are found again and no other is lost, which can only fail where a statement runs
over the row at which new imports come in. So fragments merged one after another add what their
imports put together add.
-/

namespace TestWeaver.Proofs.ImportBatches

open Merge Source Text ImportStatement ImportRows RowText Splice ImportPlace MergedImports

/-! ### Rows -/

/-- The rows with new imports. -/
def withImports (rs ds : List Text) : List Text :=
  if ds = [] then rs
  else
    Insertion.apply ⟨(importPosition rs).1,
      ds.map importRow ++ if (importPosition rs).2 then [] else [[]]⟩ rs

@[simp] lemma withImports_nil (rs : List Text) : withImports rs [] = rs := if_pos rfl

lemma withImports_append {above below ds : List Text} (hne : ds ≠ [])
    (hpos : (importPosition (above ++ below)).1 = above.length) :
    withImports (above ++ below) ds =
      above ++ (ds.map importRow ++ (if (importPosition (above ++ below)).2 then [] else [[]]) ++
        below) := by
  rw [withImports, if_neg hne, Insertion.apply, hpos, List.take_left, List.drop_left,
    List.append_assoc]

lemma rows_mergeImports_eq (existing fragment : Text) :
    rows (mergeImports existing fragment) =
      withImports (rows existing) (missingImports existing fragment).items := by
  rcases hi : importInsertion? existing fragment with _ | i
  · have hnil := importInsertion?_eq_none.mp hi
    rw [mergeImports_of_nil hnil, hnil, withImports_nil]
  · rw [withImports, if_neg (missing_ne_nil hi), rows_mergeImports hi,
      importInsertion?_eq_some hi]
    rfl

/-- Imports added to rows that have just got some go behind these. -/
theorem withImports_withImports (rs ds es : List Text) :
    withImports (withImports rs ds) es = withImports rs (ds ++ es) := by
  by_cases hds : ds = []
  · rw [hds, withImports_nil, List.nil_append]
  by_cases hes : es = []
  · rw [hes, withImports_nil, List.append_nil]
  obtain ⟨above, between, rest, rfl, hpos, htype, himport, hrest⟩ := importPosition_split rs
  have hgap : ∀ r ∈ (if (importPosition (above ++ (between ++ rest))).2 then [] else [[]] :
      List Text), r = [] := by
    split <;> simp
  rw [withImports_append hds hpos, withImports_append (by simp [hds]) hpos]
  generalize (if (importPosition (above ++ (between ++ rest))).2 then [] else [[]] :
    List Text) = gap at hgap
  have hbehind := importPosition_behind hds htype himport hrest hgap
  have hsplit : above ++ (ds.map importRow ++ gap ++ (between ++ rest)) =
      (above ++ ds.map importRow) ++ (gap ++ (between ++ rest)) := by
    simp only [List.append_assoc]
  rw [hsplit] at hbehind ⊢
  rw [withImports_append hes (by rw [hbehind]; simp), hbehind, if_pos rfl]
  simp only [List.map_append, List.append_assoc, List.nil_append]

/-! ### What is missing -/

lemma distinct_append (ds es : List Text) :
    distinct (ds ++ es) = distinct ds ++ (distinct es).filter (· ∉ ds) := by
  induction ds with
  | nil => simp [distinct]
  | cons d ds ih =>
    rw [List.cons_append, distinct, distinct, ih, List.filter_append, List.filter_filter,
      List.cons_append]
    congr 2
    refine List.filter_congr fun e _ => ?_
    simp

lemma missing_items (existing fragment : Text) :
    (missingImports existing fragment).items =
      (distinct (directives fragment)).filter (· ∉ directives existing) := by
  refine List.filter_congr fun d _ => ?_
  simp [ImportSet.ofSource]

/-- What is missing of two fragments put together: what is missing of the first, and then of the
second in a text that has the imports of the first as well. -/
lemma missing_append {existing later f₁ f₂ g : Text}
    (hg : directives g = directives f₁ ++ directives f₂)
    (hlater : ∀ d, d ∈ directives later ↔ d ∈ directives existing ∨ d ∈ directives f₁) :
    (missingImports existing g).items =
      (missingImports existing f₁).items ++ (missingImports later f₂).items := by
  rw [missing_items, missing_items, missing_items, hg, distinct_append, List.filter_append,
    List.filter_filter]
  congr 1
  refine List.filter_congr fun d _ => ?_
  simp [hlater]

/-! ### Imports as sets -/

/-- A merge has the imports of both texts, but for that of a statement which it takes apart. -/
lemma mem_directives_or_parted (existing fragment d : Text) :
    d ∈ directives (mergeImports existing fragment) ∨
        d ∈ parted (importInsertion? existing fragment) existing ↔
      d ∈ directives existing ∨ d ∈ directives fragment := by
  have hcount := count_mergeImports existing fragment d
  have hmissing : d ∈ directives existing ∨ d ∈ (missingImports existing fragment).items ↔
      d ∈ directives existing ∨ d ∈ directives fragment := by
    rw [mem_missing]
    tauto
  rw [← hmissing]
  simp only [← List.count_pos_iff]
  omega

lemma length_crossing_le (above below : List Text) : (crossing above below).length ≤ 1 := by
  induction above with
  | nil => exact Nat.zero_le _
  | cons r above ih =>
    rw [crossing]
    split
    · exact ih
    · split
      · exact le_rfl
      · exact ih

lemma length_parted_le (i : Option Insertion) (s : Text) : (parted i s).length ≤ 1 := by
  cases i with
  | none => exact Nat.zero_le _
  | some i => exact length_crossing_le _ _

lemma mem_of_mem_parted {i : Option Insertion} {s d : Text} (h : d ∈ parted i s) :
    d ∈ directives s := by
  cases i with
  | none => cases h
  | some i =>
    rw [directives_split s i.position]
    exact List.mem_append_left _ (List.mem_append_right _ h)

/-- The import of a statement that is taken apart is still there where it occurs a second time. -/
lemma mem_mergeImports_of_parted {existing fragment d : Text}
    (h : d ∈ parted (importInsertion? existing fragment) existing) :
    d ∈ directives (mergeImports existing fragment) ↔ 1 < (directives existing).count d := by
  have hcount := count_mergeImports existing fragment d
  have hone : (parted (importInsertion? existing fragment) existing).count d = 1 :=
    le_antisymm (List.count_le_length.trans (length_parted_le _ _)) (List.count_pos_iff.mpr h)
  have hold : (missingImports existing fragment).items.count d = 0 :=
    List.count_eq_zero.mpr fun hd => (mem_missing.mp hd).2 (mem_of_mem_parted h)
  rw [← List.count_pos_iff]
  omega

/-! ### Statements on one row -/

/-- Every import statement stands on one row: what starts on a row is what the row holds alone. -/
def Rowwise : List Text → Prop
  | [] => True
  | r :: rs => opening (r :: rs) = opening [r] ∧ Rowwise rs

instance decidableRowwise : (rs : List Text) → Decidable (Rowwise rs)
  | [] => inferInstanceAs (Decidable True)
  | r :: rs =>
    have := decidableRowwise rs
    inferInstanceAs (Decidable (opening (r :: rs) = opening [r] ∧ Rowwise rs))

lemma rowwise_cons {r : Text} {rs : List Text} :
    Rowwise (r :: rs) ↔ opening (r :: rs) = opening [r] ∧ Rowwise rs := Iff.rfl

lemma Rowwise.below {above below : List Text} (h : Rowwise (above ++ below)) : Rowwise below := by
  induction above with
  | nil => exact h
  | cons r above ih => exact ih h.2

lemma opening_append {above below : List Text} (hne : above ≠ [])
    (h : crossing above below = []) : opening (above ++ below) = opening above := by
  obtain ⟨r, above, rfl⟩ := List.exists_cons_of_ne_nil hne
  by_cases hb : below = []
  · rw [hb, List.append_nil]
  rw [List.cons_append, opening, opening, ← List.cons_append]
  by_cases hblank : trimStart r = []
  · rw [if_pos hblank, if_pos hblank]
  rw [if_neg hblank, if_neg hblank]
  rw [crossing, if_neg hblank] at h
  rcases hown : directive? (unrows (r :: above)) with _ | ⟨d, t⟩
  · rcases hall : directive? (unrows (r :: above ++ below)) with _ | ⟨d, t⟩
    · rfl
    · rw [hown, hall] at h
      cases h
  · rw [unrows_append (by simp) hb, directive?_extend hown]
    rfl

/-- A row that holds a statement alone still does so above other rows. -/
lemma opening_cons_ne_nil {r : Text} (h : opening [r] ≠ []) (rs : List Text) :
    directive? (unrows (r :: rs)) ≠ none := by
  by_cases hblank : trimStart r = []
  · rw [opening, if_pos hblank] at h
    exact absurd rfl h
  rw [opening, if_neg hblank] at h
  obtain ⟨s, hs⟩ := exists_joinWith_cons '\n' r rs
  rcases hr : directive? r with _ | ⟨d, t⟩
  · exact absurd (by rw [unrows, joinWith, hr]; rfl) h
  · rw [unrows, hs, directive?_extend hr]
    exact Option.some_ne_none _

/-- Nothing runs across a border between rows that hold their statements alone. -/
lemma Rowwise.crossing {above below : List Text} (h : Rowwise (above ++ below)) :
    crossing above below = [] := by
  induction above with
  | nil => rfl
  | cons r above ih =>
    rw [List.cons_append, rowwise_cons] at h
    obtain ⟨hr, hrest⟩ := h
    have ih := ih hrest
    by_cases hblank : trimStart r = []
    · rw [ImportRows.crossing, if_pos hblank, ih]
    rw [ImportRows.crossing, if_neg hblank, ih]
    rcases hown : directive? (unrows (r :: above)) with _ | ⟨d, t⟩
    · rcases hall : directive? (unrows (r :: above ++ below)) with _ | ⟨d, t⟩
      · rfl
      · have halone : opening [r] ≠ [] := by
          rw [List.cons_append] at hall
          rw [← hr, opening, if_neg hblank, hall]
          exact List.cons_ne_nil _ _
        exact absurd hown (opening_cons_ne_nil halone above)
    · rfl

/-- Statements stand on one row just where none runs across a border between rows. -/
theorem rowwise_iff {rs : List Text} :
    Rowwise rs ↔ ∀ above below, rs = above ++ below → crossing above below = [] := by
  constructor
  · rintro h above below rfl
    exact h.crossing
  · intro h
    induction rs with
    | nil => exact trivial
    | cons r rs ih =>
      have hborder : crossing [r] rs = [] := h [r] rs rfl
      refine ⟨opening_append (List.cons_ne_nil r []) hborder, ih fun above below hrs => ?_⟩
      have hcross : crossing (r :: above) below = [] := h (r :: above) below (by rw [hrs]; rfl)
      rw [crossing] at hcross
      split at hcross
      · exact hcross
      · split at hcross
        · cases hcross
        · exact hcross

/-- Rows come in where they go on with no statement, and hold their own alone. -/
lemma Rowwise.insert {above block below : List Text} (h : Rowwise (above ++ below))
    (hblock : Rowwise (block ++ below))
    (hcross : ∀ rs, ImportRows.crossing rs (block ++ below) = []) :
    Rowwise (above ++ (block ++ below)) := by
  induction above with
  | nil => exact hblock
  | cons r above ih =>
    have hold := opening_append (List.cons_ne_nil r above) h.crossing
    have hnew := opening_append (List.cons_ne_nil r above) (hcross (r :: above))
    rw [List.cons_append, rowwise_cons] at h ⊢
    refine ⟨?_, ih h.2⟩
    rw [← List.cons_append, hnew, ← hold]
    exact h.1

lemma rowwise_importBlock {existing fragment : Text} {below : List Text} (h : Rowwise below) :
    Rowwise (importBlock existing fragment ++ below) := by
  have hgap : Rowwise ((if (importPosition (rows existing)).2 then [] else [[]]) ++ below) := by
    split
    · exact h
    · exact ⟨rfl, h⟩
  have hrows : ∀ ds : List Text, (∀ d ∈ ds, Core d d) → ∀ {rest}, Rowwise rest →
      Rowwise (ds.map importRow ++ rest) := by
    intro ds hds rest hrest
    induction ds with
    | nil => exact hrest
    | cons d ds ih =>
      obtain ⟨hd, hds⟩ := List.forall_mem_cons.mp hds
      refine ⟨?_, ih hds⟩
      rw [opening_importRow hd, opening_importRow hd]
  rw [importBlock, List.append_assoc]
  exact hrows _ (fun d => core_of_mem_missing) hgap

lemma Rowwise.parted {s : Text} (h : Rowwise (rows s)) (i : Option Insertion) :
    parted i s = [] := by
  cases i with
  | none => rfl
  | some i => exact Rowwise.crossing (by rw [List.take_append_drop]; exact h)

/-- **One merge** leaves every statement on one row. -/
theorem Rowwise.mergeImports {existing : Text} (h : Rowwise (rows existing)) (fragment : Text) :
    Rowwise (rows (mergeImports existing fragment)) := by
  rcases hi : importInsertion? existing fragment with _ | i
  · rw [mergeImports_of_nil (importInsertion?_eq_none.mp hi)]
    exact h
  · rw [rows_mergeImports hi, importInsertion?_eq_some hi, Insertion.apply, List.append_assoc]
    rw [← List.take_append_drop (importPosition (rows existing)).1 (rows existing)] at h
    exact h.insert (rowwise_importBlock h.below) fun above =>
      crossing_importBlock (missing_ne_nil hi) above _

lemma Rowwise.mem_directives {existing : Text} (h : Rowwise (rows existing)) (fragment d : Text) :
    d ∈ directives (Merge.mergeImports existing fragment) ↔
      d ∈ directives existing ∨ d ∈ directives fragment := by
  have hmem := mem_directives_or_parted existing fragment d
  rw [h.parted] at hmem
  simpa using hmem

/-! ### Batches -/

/-- Two merges are one. -/
lemma mergeImports_mergeImports {existing : Text} (h : Rowwise (rows existing)) {f₁ f₂ g : Text}
    (hg : directives g = directives f₁ ++ directives f₂) :
    mergeImports (mergeImports existing f₁) f₂ = mergeImports existing g := by
  have hrows : rows (mergeImports (mergeImports existing f₁) f₂) =
      rows (mergeImports existing g) := by
    rw [rows_mergeImports_eq, rows_mergeImports_eq, rows_mergeImports_eq, withImports_withImports,
      missing_append hg (h.mem_directives f₁)]
  rw [← unrows_rows (mergeImports (mergeImports existing f₁) f₂), hrows, unrows_rows]

/-- Imports can be written down: some fragment has just these. -/
lemma exists_fragment {ds : List Text} (h : ∀ d ∈ ds, Core d d) : ∃ g, directives g = ds := by
  refine ⟨unrows (ds.map importRow), ?_⟩
  have hrows := directives_importRows h []
  rw [List.append_nil] at hrows
  rw [hrows]
  exact List.append_nil ds

lemma exists_joined (fs : List Text) : ∃ g, directives g = fs.flatMap directives := by
  refine exists_fragment fun d hd => ?_
  obtain ⟨f, -, hd⟩ := List.mem_flatMap.mp hd
  exact core_of_mem_directives hd

/-- A run of merges is one. -/
lemma foldl_mergeImports {existing : Text} (h : Rowwise (rows existing)) {fs : List Text} {g : Text}
    (hg : directives g = fs.flatMap directives) :
    fs.foldl mergeImports existing = mergeImports existing g := by
  induction fs generalizing existing g with
  | nil =>
    have hnone : (missingImports existing g).items = [] := by
      rw [missing_items, hg]
      rfl
    exact (mergeImports_of_nil hnone).symm
  | cons f fs ih =>
    obtain ⟨rest, hrest⟩ := exists_joined fs
    rw [List.foldl_cons, ih (h.mergeImports f) hrest]
    exact mergeImports_mergeImports h (by rw [hg, hrest, List.flatMap_cons])

/-- The new imports stand in one block among the others. -/
lemma Rowwise.directives_mergeImports {existing : Text} (h : Rowwise (rows existing))
    (fragment : Text) :
    ∃ front back, directives existing = front ++ back ∧
      directives (Merge.mergeImports existing fragment) =
        front ++ ((missingImports existing fragment).items ++ back) := by
  rcases hi : importInsertion? existing fragment with _ | i
  · refine ⟨directives existing, [], (List.append_nil _).symm, ?_⟩
    have hnil := importInsertion?_eq_none.mp hi
    rw [mergeImports_of_nil hnil, hnil]
    exact (List.append_nil _).symm
  · refine ⟨_, _, ?_, MergedImports.directives_mergeImports hi⟩
    have hcross : ImportRows.crossing ((rows existing).take i.position)
        ((rows existing).drop i.position) = [] := h.parted (some i)
    rw [directives_split existing i.position, hcross, List.append_nil]

/-- **Batches**: in a text with every statement on one row, two merges, and any run of merges, are
one merge of the imports put together. The new imports form one block, each once, in the order in
which they first came; and the same merge again changes nothing. -/
theorem mergeImports_batch {existing : Text} (h : Rowwise (rows existing)) :
    (∀ f₁ f₂ g, directives g = directives f₁ ++ directives f₂ →
        mergeImports (mergeImports existing f₁) f₂ = mergeImports existing g) ∧
      (∀ (fs : List Text) (g : Text), directives g = fs.flatMap directives →
        fs.foldl mergeImports existing = mergeImports existing g) ∧
      (∀ fs : List Text, ∃ front new back, directives existing = front ++ back ∧
        directives (fs.foldl mergeImports existing) = front ++ (new ++ back) ∧
        new = (distinct (fs.flatMap directives)).filter (· ∉ directives existing) ∧ new.Nodup) ∧
      ∀ f, mergeImports (mergeImports existing f) f = mergeImports existing f := by
  refine ⟨fun f₁ f₂ g => mergeImports_mergeImports h, fun fs g => foldl_mergeImports h,
    fun fs => ?_, fun f => ?_⟩
  · obtain ⟨g, hg⟩ := exists_joined fs
    obtain ⟨front, back, hold, hnew⟩ := h.directives_mergeImports g
    refine ⟨front, (missingImports existing g).items, back, hold, ?_, ?_,
      (missingImports existing g).nodup⟩
    · rw [foldl_mergeImports h hg, hnew]
    · rw [missing_items, hg]
  · exact mergeImports_of_nil
      (missing_eq_nil fun d hd => (h.mem_directives f d).mpr (Or.inr hd))

/-- Into a text without imports: the first ones go above the annotation of the type, the next ones
behind them. -/
theorem mergeImports_batch_annotated :
    let existing := "package p;\n\n@Tag(1)\nclass A \x7b\n\x7d".toList
    let f₁ := "import b;\nimport a;".toList
    let f₂ := "import a;\nimport  static c.D.* ;".toList
    let g := "import b; \nimport a;\nimport a;\nimport static\nc.D.*;".toList
    Rowwise (rows existing) ∧ directives g = directives f₁ ++ directives f₂ ∧
      mergeImports (mergeImports existing f₁) f₂ = mergeImports existing g ∧
      mergeImports (mergeImports existing g) g = mergeImports existing g := by
  intro existing f₁ f₂ g
  have h : Rowwise (rows existing) := by decide +kernel
  have hg : directives g = directives f₁ ++ directives f₂ := by decide +kernel
  exact ⟨h, hg, (mergeImports_batch h).1 f₁ f₂ g hg, (mergeImports_batch h).2.2.2 g⟩

/-! ### The union -/

/-- **The imports of both texts**: a merge has none but these, and loses at most one, that of a
statement which runs across the row where new imports come in. So it has all of them just where
that one occurs a second time, and always where every statement stands on one row. -/
theorem mem_mergeImports_iff (existing fragment : Text) :
    (∀ d ∈ directives (mergeImports existing fragment),
        d ∈ directives existing ∨ d ∈ directives fragment) ∧
      (∀ d, d ∈ directives existing ∨ d ∈ directives fragment →
        d ∈ directives (mergeImports existing fragment) ∨
          d ∈ parted (importInsertion? existing fragment) existing) ∧
      (parted (importInsertion? existing fragment) existing).length ≤ 1 ∧
      ((∀ d, d ∈ directives (mergeImports existing fragment) ↔
          d ∈ directives existing ∨ d ∈ directives fragment) ↔
        ∀ d ∈ parted (importInsertion? existing fragment) existing,
          1 < (directives existing).count d) ∧
      (Rowwise (rows existing) → ∀ d, d ∈ directives (mergeImports existing fragment) ↔
        d ∈ directives existing ∨ d ∈ directives fragment) := by
  have hmem := mem_directives_or_parted existing fragment
  refine ⟨fun d hd => (hmem d).mp (Or.inl hd), fun d hd => (hmem d).mpr hd,
    length_parted_le _ _, ⟨fun hall d hd => ?_, fun hall d => ?_⟩,
    fun h => h.mem_directives fragment⟩
  · exact (mem_mergeImports_of_parted hd).mp ((hall d).mpr ((hmem d).mp (Or.inr hd)))
  · rw [← hmem d]
    refine ⟨Or.inl, fun hd => hd.elim id fun hd => ?_⟩
    exact (mem_mergeImports_of_parted hd).mpr (hall d hd)

/-- An import above the type and one that comes in. -/
theorem mem_mergeImports_oneRow :
    let existing := "import a;\nclass A \x7b\n\x7d".toList
    let fragment := "import b;".toList
    Rowwise (rows existing) ∧ ∀ d, d ∈ directives (mergeImports existing fragment) ↔
      d ∈ directives existing ∨ d ∈ directives fragment := by
  intro existing fragment
  have h : Rowwise (rows existing) := by decide +kernel
  exact ⟨h, (mem_mergeImports_iff existing fragment).2.2.2.2 h⟩

/-- The new import comes in between the name and the semicolon of the old one, which is lost. -/
theorem mem_mergeImports_twoRows :
    let existing := "import a\n;\nclass A \x7b\n\x7d".toList
    let fragment := "import b;".toList
    mergeImports existing fragment = "import a\nimport b;\n;\nclass A \x7b\n\x7d".toList ∧
      directives existing = ["a".toList] ∧
      directives (mergeImports existing fragment) = ["b".toList] ∧
      ¬ ∀ d, d ∈ directives (mergeImports existing fragment) ↔
        d ∈ directives existing ∨ d ∈ directives fragment := by
  intro existing fragment
  have hold : directives existing = ["a".toList] := by decide +kernel
  have hnew : directives (mergeImports existing fragment) = ["b".toList] := by decide +kernel
  refine ⟨by decide +kernel, hold, hnew, fun hall => ?_⟩
  have hlost := (hall "a".toList).mpr (Or.inl (by rw [hold]; exact List.mem_singleton.mpr rfl))
  rw [hnew] at hlost
  revert hlost
  decide

end TestWeaver.Proofs.ImportBatches
