import Mathlib.Data.List.Induction
import TestWeaver.Proofs.FirstType
import TestWeaver.Proofs.ImportPlace
import TestWeaver.Proofs.LineText
import TestWeaver.Proofs.MethodPlace

/-!
New imports and the annotations of the first type, in texts without imports.

The scan finds a type behind the annotations on its row. The search for the place of new imports
looks at the rows as they are: it stops at the first row that declares a type as it stands, and goes
up from there as long as rows start with an at sign. So the imports come in above all annotations of
the first type only if all rows from the first annotation to that row start so. They come in between
if the arguments of an annotation go on to a further row, and in the body of the type if its own row
starts with an annotation and another type follows.
-/

namespace TestWeaver.Proofs.AnnotatedTypes

open Merge Source Text LineText Splice ImportPlace MethodPlace FirstType

/-- The rows of a text whose first type, as the scan finds it, has annotations in front: these start
at the first of their rows, take any number of rows, and may end on the row of the type. -/
structure AnnotatedType (source : Text) where
  above : List Text
  annotations : List Text
  head : Text
  below : List Text
  rows_eq : rows source = above ++ (annotations ++ head :: below)
  starts : ∀ r ∈ annotations.head?, startsAnnotation r = true
  free : foundOn? (unrows (above ++ annotations)) = none
  found : foundOn? head ≠ none

namespace AnnotatedType

/-- Every row from the first annotation to the first declaration as it stands starts with an at
sign. Where no row declares a type so, there is no package row behind the first annotation. -/
def Guarded {source : Text} (t : AnnotatedType source) : Prop :=
  match (rows source).findIdx? declaresType with
  | some u => ∀ r ∈ between (rows source) t.above.length u, startsAnnotation r = true
  | none => ∀ r ∈ t.annotations ++ t.head :: t.below, isPackageRow r = false

instance {source : Text} (t : AnnotatedType source) : Decidable t.Guarded := by
  unfold Guarded
  split <;> infer_instance

end AnnotatedType

/-! ### What the scan finds in rows -/

lemma foundOn?_append (above below : List Text) :
    foundOn? (unrows (above ++ below)) =
      (foundOn? (unrows above)).or (foundOn? (unrows below)) := by
  obtain ⟨gap, hgap, hlines⟩ := lines_unrows_append above below
  have hnone : gap.find? opensType = none := by
    refine List.find?_eq_none.mpr fun l hl => ?_
    rw [hgap l hl]
    decide
  rw [foundOn?_eq, foundOn?_eq, foundOn?_eq, hlines, List.find?_append, List.find?_append, hnone,
    Option.or_none]

/-- The type that the scan finds first is the one on the head row. -/
lemma AnnotatedType.foundOn?_eq {source : Text} (t : AnnotatedType source) :
    foundOn? source = foundOn? t.head := by
  obtain ⟨l, hl⟩ := Option.ne_none_iff_exists'.mp t.found
  have hhead : unrows [t.head] = t.head := rfl
  calc foundOn? source = foundOn? (unrows (rows source)) := by rw [unrows_rows]
    _ = foundOn? (unrows (t.above ++ t.annotations ++ ([t.head] ++ t.below))) := by
      rw [t.rows_eq, List.append_assoc, List.singleton_append]
    _ = foundOn? t.head := by
      rw [foundOn?_append, t.free, Option.none_or, foundOn?_append, hhead, hl, Option.some_or]

/-- Above the annotations the scan finds no type. -/
lemma AnnotatedType.free_take {source : Text} (t : AnnotatedType source) {p : ℕ}
    (hp : p ≤ t.above.length) : foundOn? (unrows ((rows source).take p)) = none := by
  have hfree := t.free
  have hsplit : t.above ++ t.annotations = t.above.take p ++ (t.above.drop p ++ t.annotations) := by
    rw [← List.append_assoc, List.take_append_drop]
  rw [hsplit, foundOn?_append, Option.or_eq_none_iff] at hfree
  rw [t.rows_eq, List.take_append_of_le_length hp]
  exact hfree.1

/-! ### The place without imports -/

lemma lastImport_eq_none {rs : List Text} (hi : ∀ r ∈ rs, isImportRow r = false) :
    (landmarks rs).lastImport = none := by
  obtain ⟨above, rest, rfl, habove, hrest⟩ := exists_startsType rs
  rw [landmarks, landmarksFrom_append habove, lastImport_startsType hrest,
    lastImport_of_none habove (List.forall_mem_append.mp hi).1]

lemma type_landmarks (rs : List Text) : (landmarks rs).type = rs.findIdx? declaresType := by
  have hrun : ∀ (rs : List Text) (m : Landmarks) (n : ℕ), m.type = none →
      (landmarksFrom m n rs).type = (rs.findIdx? declaresType).map (· + n) := by
    intro rs
    induction rs with
    | nil => exact fun m n hm => hm
    | cons r rs ih =>
      intro m n hm
      rw [List.findIdx?_cons]
      by_cases hr : declaresType r = true
      · rw [landmarksFrom, if_pos hr, if_pos hr, Option.map_some, Nat.zero_add]
      · have hat : (m.at n r).type = none := by
          rw [Landmarks.at]
          split
          · exact hm
          · split <;> exact hm
        have hshift : ((· + n) ∘ fun i => i + 1) = (· + (n + 1)) := by
          funext i
          simp only [Function.comp_apply]
          omega
        rw [landmarksFrom, if_neg hr, if_neg hr, ih _ _ hat, Option.map_map, hshift]
  rw [landmarks, hrun rs {} 0 rfl]
  simp

/-- The rows that satisfy a condition at the end of a list reach up to row `a`. -/
lemma length_sub_takeWhile_le_iff {p : Text → Bool} {rs : List Text} {a : ℕ} :
    rs.length - (rs.reverse.takeWhile p).length ≤ a ↔ ∀ r ∈ rs.drop a, p r = true := by
  induction rs using List.reverseRecOn with
  | nil => simp
  | append_singleton rs r ih =>
    rcases Nat.lt_or_ge rs.length a with ha | ha
    · rw [List.drop_eq_nil_of_le (by rw [List.length_append]; exact ha)]
      simp only [List.length_append, List.length_singleton, List.not_mem_nil, false_implies,
        implies_true, iff_true]
      omega
    · rw [List.drop_append_of_le_length ha, List.forall_mem_append, ← ih, List.reverse_append,
        List.reverse_singleton, List.singleton_append, List.length_append, List.length_singleton]
      by_cases hr : p r = true
      · rw [List.takeWhile_cons_of_pos hr, List.length_cons]
        simp only [List.mem_singleton, forall_eq, hr, and_true]
        omega
      · rw [List.takeWhile_cons_of_neg hr]
        refine iff_of_false ?_ fun h => hr (h.2 r (List.mem_singleton_self r))
        rw [List.length_nil]
        omega

lemma lastPackage_of_none {rs : List Text} (ht : ∀ r ∈ rs, declaresType r = false)
    (hp : ∀ r ∈ rs, isPackageRow r = false) (m : Landmarks) (n : ℕ) :
    (landmarksFrom m n rs).lastPackage = m.lastPackage := by
  induction rs generalizing m n with
  | nil => rfl
  | cons r rs ih =>
    obtain ⟨htype, htypes⟩ := List.forall_mem_cons.mp ht
    obtain ⟨hpackage, hpackages⟩ := List.forall_mem_cons.mp hp
    rw [landmarksFrom_cons htype, ih htypes hpackages, Landmarks.at, hpackage,
      if_neg Bool.false_ne_true]
    split <;> rfl

/-- The last package row is one of the rows if there is any among them. -/
lemma le_lastPackage {rs : List Text} (ht : ∀ r ∈ rs, declaresType r = false)
    (hi : ∀ r ∈ rs, isImportRow r = false) (hp : ∃ r ∈ rs, isPackageRow r = true) (m : Landmarks)
    (n : ℕ) : ∃ q, (landmarksFrom m n rs).lastPackage = some q ∧ n ≤ q := by
  induction rs generalizing m n with
  | nil =>
    obtain ⟨r, hr, -⟩ := hp
    cases hr
  | cons r rs ih =>
    obtain ⟨htype, htypes⟩ := List.forall_mem_cons.mp ht
    obtain ⟨himport, himports⟩ := List.forall_mem_cons.mp hi
    rw [landmarksFrom_cons htype]
    by_cases hrest : ∃ r ∈ rs, isPackageRow r = true
    · obtain ⟨q, hq, hle⟩ := ih htypes himports hrest (m.at n r) (n + 1)
      exact ⟨q, hq, by omega⟩
    · have hnone : ∀ r ∈ rs, isPackageRow r = false := by simpa using hrest
      have hr : isPackageRow r = true := by
        obtain ⟨r', hr', hpackage⟩ := hp
        rcases List.mem_cons.mp hr' with rfl | hr'
        · exact hpackage
        · exact absurd ⟨r', hr', hpackage⟩ hrest
      refine ⟨n, ?_, le_rfl⟩
      rw [lastPackage_of_none htypes hnone, Landmarks.at, himport, if_neg Bool.false_ne_true,
        if_pos hr]

/-- Without imports and types the place is behind the last package row. -/
lemma importPosition_le_of_untyped {rs : List Text} (hi : ∀ r ∈ rs, isImportRow r = false)
    (hu : rs.findIdx? declaresType = none) {a : ℕ} :
    (importPosition rs).1 ≤ a ↔ ∀ r ∈ rs.drop a, isPackageRow r = false := by
  have ht : ∀ r ∈ rs, declaresType r = false := by simpa using List.findIdx?_eq_none_iff.mp hu
  have habove : ∀ r ∈ rs.take a, declaresType r = false := fun r hr =>
    ht r (List.mem_of_mem_take hr)
  have hbelow : ∀ r ∈ rs.drop a, declaresType r = false := fun r hr =>
    ht r (List.mem_of_mem_drop hr)
  have hmarks : landmarks rs = landmarksFrom (landmarksFrom {} 0 (rs.take a))
      (0 + (rs.take a).length) (rs.drop a) := by
    rw [← landmarksFrom_append habove, List.take_append_drop, landmarks]
  simp only [importPosition, lastImport_eq_none hi, type_landmarks, hu]
  by_cases hp : ∃ r ∈ rs.drop a, isPackageRow r = true
  · obtain ⟨q, hq, hle⟩ := le_lastPackage hbelow (fun r hr => hi r (List.mem_of_mem_drop hr)) hp
      (landmarksFrom {} 0 (rs.take a)) (0 + (rs.take a).length)
    have hlen : (rs.take a).length = a := by
      obtain ⟨r, hr, -⟩ := hp
      have hpos := List.length_pos_of_mem hr
      rw [List.length_drop] at hpos
      exact List.length_take_of_le (by omega)
    rw [hmarks, hq]
    refine iff_of_false (fun h => ?_) fun h => ?_
    · have : q + 1 ≤ a := h
      omega
    · obtain ⟨r, hr, hpackage⟩ := hp
      rw [h r hr] at hpackage
      cases hpackage
  · have hnone : ∀ r ∈ rs.drop a, isPackageRow r = false := by simpa using hp
    refine iff_of_true ?_ hnone
    rw [hmarks, lastPackage_of_none hbelow hnone]
    rcases hq : (landmarksFrom {} 0 (rs.take a)).lastPackage with _ | q
    · exact Nat.zero_le a
    · have hlt := lastPackage_lt habove {} 0 (by simp) q hq
      have hlen := List.length_take_le a rs
      exact Nat.succ_le_of_lt (by omega)

/-- Without imports the place is in front of the rows above the first declaration that start with an
at sign. -/
lemma importPosition_le_of_typed {rs : List Text} (hi : ∀ r ∈ rs, isImportRow r = false) {u : ℕ}
    (hu : rs.findIdx? declaresType = some u) {a : ℕ} :
    (importPosition rs).1 ≤ a ↔ ∀ r ∈ between rs a u, startsAnnotation r = true := by
  have hlen : (rs.take u).length = u := by
    have := (List.findIdx?_eq_some_iff_getElem.mp hu).1
    rw [List.length_take]
    omega
  have hup : (rs.take u).length - annotationsAbove rs u ≤ a ↔
      ∀ r ∈ (rs.take u).drop a, startsAnnotation r = true := length_sub_takeWhile_le_iff
  rw [hlen] at hup
  simp only [importPosition, lastImport_eq_none hi, type_landmarks, hu]
  exact hup

/-- The number of rows that stay above new imports. -/
def importPlace (source : Text) : ℕ := (importPosition (rows source)).1

lemma importPlace_le_iff {source : Text} (t : AnnotatedType source)
    (hi : ∀ r ∈ rows source, isImportRow r = false) :
    importPlace source ≤ t.above.length ↔ t.Guarded := by
  have hdrop : (rows source).drop t.above.length = t.annotations ++ t.head :: t.below := by
    rw [t.rows_eq, List.drop_left]
  unfold importPlace AnnotatedType.Guarded
  split
  · next u hu => exact importPosition_le_of_typed hi hu
  · next hu => rw [importPosition_le_of_untyped hi hu, hdrop]

/-- **New imports and annotations.** In a text without imports, the new ones come in as whole rows
with an empty row below them. This block stands above all annotations of the first type just if
every row from the first annotation to the first declaration as it stands starts with an at sign, or
no package row follows where no row declares a type so. Above the annotations it is outside of every
type: the scan finds none in front of it. -/
theorem mergeImports_above_iff {existing fragment : Text} (t : AnnotatedType existing)
    (hi : ∀ r ∈ rows existing, isImportRow r = false)
    (hm : (missingImports existing fragment).items ≠ []) :
    rows (mergeImports existing fragment) = (rows existing).take (importPlace existing) ++
        ((missingImports existing fragment).items.map importRow ++ [[]] ++
          (rows existing).drop (importPlace existing)) ∧
      (importPlace existing ≤ t.above.length ↔ t.Guarded) ∧
      (importPlace existing ≤ t.above.length →
        foundOn? (unrows ((rows existing).take (importPlace existing))) = none) := by
  have hplain : (importPosition (rows existing)).2 = false := by
    rw [importPosition, lastImport_eq_none hi]
    cases (landmarks (rows existing)).type <;>
      cases (landmarks (rows existing)).lastPackage <;> rfl
  refine ⟨?_, importPlace_le_iff t hi, t.free_take⟩
  have hinsert : importInsertion? existing fragment =
      some ⟨importPlace existing, importBlock existing fragment⟩ := by
    rw [importInsertion?_eq, if_neg hm, importPlace]
  rw [rows_mergeImports hinsert, Insertion.apply, importBlock, hplain, if_neg Bool.false_ne_true,
    List.append_assoc]

/-- Two annotations on rows of their own, and a type inside: the imports come in above both. -/
theorem mergeImports_above_rows :
    let existing := "package p;\n@A\n@B(1)\nclass C \x7b\n  @D class E \x7b\n  \x7d\n\x7d".toList
    let fragment := "import x.Y;".toList
    ∃ t : AnnotatedType existing, t.annotations = ["@A".toList, "@B(1)".toList] ∧
      (∀ r ∈ rows existing, isImportRow r = false) ∧
      (missingImports existing fragment).items = ["x.Y".toList] ∧ importPlace existing ≤ 1 ∧
      foundOn? (unrows ((rows existing).take (importPlace existing))) = none ∧
      mergeImports existing fragment = ("package p;\nimport x.Y;\n\n@A\n@B(1)\nclass C \x7b\n" ++
        "  @D class E \x7b\n  \x7d\n\x7d").toList := by
  intro existing fragment
  have hi : ∀ r ∈ rows existing, isImportRow r = false := by decide +kernel
  have hm : (missingImports existing fragment).items = ["x.Y".toList] := by decide +kernel
  let t : AnnotatedType existing :=
    ⟨["package p;".toList], ["@A".toList, "@B(1)".toList], "class C \x7b".toList,
      ["  @D class E \x7b".toList, "  \x7d".toList, "\x7d".toList], by decide +kernel,
      by decide +kernel, by decide +kernel, by decide +kernel⟩
  have hguarded : t.Guarded := by decide +kernel
  have hne : (missingImports existing fragment).items ≠ [] := by simp [hm]
  obtain ⟨hrows, hplace, hfree⟩ := mergeImports_above_iff t hi hne
  have hle : importPlace existing ≤ 1 := hplace.mpr hguarded
  refine ⟨t, rfl, hi, hm, hle, hfree hle, ?_⟩
  rw [← unrows_rows (mergeImports existing fragment), hrows, hm]
  decide +kernel

/-- Where the row of the type starts with an annotation, the imports can come in behind it: in
front of the next type, inside the first one. Where the arguments of an annotation go on to further
rows, they come in between the annotation and its type. -/
theorem mergeImports_above_inside :
    let joined := "@A class C \x7b\n  int x;\n  class E \x7b\n  \x7d\n\x7d".toList
    let spread := "@A(\n  1\n)\nclass C \x7b\n\x7d".toList
    let fragment := "import x.Y;".toList
    (∃ t : AnnotatedType joined, t.above = [] ∧ ¬ importPlace joined ≤ t.above.length) ∧
      (∀ r ∈ rows joined, isImportRow r = false) ∧
      mergeImports joined fragment =
        "@A class C \x7b\n  int x;\nimport x.Y;\n\n  class E \x7b\n  \x7d\n\x7d".toList ∧
      (∃ t : AnnotatedType spread, t.above = [] ∧ ¬ importPlace spread ≤ t.above.length) ∧
      (∀ r ∈ rows spread, isImportRow r = false) ∧
      mergeImports spread fragment =
        "@A(\n  1\n)\nimport x.Y;\n\nclass C \x7b\n\x7d".toList := by
  intro joined spread fragment
  refine ⟨⟨⟨[], [], "@A class C \x7b".toList, (rows joined).drop 1, ?_, ?_, ?_, ?_⟩, rfl, ?_⟩,
    ?_, ?_, ⟨⟨[], (rows spread).take 3, "class C \x7b".toList, (rows spread).drop 4, ?_, ?_, ?_,
      ?_⟩, rfl, ?_⟩, ?_, ?_⟩
  all_goals decide +kernel

end TestWeaver.Proofs.AnnotatedTypes
