import TestWeaver.Proofs.Splice

/-!
Where new imports go, and that the place stays the same.

The place lies above the first type, and between the two no row is an import. So once imports have
come in, the last import above the type is the last of them, whichever row the first ones held on
to, and the next imports follow directly: adding imports twice is adding them once.
-/

namespace TestWeaver.Proofs.ImportPlace

open Merge Source Text Splice

/-! ### The search for landmarks -/

lemma landmarksFrom_cons {r : Text} (h : declaresType r = false) (m : Landmarks) (n : ℕ)
    (rs : List Text) : landmarksFrom m n (r :: rs) = landmarksFrom (m.at n r) (n + 1) rs := by
  rw [landmarksFrom, h, if_neg Bool.false_ne_true]

/-- Rows in front of the first type are searched on their own. -/
lemma landmarksFrom_append {above : List Text} (h : ∀ r ∈ above, declaresType r = false)
    (m : Landmarks) (n : ℕ) (rest : List Text) :
    landmarksFrom m n (above ++ rest) =
      landmarksFrom (landmarksFrom m n above) (n + above.length) rest := by
  induction above generalizing m n with
  | nil => rfl
  | cons r above ih =>
    obtain ⟨hr, hrest⟩ := List.forall_mem_cons.mp h
    have hlen : n + 1 + above.length = n + (r :: above).length := by
      rw [List.length_cons]
      omega
    rw [List.cons_append, landmarksFrom_cons hr, landmarksFrom_cons hr, ih hrest, hlen]

/-- The rows of the first type and below it. -/
def StartsType (rest : List Text) : Prop := ∀ r ∈ rest.head?, declaresType r = true

lemma lastImport_startsType {rest : List Text} (h : StartsType rest) (m : Landmarks) (n : ℕ) :
    (landmarksFrom m n rest).lastImport = m.lastImport := by
  cases rest with
  | nil => rfl
  | cons r rest => rw [landmarksFrom, if_pos (h r rfl)]

/-- Rows that are neither an import nor a type leave the last import as it is. -/
lemma lastImport_of_none {rs : List Text} (ht : ∀ r ∈ rs, declaresType r = false)
    (hi : ∀ r ∈ rs, isImportRow r = false) (m : Landmarks) (n : ℕ) :
    (landmarksFrom m n rs).lastImport = m.lastImport := by
  induction rs generalizing m n with
  | nil => rfl
  | cons r rs ih =>
    obtain ⟨htype, htypes⟩ := List.forall_mem_cons.mp ht
    obtain ⟨himport, himports⟩ := List.forall_mem_cons.mp hi
    rw [landmarksFrom_cons htype, ih htypes himports, Landmarks.at, himport,
      if_neg Bool.false_ne_true]
    split <;> rfl

lemma type_of_none {rs : List Text} (ht : ∀ r ∈ rs, declaresType r = false) (m : Landmarks)
    (n : ℕ) : (landmarksFrom m n rs).type = m.type := by
  induction rs generalizing m n with
  | nil => rfl
  | cons r rs ih =>
    obtain ⟨htype, htypes⟩ := List.forall_mem_cons.mp ht
    rw [landmarksFrom_cons htype, ih htypes, Landmarks.at]
    split
    · rfl
    · split <;> rfl

lemma lastPackage_lt {rs : List Text} (ht : ∀ r ∈ rs, declaresType r = false) (m : Landmarks)
    (n : ℕ) (hm : ∀ i ∈ m.lastPackage, i < n) :
    ∀ i ∈ (landmarksFrom m n rs).lastPackage, i < n + rs.length := by
  induction rs generalizing m n with
  | nil => exact hm
  | cons r rs ih =>
    obtain ⟨htype, htypes⟩ := List.forall_mem_cons.mp ht
    have hlen : n + 1 + rs.length = n + (r :: rs).length := by
      rw [List.length_cons]
      omega
    rw [landmarksFrom_cons htype, ← hlen]
    refine ih htypes _ _ fun i hi => ?_
    unfold Landmarks.at at hi
    split at hi
    · exact (hm i hi).trans (Nat.lt_succ_self n)
    · split at hi
      · obtain rfl := Option.some.inj hi
        exact Nat.lt_succ_self n
      · exact (hm i hi).trans (Nat.lt_succ_self n)

/-- The last import of rows above the first type: none comes behind it. -/
lemma lastImport_split {rs : List Text} (ht : ∀ r ∈ rs, declaresType r = false) (m : Landmarks)
    (n : ℕ) :
    ∃ above between, rs = above ++ between ∧ (∀ r ∈ between, isImportRow r = false) ∧
      ((above = [] ∧ (landmarksFrom m n rs).lastImport = m.lastImport) ∨
        ∃ i, (landmarksFrom m n rs).lastImport = some i ∧ i + 1 = n + above.length) := by
  induction rs generalizing m n with
  | nil => exact ⟨[], [], rfl, by simp, Or.inl ⟨rfl, rfl⟩⟩
  | cons r rs ih =>
    obtain ⟨htype, htypes⟩ := List.forall_mem_cons.mp ht
    have hstep := landmarksFrom_cons htype m n rs
    obtain ⟨above, between, rfl, hbetween, ⟨rfl, hlast⟩ | ⟨i, hlast, hi⟩⟩ :=
      ih htypes (m.at n r) (n + 1)
    · by_cases himport : isImportRow r = true
      · refine ⟨[r], between, rfl, hbetween, Or.inr ⟨n, ?_, rfl⟩⟩
        rw [hstep, hlast, Landmarks.at, if_pos himport]
      · have himport : isImportRow r = false := by simpa using himport
        refine ⟨[], r :: between, rfl, List.forall_mem_cons.mpr ⟨himport, hbetween⟩,
          Or.inl ⟨rfl, ?_⟩⟩
        rw [hstep, hlast, Landmarks.at, himport, if_neg Bool.false_ne_true]
        split <;> rfl
    · refine ⟨r :: above, between, rfl, hbetween, Or.inr ⟨i, by rw [hstep, hlast], ?_⟩⟩
      rw [hi, List.length_cons]
      omega

/-! ### The place -/

/-- Rows are those above the first type, which `landmarks` looks at, and those from it on. -/
lemma exists_startsType (rs : List Text) :
    ∃ above rest, rs = above ++ rest ∧ (∀ r ∈ above, declaresType r = false) ∧ StartsType rest := by
  induction rs with
  | nil => exact ⟨[], [], rfl, by simp, by simp [StartsType]⟩
  | cons r rs ih =>
    by_cases hr : declaresType r = true
    · exact ⟨[], r :: rs, rfl, by simp, by simpa [StartsType] using hr⟩
    · obtain ⟨above, rest, rfl, habove, hrest⟩ := ih
      exact ⟨r :: above, rest, rfl, List.forall_mem_cons.mpr ⟨by simpa using hr, habove⟩, hrest⟩

lemma importPosition_of_some {rs : List Text} {i : ℕ} (h : (landmarks rs).lastImport = some i) :
    importPosition rs = (i + 1, true) := by
  simp only [importPosition, h]

/-- Without an import above the first type, the place is still above it. -/
lemma importPosition_le_of_none {above rest : List Text}
    (ht : ∀ r ∈ above, declaresType r = false) (hrest : StartsType rest)
    (hnone : (landmarks (above ++ rest)).lastImport = none) :
    (importPosition (above ++ rest)).1 ≤ above.length := by
  have hmarks := landmarksFrom_append ht {} 0 rest
  rw [Nat.zero_add] at hmarks
  rw [landmarks, hmarks] at hnone
  simp only [importPosition, landmarks, hmarks, hnone]
  cases rest with
  | nil =>
    simp only [landmarksFrom, type_of_none ht]
    rcases hp : (landmarksFrom {} 0 above).lastPackage with _ | q
    · exact Nat.zero_le _
    · have := lastPackage_lt ht {} 0 (by simp) q hp
      rw [Nat.zero_add] at this
      exact this
  | cons r rest =>
    simp only [landmarksFrom, hrest r rfl, if_true]
    exact Nat.sub_le _ _

/-- Every text is rows above the place, rows between it and the first type, none of them an import,
and the rows from the first type on. -/
lemma importPosition_split (rs : List Text) :
    ∃ above between rest, rs = above ++ (between ++ rest) ∧
      (importPosition rs).1 = above.length ∧ (∀ r ∈ above ++ between, declaresType r = false) ∧
      (∀ r ∈ between, isImportRow r = false) ∧ StartsType rest := by
  obtain ⟨front, rest, rfl, hfront, hrest⟩ := exists_startsType rs
  have hlast : (landmarks (front ++ rest)).lastImport = (landmarksFrom {} 0 front).lastImport := by
    rw [landmarks, landmarksFrom_append hfront, lastImport_startsType hrest]
  obtain ⟨above, between, rfl, hbetween, ⟨rfl, hnone⟩ | ⟨i, hi, hlen⟩⟩ :=
    lastImport_split hfront {} 0
  · -- no import: the place is wherever the other landmarks say
    have hle := importPosition_le_of_none hfront hrest (hlast.trans hnone)
    rw [List.nil_append] at hle hfront ⊢
    refine ⟨between.take (importPosition (between ++ rest)).1,
      between.drop (importPosition (between ++ rest)).1, rest, ?_,
      (List.length_take_of_le hle).symm, ?_, fun r hr => hbetween r (List.mem_of_mem_drop hr),
      hrest⟩
    · rw [← List.append_assoc, List.take_append_drop]
    · rw [List.take_append_drop]
      exact hfront
  · refine ⟨above, between, rest, List.append_assoc _ _ _, ?_, hfront, hbetween, hrest⟩
    rw [importPosition_of_some (hlast.trans hi), hlen, Nat.zero_add]

lemma isImportRow_importRow (d : Text) : isImportRow (importRow d) = true := rfl

lemma lastImport_importRows {ds : List Text} (hne : ds ≠ []) (m : Landmarks) (n : ℕ) :
    (landmarksFrom m n (ds.map importRow)).lastImport = some (n + ds.length - 1) := by
  obtain ⟨ds, d, rfl⟩ := (List.eq_nil_or_concat' ds).resolve_left hne
  rw [List.map_append, landmarksFrom_append (declaresType_importRows ds), List.map_singleton,
    landmarksFrom_cons (declaresType_importRow d), landmarksFrom, Landmarks.at,
    isImportRow_importRow, if_pos rfl, List.length_map, List.length_append, List.length_singleton]
  rfl

/-- **The place after new imports** is directly behind them. -/
theorem importPosition_behind {above between rest ds gap : List Text} (hne : ds ≠ [])
    (ht : ∀ r ∈ above ++ between, declaresType r = false)
    (hi : ∀ r ∈ between, isImportRow r = false) (hrest : StartsType rest)
    (hgap : ∀ r ∈ gap, r = []) :
    importPosition (above ++ (ds.map importRow ++ gap ++ (between ++ rest))) =
      (above.length + ds.length, true) := by
  obtain ⟨habove, hbetween⟩ := List.forall_mem_append.mp ht
  have hbelow : ∀ r ∈ gap ++ between, declaresType r = false := by
    refine List.forall_mem_append.mpr ⟨fun r hr => ?_, hbetween⟩
    rw [hgap r hr]
    rfl
  have hnone : ∀ r ∈ gap ++ between, isImportRow r = false := by
    refine List.forall_mem_append.mpr ⟨fun r hr => ?_, hi⟩
    rw [hgap r hr]
    rfl
  have hlast : (landmarks (above ++ (ds.map importRow ++ gap ++ (between ++ rest)))).lastImport =
      some (above.length + ds.length - 1) := by
    have hrows : above ++ (ds.map importRow ++ gap ++ (between ++ rest)) =
        above ++ (ds.map importRow ++ ((gap ++ between) ++ rest)) := by simp
    rw [landmarks, hrows, landmarksFrom_append habove,
      landmarksFrom_append (declaresType_importRows ds), landmarksFrom_append hbelow,
      lastImport_startsType hrest, lastImport_of_none hbelow hnone, lastImport_importRows hne,
      Nat.zero_add]
  have hpos := List.length_pos_iff.mpr hne
  have hsucc : above.length + ds.length - 1 + 1 = above.length + ds.length := by omega
  rw [importPosition_of_some hlast, hsucc]

end TestWeaver.Proofs.ImportPlace
