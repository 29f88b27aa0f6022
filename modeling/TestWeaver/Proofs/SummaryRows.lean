import TestWeaver.Build.Summary
import TestWeaver.Proofs.RowText

/-!
The summary of a build's output as a function of its telling rows.

A row tells something when it holds a keyword in any case or is a progress row. The summary is put
together from the telling rows alone, so rows that tell nothing can come and go; only an output
without a telling row is shown as it stands, up to a limit. A telling row is never empty: that is
why joining at least one of them never looks like joining none.
-/

namespace TestWeaver.Proofs.SummaryRows

open Text Build RowText

/-- A row that holds a keyword in any case, or that starts with the progress mark. -/
def Telling (row : Text) : Prop := (∃ k ∈ keywords, k <:+: lower row) ∨ ['>'] <+: trim row

lemma anyIn_iff {marks : List Text} {s : Text} : anyIn marks s = true ↔ ∃ m ∈ marks, m <:+: s := by
  rw [anyIn, List.any_eq_true]
  simp only [includes_iff]

lemma qualifies_iff {row : Text} : qualifies row = true ↔ Telling row := by
  have hmark : (trim row).head? = some '>' ↔ ['>'] <+: trim row := by
    rw [List.head?_eq_some_iff]
    exact ⟨fun ⟨t, ht⟩ => ⟨t, ht.symm⟩, fun ⟨t, ht⟩ => ⟨t, ht.symm⟩⟩
  rw [qualifies, Bool.or_eq_true, anyIn_iff, decide_eq_true_iff, hmark, Telling]

instance : DecidablePred Telling := fun _ => decidable_of_iff _ qualifies_iff

/-- The rows of an output that its summary is about. -/
def tellingRows (output : Text) : List Text := (rows output).filter fun row => Telling row

lemma filter_qualifies (rs : List Text) : rs.filter qualifies = rs.filter fun r => Telling r :=
  List.filter_congr fun r _ => by
    rw [Bool.eq_iff_iff, qualifies_iff, decide_eq_true_iff]

lemma mem_tellingRows {output row : Text} :
    row ∈ tellingRows output ↔ row ∈ rows output ∧ Telling row := by
  rw [tellingRows, List.mem_filter, decide_eq_true_iff]

lemma Telling.ne_nil {row : Text} (h : Telling row) : row ≠ [] := by
  rintro rfl
  exact absurd h (by decide)

lemma newline_not_mem {output row : Text} (h : row ∈ tellingRows output) : '\n' ∉ row :=
  not_mem_of_mem_splitAt (mem_tellingRows.mp h).1

/-! ### The summary, case by case -/

lemma summarize_eq (maxRows fallback : Int) (output : Text) :
    summarize maxRows fallback output =
      if maxRows < (tellingRows output).length then
        unrows (upTo maxRows (tellingRows output)) ++ '\n' :: truncationMark
      else
        match unrows (tellingRows output) with
        | [] => upTo fallback output
        | s => s := by
  rw [summarize, filter_qualifies]
  rfl

lemma upTo_of_pos {α : Type} {n : Int} (h : 1 ≤ n) (s : List α) : upTo n s = s.take n.toNat :=
  if_pos (by omega)

/-- Telling rows that are put together can be told apart again. -/
lemma rows_unrows_tellingRows {output : Text} (hne : tellingRows output ≠ []) :
    rows (unrows (tellingRows output)) = tellingRows output :=
  splitAt_joinWith hne fun _ => newline_not_mem

lemma unrows_tellingRows_ne_nil {output : Text} (hne : tellingRows output ≠ []) :
    unrows (tellingRows output) ≠ [] := by
  intro hnil
  have hjoined := rows_unrows_tellingRows hne
  rw [hnil] at hjoined
  have hempty : [] ∈ tellingRows output := by
    rw [← hjoined]
    exact List.mem_cons_self ..
  exact (mem_tellingRows.mp hempty).2.ne_nil rfl

/-- Summaries with telling rows are a function of these. -/
lemma summarize_of_ne_nil {maxRows fallback : Int} {output : Text}
    (hne : tellingRows output ≠ []) :
    summarize maxRows fallback output =
      if maxRows < (tellingRows output).length then
        unrows (upTo maxRows (tellingRows output)) ++ '\n' :: truncationMark
      else unrows (tellingRows output) := by
  rw [summarize_eq]
  congr 1
  split
  · next hnil => exact absurd hnil (unrows_tellingRows_ne_nil hne)
  · rfl

/-- A few telling rows make up the summary. -/
lemma rows_summarize_of_le {maxRows fallback : Int} {output : Text}
    (hle : (tellingRows output).length ≤ maxRows) (hne : tellingRows output ≠ []) :
    rows (summarize maxRows fallback output) = tellingRows output := by
  rw [summarize_of_ne_nil hne, if_neg (by omega), rows_unrows_tellingRows hne]

/-- Of many telling rows the first ones are shown, and a row that says so. -/
lemma rows_summarize_of_lt {maxRows fallback : Int} {output : Text} (hpos : 1 ≤ maxRows)
    (hlt : maxRows < (tellingRows output).length) :
    rows (summarize maxRows fallback output) =
      (tellingRows output).take maxRows.toNat ++ [truncationMark] := by
  have hne : tellingRows output ≠ [] := by
    intro hnil
    rw [hnil, List.length_nil] at hlt
    omega
  have hshown : (tellingRows output).take maxRows.toNat ≠ [] := by
    rw [Ne, List.take_eq_nil_iff]
    rintro (hzero | hnil)
    · omega
    · exact hne hnil
  have hmark : splitAt '\n' truncationMark = [truncationMark] := splitAt_of_not_mem (by decide)
  rw [summarize_of_ne_nil hne, if_pos hlt, upTo_of_pos hpos, rows, splitAt_append, hmark,
    splitAt_joinWith hshown fun _ h => newline_not_mem (List.mem_of_mem_take h)]

lemma summarize_of_nil {maxRows fallback : Int} {output : Text} (hpos : 1 ≤ maxRows)
    (hchars : 1 ≤ fallback) (hnil : tellingRows output = []) :
    summarize maxRows fallback output = output.take fallback.toNat := by
  rw [summarize_eq, hnil, List.length_nil, if_neg (by omega)]
  exact upTo_of_pos hchars output

/-! ### Rows that tell nothing -/

/-- Rows put in or taken out one by one, anywhere, none of which tells anything. -/
inductive Edited (before : List Text) : List Text → Prop
  | unchanged : Edited before before
  | inserted (above below : List Text) {row : Text} (silent : ¬ Telling row)
      (sofar : Edited before (above ++ below)) : Edited before (above ++ row :: below)
  | deleted (above below : List Text) {row : Text} (silent : ¬ Telling row)
      (sofar : Edited before (above ++ row :: below)) : Edited before (above ++ below)

/-- Rows that tell nothing do not count among those that do. -/
lemma Edited.filter_eq {before after : List Text} (h : Edited before after) :
    (after.filter fun row => Telling row) = before.filter fun row => Telling row := by
  induction h with
  | unchanged => rfl
  | inserted above below silent _ ih =>
    rw [← ih, List.filter_append, List.filter_cons_of_neg (by simpa using silent),
      List.filter_append]
  | deleted above below silent _ ih =>
    rw [← ih, List.filter_append, List.filter_append,
      List.filter_cons_of_neg (by simpa using silent)]

/-- **A summary shows the telling rows**: all of them, or the first ones and the truncation mark,
whatever other rows stand around them; the start of the output where no row tells anything. -/
theorem summarize_telling {maxRows fallback : Int} (hrows : 1 ≤ maxRows) (hchars : 1 ≤ fallback)
    (output : Text) :
    ((∃ row ∈ rows output, Telling row) →
      (rows (summarize maxRows fallback output) =
        if (tellingRows output).length ≤ maxRows then tellingRows output
        else (tellingRows output).take maxRows.toNat ++ [truncationMark]) ∧
      ∀ other, Edited (rows output) (rows other) →
        summarize maxRows fallback other = summarize maxRows fallback output) ∧
    ((∀ row ∈ rows output, ¬ Telling row) →
      summarize maxRows fallback output = output.take fallback.toNat) := by
  refine ⟨fun ⟨row, hmem, htelling⟩ => ?_, fun hsilent => ?_⟩
  · have hne : tellingRows output ≠ [] :=
      List.ne_nil_of_mem (mem_tellingRows.mpr ⟨hmem, htelling⟩)
    constructor
    · split
      · next hle => exact rows_summarize_of_le hle hne
      · next hlt => exact rows_summarize_of_lt hrows (by omega)
    · intro other hedited
      have hsame : tellingRows other = tellingRows output := hedited.filter_eq
      rw [summarize_of_ne_nil hne, summarize_of_ne_nil (hsame ▸ hne), hsame]
  · have hnil : tellingRows output = [] :=
      List.filter_eq_nil_iff.mpr fun row hmem => by simpa using hsilent row hmem
    exact summarize_of_nil hrows hchars hnil

/-- Two telling rows around a silent one, with room for one row. -/
def noisy : Text := "> Task\nok\nBUILD FAILED".toList

/-- The same two rows below a silent one. -/
def moved : Text := "ok\n> Task\nBUILD FAILED".toList

theorem summarize_telling_noisy :
    rows (summarize 1 5 noisy) = ["> Task".toList, truncationMark] ∧
      summarize 1 5 moved = summarize 1 5 noisy ∧
      summarize 1 2 "ok\n1".toList = "ok".toList := by
  have hsilent : ¬ Telling "ok".toList := by decide
  have hdeleted : Edited (rows noisy) ["> Task".toList, "BUILD FAILED".toList] :=
    .deleted ["> Task".toList] ["BUILD FAILED".toList] hsilent .unchanged
  have hedited : Edited (rows noisy) (rows moved) := .inserted [] _ hsilent hdeleted
  obtain ⟨hshown, hsame⟩ :=
    (summarize_telling (by decide : (1 : Int) ≤ 1) (by decide : (1 : Int) ≤ 5) noisy).1
      ⟨"> Task".toList, by decide, by decide⟩
  exact ⟨hshown.trans (by decide), hsame moved hedited,
    (summarize_telling (by decide) (by decide) _).2 (by decide)⟩

end TestWeaver.Proofs.SummaryRows
