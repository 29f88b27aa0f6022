import TestWeaver.Proofs.LowerRows
import TestWeaver.Proofs.SummaryRows

/-!
The summary shows what the verdict rests on.

The verdict looks for its markers in the whole output, the summary for its keywords in single rows.
The two tables fit: each marker of a known tool holds a keyword and no newline, so a marker in the
output lies in one row, and that row is among those shown.
-/

namespace TestWeaver.Proofs.ShownEvidence

open Text Build SummaryRows LowerRows

/-- The markers that tell a run that passed or failed. -/
def markers (tool : Tool) : List Text := tool.signals.success ++ tool.signals.failure

lemma newline_not_mem_marker {tool : Tool} {m : Text} (h : m ∈ markers tool) : '\n' ∉ m := by
  have hall : ∀ m ∈ markers tool, '\n' ∉ m := by cases tool <;> decide
  exact hall m h

lemma exists_keyword {tool : Tool} (htool : tool ≠ .unknown) {m : Text} (h : m ∈ markers tool) :
    ∃ k ∈ keywords, k <:+: m := by
  have hall : ∀ m ∈ markers tool, anyIn keywords m = true := by
    cases tool with
    | gradle => decide
    | maven => decide
    | unknown => exact absurd rfl htool
  exact anyIn_iff.mp (hall m h)

/-- A row with a marker tells something. -/
lemma telling_of_marker {tool : Tool} (htool : tool ≠ .unknown) {m row : Text}
    (hm : m ∈ markers tool) (h : m <:+: lower row) : Telling row := by
  obtain ⟨k, hk, hinfix⟩ := exists_keyword htool hm
  exact .inl ⟨k, hk, hinfix.trans h⟩

/-- A marker of the output is shown, where all telling rows are. -/
lemma marker_shown {tool : Tool} (htool : tool ≠ .unknown) {m output : Text} {maxRows : Int}
    (hle : (tellingRows output).length ≤ maxRows) (hm : m ∈ markers tool)
    (h : m <:+: lower output) (fallback : Int) :
    ∃ row ∈ rows (summarize maxRows fallback output), m <:+: lower row := by
  obtain ⟨row, hrow, hinfix⟩ := (infix_lower_iff (newline_not_mem_marker hm) output).mp h
  have htelling := mem_tellingRows.mpr ⟨hrow, telling_of_marker htool hm hinfix⟩
  rw [rows_summarize_of_le hle (List.ne_nil_of_mem htelling)]
  exact ⟨row, htelling, hinfix⟩

lemma passed_of_success {g : Signals} {m lowered : Text} (hm : m ∈ g.success)
    (h : m <:+: lowered) : g.passed lowered = true := by
  have hany : anyIn g.success lowered = true := anyIn_iff.mpr ⟨m, hm, h⟩
  rw [Signals.passed, hany]
  rfl

/-- A run fails on a failure marker only. -/
lemma exists_failure {g : Signals} {lowered : Text} (h : g.passed lowered = false) :
    ∃ m ∈ g.failure, m <:+: lowered := by
  rw [Signals.passed, Bool.or_eq_false_iff, Bool.not_eq_false'] at h
  exact anyIn_iff.mp h.2

/-- **The summary shows the evidence for the verdict**: a failure marker of a run that failed, and
every success marker of the output, which then passed. -/
theorem result_shows_evidence {tool : Tool} (htool : tool ≠ .unknown) {settings : Settings}
    {output : Text} (hle : (tellingRows output).length ≤ settings.summaryLines) :
    ((result tool settings output).passed = false →
      ∃ row ∈ rows (result tool settings output).summary,
        ∃ m ∈ tool.signals.failure, m <:+: lower row) ∧
    ∀ m ∈ tool.signals.success, m <:+: lower output →
      (result tool settings output).passed = true ∧
        ∃ row ∈ rows (result tool settings output).summary, m <:+: lower row := by
  refine ⟨fun hfailed => ?_, fun m hm hinfix => ⟨passed_of_success hm hinfix, ?_⟩⟩
  · obtain ⟨m, hm, hinfix⟩ := exists_failure hfailed
    obtain ⟨row, hrow, hshown⟩ := marker_shown htool hle (List.mem_append_right _ hm) hinfix
      settings.summaryChars
    exact ⟨row, hrow, m, hm, hshown⟩
  · exact marker_shown htool hle (List.mem_append_left _ hm) hinfix settings.summaryChars

def failedRun : Text := "> Task\nok\nBUILD FAILED in 1s".toList

def passedRun : Text := "ok\nBUILD SUCCESSFUL in 1s".toList

theorem result_shows_evidence_runs :
    (∃ row ∈ rows (result .gradle {} failedRun).summary,
      ∃ m ∈ Tool.gradle.signals.failure, m <:+: lower row) ∧
    (result .gradle {} passedRun).passed = true ∧
      ∃ row ∈ rows (result .gradle {} passedRun).summary,
        "build successful".toList <:+: lower row := by
  have hmarker : "build successful".toList <:+: lower passedRun :=
    includes_iff.mp (by decide)
  exact ⟨(result_shows_evidence (by decide) (by decide)).1 (by decide),
    (result_shows_evidence (by decide) (by decide)).2 _ (by decide) hmarker⟩

end TestWeaver.Proofs.ShownEvidence
