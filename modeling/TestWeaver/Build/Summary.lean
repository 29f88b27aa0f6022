import TestWeaver.Build.Settings
import TestWeaver.Build.Verdict
import TestWeaver.Text.Blank

/-!
The summary of a build's output: the rows that speak of tests or of the build, up to a limit,
or the start of the output where there are none.
-/

namespace TestWeaver.Build

def truncationMark : Text := "... (truncated)".toList

def keywords : List Text :=
  ["test", "passed", "failed", "success", "failure", "error", "build", "running"].map
    String.toList

/-- Whether a row holds a keyword in any case or starts with the mark of a progress row. -/
def qualifies (row : Text) : Bool :=
  anyIn keywords (Text.lower row) || (Text.trim row).head? = some '>'

def summarize (maxRows fallback : Int) (output : Text) : Text :=
  let rows := (Text.rows output).filter qualifies
  if maxRows < rows.length then
    Text.unrows (Text.upTo maxRows rows) ++ '\n' :: truncationMark
  else
    match Text.unrows rows with
    | [] => Text.upTo fallback output
    | s => s

/-- A build's output with the verdict on it. -/
structure Result where
  output : Text
  passed : Bool
  summary : Text
  tool : Tool
deriving DecidableEq, Repr

def result (tool : Tool) (settings : Settings) (output : Text) : Result :=
  ⟨output, passed tool output,
    summarize settings.summaryLines settings.summaryChars output, tool⟩

end TestWeaver.Build
