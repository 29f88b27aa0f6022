import TestWeaver.Text.Blank
import TestWeaver.Text.Word

/-!
Statements that start on a row of a text and may run over several rows.

A recogniser is tried at the start of the text and behind every newline. `firstStatement?`
gives the first place where it succeeds; `statements` gives all of them, the search going on
behind the text that each one took.
-/

namespace TestWeaver.Source

def firstStatementFrom? {α : Type} (read : Text → Option α) (atRow : Bool) :
    Text → Option α
  | [] => if atRow then read [] else none
  | c :: s =>
    (if atRow then read (c :: s) else none).or (firstStatementFrom? read (c = '\n') s)

def firstStatement? {α : Type} (read : Text → Option α) (s : Text) : Option α :=
  firstStatementFrom? read true s

/-- The number `busy` counts the characters that the statement found last still takes. -/
def statementsFrom {α : Type} (read : Text → Option (α × Text)) (busy : Nat) (atRow : Bool) :
    Text → List α
  | [] => []
  | c :: s =>
    match busy with
    | n + 1 => statementsFrom read n (c = '\n') s
    | 0 =>
      match if atRow then read (c :: s) else none with
      | some (a, r) => a :: statementsFrom read (s.length - r.length) (c = '\n') s
      | none => statementsFrom read 0 (c = '\n') s

def statements {α : Type} (read : Text → Option (α × Text)) (s : Text) : List α :=
  statementsFrom read 0 true s

/-- What follows a keyword and the blanks behind it, blanks in front allowed. -/
def afterKeyword? (keyword : String) (s : Text) : Option Text :=
  (Text.after? keyword.toList (Text.trimStart s)).bind Text.afterBlanks?

/-- What follows a semicolon, blanks in front allowed. -/
def afterSemicolon? (s : Text) : Option Text :=
  match Text.trimStart s with
  | ';' :: r => some r
  | _ => none

end TestWeaver.Source
