import TestWeaver.Source.Member
import TestWeaver.Text.Lines

/-!
The structural scan of a source text, line by line.

`step` takes the state at a line to the state after it and at most one event. Before the first
type declaration every line is skipped; from then on a line that reads as a method header
opens a member, and braces are counted until its body closes. Braces in strings and in
comments that share a line with code count as well.
-/

namespace TestWeaver.Source

inductive Phase where
  | seekingUnit
  | seekingMember
  | inBody
deriving DecidableEq, Repr

/-- The fields `depth`, `opened` and `pending` describe the member whose body is being read. -/
structure ScanState where
  phase : Phase := .seekingUnit
  depth : Int := 0
  opened : Bool := false
  pending : Option Member := none
deriving DecidableEq, Repr

inductive EventKind where
  | memberStart
  | memberEnd
  | skip
deriving DecidableEq, Repr

structure ScanEvent where
  kind : EventKind
  line : Int
  member : Option Member := none
deriving DecidableEq, Repr

def ScanState.initial : ScanState := {}

/-- Opening less closing braces on a line. -/
def braceDelta (line : Text) : Int := (line.count '{' : Int) - line.count '}'

def isCommentOrBlank (line : Text) : Bool :=
  match Text.trim line with
  | [] => true
  | '*' :: _ => true
  | '/' :: '/' :: _ => true
  | '/' :: '*' :: _ => true
  | _ => false

/-- One line inside a member. The depth never falls below zero, so a brace that closes before
the body opens is forgotten. -/
def bodyStep (s : ScanState) (line : Text) (number : Int) : ScanState × Option ScanEvent :=
  let depth := s.depth + braceDelta line
  let opened := s.opened || line.contains '{'
  match opened && decide (depth ≤ 0), s.pending with
  | true, some m =>
    ({ phase := .seekingMember }, some ⟨.memberEnd, number, some { m with endLine := number }⟩)
  | _, _ => ({ s with depth := max depth 0, opened }, none)

/-- A line on which the member `m` is declared. -/
def memberStep (s : ScanState) (m : Member) (line : Text) (number : Int) :
    ScanState × Option ScanEvent :=
  if line.contains '{' then
    if braceDelta line ≤ 0 then (s, some ⟨.memberEnd, number, some m⟩)
    else (⟨.inBody, braceDelta line, true, some m⟩, some ⟨.memberStart, number, some m⟩)
  else if Text.endsWith (Text.trimEnd line) [';'] then (s, some ⟨.memberEnd, number, some m⟩)
  else (⟨.inBody, 0, false, some m⟩, some ⟨.memberStart, number, some m⟩)

def step (s : ScanState) (line : Text) (number : Int) : ScanState × Option ScanEvent :=
  if isCommentOrBlank line then (s, some ⟨.skip, number, none⟩)
  else if s.phase = .inBody then bodyStep s line number
  else if declaresType (dropAnnotations line) then
    ({ s with phase := .seekingMember }, some ⟨.skip, number, none⟩)
  else if s.phase = .seekingUnit then (s, some ⟨.skip, number, none⟩)
  else
    match member? line number with
    | some m => memberStep s m line number
    | none => (s, if startsAnnotation line then some ⟨.skip, number, none⟩ else none)

/-- The states and events after each of the lines, the first of which has the given number. -/
def trace (s : ScanState) (number : Int) : List Text → List (ScanState × Option ScanEvent)
  | [] => []
  | l :: ls => step s l number :: trace (step s l number).1 (number + 1) ls

/-- The state after all the lines. -/
def run (s : ScanState) (number : Int) : List Text → ScanState
  | [] => s
  | l :: ls => run (step s l number).1 (number + 1) ls

/-- All events of a text, its first line being number 1. -/
def scan (source : Text) : List ScanEvent :=
  (trace .initial 1 (Text.lines source)).filterMap Prod.snd

/-- The member that an event completes. -/
def ScanEvent.completed? (e : ScanEvent) : Option Member :=
  if e.kind = .memberEnd then e.member else none

/-- The members of a text in the order in which they end. One that is still open when the text
ends is dropped. -/
def members (source : Text) : List Member := (scan source).filterMap ScanEvent.completed?

theorem run_append (s : ScanState) (n : Int) (as bs : List Text) :
    run s n (as ++ bs) = run (run s n as) (n + as.length) bs := by
  induction as generalizing s n with
  | nil => simp [run]
  | cons a as ih =>
    simp only [List.cons_append, run, ih, List.length_cons, Int.natCast_add]
    congr 1
    omega

theorem trace_append (s : ScanState) (n : Int) (as bs : List Text) :
    trace s n (as ++ bs) = trace s n as ++ trace (run s n as) (n + as.length) bs := by
  induction as generalizing s n with
  | nil => simp [run, trace]
  | cons a as ih =>
    simp only [List.cons_append, run, trace, ih, List.length_cons, Int.natCast_add]
    congr 2
    congr 1
    omega

end TestWeaver.Source
