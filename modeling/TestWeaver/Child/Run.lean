import TestWeaver.Child.Basic

/-!
Running a command as a child process.

A child that is waited for to its end is left alone. If waiting fails in any way, its whole group
is asked to end and then killed, whether or not the child itself is still there. Its pipes are
closed in every case. Whatever goes wrong while a group is ended is caught, so that a run is left
by what it met first.
-/

namespace TestWeaver.Child

open Build (Invocation Reply)

/-- What a step is left by: a wait that ran out, a signal that did not arrive, or a failure. -/
inductive Exit where
  | late
  | noGroup
  | notPermitted
  | failed (failure : Failure)
deriving DecidableEq, Repr

def Exit.failure? : Exit → Option Failure
  | failed e => some e
  | late | noGroup | notPermitted => none

/-- What has been done so far, and the exit code of the child once that is known. -/
structure Course where
  events : List Event := []
  exitCode : Option Int := none
deriving DecidableEq, Repr

namespace Course

def add (c : Course) (e : Event) : Course := { c with events := c.events ++ [e] }

def addAll (c : Course) (es : List Event) : Course := { c with events := c.events ++ es }

/-- Closes a pipe that is still open. -/
def close (c : Course) (p : Pipe) : Course := if .closed p ∈ c.events then c else c.add (.closed p)

def closeAll (c : Course) (ps : List Pipe) : Course := ps.foldl close c

def exited (c : Course) (code : Int) : Course := { c with exitCode := some code }

end Course

/-- A step of a run. What was done stays done when a step is left. -/
abbrev Step := ExceptT Exit (StateM Course)

namespace Step

variable {α β : Type}

def runOn (x : Step α) (c : Course) : Except Exit α × Course := StateT.run (ExceptT.run x) c

def record (e : Event) : Step Unit := modify fun c => c.add e

def closeAll (ps : List Pipe) : Step Unit := modify fun c => c.closeAll ps

/-- Does something else once a wait has run out. -/
def onLate (x handle : Step α) : Step α :=
  tryCatch x fun
    | .late => handle
    | e => throw e

end Step

open Step

/-! ### what is asked of a child -/

/-- Waits for the texts of a child, whose pipes are then at their end. -/
def communicate (b : Behaviour) : Step (Text × Text) :=
  match b.wait with
  | .ended output errors code => do
    closeAll pipes
    modify fun c => c.exited code
    return (output, errors)
  | .late => do
    closeAll b.shut
    throw .late
  | .broke e => do
    closeAll b.shut
    throw (.failed e)

/-- The exit code of a child that has ended. -/
def poll (b : Behaviour) : Step (Option Int) := return (← get).exitCode <|> b.gone

def await (b : Behaviour) : Step Unit := do
  record (.waited b.yields)
  if b.yields then return else throw .late

/-- Reads what is left in the pipes. -/
def drain (b : Behaviour) : Step Unit := do
  record (.drained b.drains)
  if b.drains then closeAll pipes else throw .late

def signalTo (group : Nat) (b : Behaviour) (s : Signal) : Step Unit := do
  record (.signalled group s (b.delivery s))
  match b.delivery s with
  | .sent => return
  | .noGroup => throw .noGroup
  | .notPermitted => throw .notPermitted

/-! ### ending a child -/

/-- Signals the group of a child. The group may be gone, or nobody in it takes signals. -/
def signalGroup (b : Behaviour) (s : Signal) : Step Unit :=
  tryCatch (signalTo b.id b s) fun
    | .noGroup | .notPermitted => return
    | e => throw e

/-- Ends a child and all that it has started. -/
def endGroup (b : Behaviour) : Step Unit := do
  signalGroup b .terminate
  onLate (await b) (record (ignored b))
  signalGroup b .kill
  onLate (drain b) (record (stillOpen b))

/-- Lets go of a child, which is ended first if it was abandoned or still runs. -/
def letGo (b : Behaviour) (abandoned : Bool) : Step Unit := do
  if abandoned || (← poll b).isNone then endGroup b
  closeAll pipes

/-- Works with a child and lets go of it however that ends. -/
def attend {α : Type} (b : Behaviour) (work : Step α) : Step α := do
  let (a, _) ← tryFinally' work fun done => letGo b done.isNone
  return a

/-! ### runs -/

def start (i : Invocation) : Start → Step Behaviour
  | .refused reason => throw (.failed (.launch
      ("Unable to start '".toList ++ i.command ++ "': ".toList ++ reason) i.argv none))
  | .failed e => throw (.failed e)
  | .started b => return b

def texts (i : Invocation) (b : Behaviour) : Step (Text × Text) :=
  onLate (communicate b) do
    record (exceeded i)
    throw (.failed (.timedOut i.timeout i.argv))

/-- Puts the texts together. A command that fails without a word counts as one that could not be
run. -/
def report (i : Invocation) (output errors : Text) : Step Text := do
  let code := (← get).exitCode
  if code ≠ some 0 ∧ output = [] ∧ errors = [] then
    throw (.failed (.launch (exitedText code) i.argv code))
  record (.logged .debug (exitedText code))
  return output ++ '\n' :: errors

def run (i : Invocation) (s : Start) : Step Text := do
  record (running i)
  let b ← start i s
  let (output, errors) ← attend b (texts i b)
  report i output errors

/-! ### closed pipes -/

namespace Course

theorem mem_close (c : Course) (p : Pipe) : .closed p ∈ (c.close p).events := by
  rw [close]
  split
  · assumption
  · simp [add]

theorem close_of_mem {c : Course} {p : Pipe} (h : .closed p ∈ c.events) : c.close p = c :=
  if_pos h

/-- Closing undoes nothing. -/
theorem mem_closeAll_of_mem {c : Course} {e : Event} (h : e ∈ c.events) (ps : List Pipe) :
    e ∈ (c.closeAll ps).events := by
  induction ps generalizing c with
  | nil => exact h
  | cons p ps ih =>
    refine ih ?_
    rw [close]
    split
    · exact h
    · simp [add, h]

theorem mem_closeAll {p : Pipe} {ps : List Pipe} (h : p ∈ ps) (c : Course) :
    .closed p ∈ (c.closeAll ps).events := by
  induction ps generalizing c with
  | nil => cases h
  | cons q ps ih =>
    rcases List.mem_cons.mp h with rfl | h
    · exact mem_closeAll_of_mem (mem_close c p) ps
    · exact ih h (c.close q)

/-- There is nothing left to close where all pipes are closed. -/
theorem closeAll_closeAll (c : Course) {ps qs : List Pipe} (h : ∀ q ∈ qs, q ∈ ps) :
    (c.closeAll ps).closeAll qs = c.closeAll ps := by
  induction qs with
  | nil => rfl
  | cons q qs ih =>
    have hq := close_of_mem (mem_closeAll (h q (by simp)) c)
    rw [closeAll, List.foldl_cons, hq]
    exact ih fun r hr => h r (by simp [hr])

end Course

/-! ### what steps come to -/

namespace Step

variable {α β : Type}

@[simp] theorem runOn_pure (a : α) (c : Course) : (pure a : Step α).runOn c = (.ok a, c) := rfl

@[simp] theorem runOn_throw (e : Exit) (c : Course) :
    (throw e : Step α).runOn c = (.error e, c) := rfl

@[simp] theorem runOn_record (e : Event) (c : Course) :
    (record e).runOn c = (.ok (), c.add e) := rfl

theorem runOn_bind (x : Step α) (f : α → Step β) (c : Course) :
    (x >>= f).runOn c =
      match x.runOn c with
      | (.ok a, d) => (f a).runOn d
      | (.error e, d) => (.error e, d) := by
  show StateT.run (ExceptT.run (x >>= f)) c = _
  rw [ExceptT.run_bind, StateT.run_bind]
  rcases h : StateT.run (ExceptT.run x) c with ⟨_ | a, d⟩ <;> simp only [runOn, h] <;> rfl

theorem runOn_tryCatch (x : Step α) (handle : Exit → Step α) (c : Course) :
    (tryCatch x handle).runOn c =
      match x.runOn c with
      | (.ok a, d) => (.ok a, d)
      | (.error e, d) => (handle e).runOn d := by
  show StateT.run (ExceptT.run (tryCatch x handle)) c = _
  rw [ExceptT.run_tryCatch, StateT.run_bind]
  rcases h : StateT.run (ExceptT.run x) c with ⟨_ | a, d⟩ <;> simp only [runOn, h] <;> rfl

theorem runOn_onLate (x handle : Step α) (c : Course) :
    (onLate x handle).runOn c =
      match x.runOn c with
      | (.error .late, d) => handle.runOn d
      | r => r := by
  rw [onLate, runOn_tryCatch]
  rcases x.runOn c with ⟨(_ | _ | _ | _) | a, d⟩ <;> rfl

/-- The last step is run however the first one ends, and what leaves it hides what left the
first. -/
theorem runOn_tryFinally (x : Step α) (last : Option α → Step β) (c : Course) :
    (tryFinally' x last).runOn c =
      match x.runOn c with
      | (.ok a, d) =>
        match (last (some a)).runOn d with
        | (.ok b, e) => (.ok (a, b), e)
        | (.error y, e) => (.error y, e)
      | (.error z, d) =>
        match (last none).runOn d with
        | (.ok _, e) => (.error z, e)
        | (.error y, e) => (.error y, e) := by
  rcases hx : x.runOn c with ⟨z | a, d⟩
  · have hx : x c = (.error z, d) := hx
    rcases hlast : (last none).runOn d with ⟨y | b, e⟩ <;>
    · have hlast : last none d = (_, e) := hlast
      simp only [runOn, tryFinally', ExceptT.run_mk, StateT.run_bind]
      simp only [StateT.run, ExceptT.run, hx, hlast]
      rfl
  · have hx : x c = (.ok a, d) := hx
    rcases hlast : (last (some a)).runOn d with ⟨y | b, e⟩ <;>
    · have hlast : last (some a) d = (_, e) := hlast
      simp only [runOn, tryFinally', ExceptT.run_mk, StateT.run_bind]
      simp only [StateT.run, ExceptT.run, hx, hlast]
      rfl

end Step

theorem runOn_signalGroup (b : Behaviour) (s : Signal) (c : Course) :
    (signalGroup b s).runOn c = (.ok (), c.add (.signalled b.id s (b.delivery s))) := by
  rw [signalGroup, runOn_tryCatch, signalTo, runOn_bind, runOn_record]
  cases b.delivery s <;> rfl

/-- What ending a group adds to a course, but for the pipes. -/
def ending (b : Behaviour) : List Event :=
  [.signalled b.id .terminate (b.delivery .terminate), .waited b.yields] ++
    (if b.yields then [] else [ignored b]) ++
    [.signalled b.id .kill (b.delivery .kill), .drained b.drains] ++
    (if b.drains then [] else [stillOpen b])

theorem runOn_await (b : Behaviour) (c : Course) :
    (onLate (await b) (record (ignored b))).runOn c =
      (.ok (), c.addAll (.waited b.yields :: if b.yields then [] else [ignored b])) := by
  rw [runOn_onLate, await, runOn_bind, runOn_record]
  cases b.yields with
  | true => rfl
  | false => simp [Course.add, Course.addAll]

theorem runOn_drain (b : Behaviour) (c : Course) :
    (onLate (drain b) (record (stillOpen b))).runOn c =
      (.ok (), (c.addAll (.drained b.drains :: if b.drains then [] else [stillOpen b])).closeAll
        (if b.drains then pipes else [])) := by
  rw [runOn_onLate, drain, runOn_bind, runOn_record]
  cases b.drains with
  | true => rfl
  | false => simp [Course.add, Course.addAll, Course.closeAll]

/-- Ending a group is never left halfway. -/
theorem runOn_endGroup (b : Behaviour) (c : Course) :
    (endGroup b).runOn c =
      (.ok (), (c.addAll (ending b)).closeAll (if b.drains then pipes else [])) := by
  rw [endGroup, runOn_bind, runOn_signalGroup]
  simp only [runOn_bind, runOn_await, runOn_signalGroup, runOn_drain]
  simp [Course.add, Course.addAll, ending]

theorem runOn_poll (b : Behaviour) (c : Course) :
    (poll b).runOn c = (.ok (c.exitCode <|> b.gone), c) := rfl

/-- Letting go is never left halfway, and leaves no pipe open. -/
theorem runOn_letGo (b : Behaviour) (abandoned : Bool) (c : Course) :
    (letGo b abandoned).runOn c =
      (.ok (), (if abandoned || (c.exitCode <|> b.gone).isNone then c.addAll (ending b)
        else c).closeAll pipes) := by
  simp only [letGo, runOn_bind, runOn_poll]
  split
  · rw [runOn_bind, runOn_endGroup]
    cases b.drains with
    | true => exact congrArg (Prod.mk _) (Course.closeAll_closeAll _ fun _ h => h)
    | false => rfl
  · rfl

theorem runOn_attend_ok {α : Type} (b : Behaviour) {work : Step α} {a : α} {c d : Course}
    {code : Int} (hwork : work.runOn c = (.ok a, d)) (hcode : d.exitCode = some code) :
    (attend b work).runOn c = (.ok a, d.closeAll pipes) := by
  rw [attend, runOn_bind, runOn_tryFinally, hwork]
  simp only [runOn_letGo, hcode]
  rfl

theorem runOn_attend_error {α : Type} (b : Behaviour) {work : Step α} {x : Exit} {c d : Course}
    (hwork : work.runOn c = (.error x, d)) :
    (attend b work).runOn c = (.error x, (d.addAll (ending b)).closeAll pipes) := by
  rw [attend, runOn_bind, runOn_tryFinally, hwork]
  simp only [runOn_letGo]
  rfl

/-! ### what runs come to -/

section

variable {i : Invocation} {b : Behaviour}

/-- A course on which only the start of a command is recorded. -/
def begun (i : Invocation) : Course := ({} : Course).add (running i)

theorem run_refused (reason : Text) :
    (run i (.refused reason)).runOn {} = (.error (.failed (.launch
      ("Unable to start '".toList ++ i.command ++ "': ".toList ++ reason) i.argv none)),
        begun i) := rfl

theorem run_failed (e : Failure) :
    (run i (.failed e)).runOn {} = (.error (.failed e), begun i) := rfl

/-- A run is left by whatever its work with the child is left by. -/
theorem run_error {x : Exit} {d : Course} (h : (texts i b).runOn (begun i) = (.error x, d)) :
    (run i (.started b)).runOn {} = (.error x, (d.addAll (ending b)).closeAll pipes) := by
  have hattend := runOn_attend_error b h
  simp only [begun] at hattend
  simp only [run, start, runOn_bind, runOn_record, runOn_pure, hattend]

theorem run_late (h : b.wait = .late) :
    (run i (.started b)).runOn {} = (.error (.failed (.timedOut i.timeout i.argv)),
      ((((begun i).closeAll b.shut).add (exceeded i)).addAll (ending b)).closeAll pipes) := by
  refine run_error ?_
  rw [texts, runOn_onLate, communicate, h]
  rfl

theorem run_broke {e : Failure} (h : b.wait = .broke e) :
    (run i (.started b)).runOn {} = (.error (.failed e),
      (((begun i).closeAll b.shut).addAll (ending b)).closeAll pipes) := by
  refine run_error ?_
  rw [texts, runOn_onLate, communicate, h]
  rfl

theorem runOn_report {c : Course} {code : Int} (hcode : c.exitCode = some code)
    (output errors : Text) :
    (report i output errors).runOn c =
      if code ≠ 0 ∧ output = [] ∧ errors = [] then
        (.error (.failed (.launch (exitedText (some code)) i.argv (some code))), c)
      else (.ok (output ++ '\n' :: errors), c.add (.logged .debug (exitedText (some code)))) := by
  have hget : (get : Step Course).runOn c = (.ok c, c) := rfl
  have hzero : some code ≠ some 0 ↔ code ≠ 0 := by simp
  simp only [report, runOn_bind, hget, hcode, hzero]
  split <;> rfl

/-- The course of a run whose child ends by itself. -/
def ended (i : Invocation) (code : Int) : Course := ((begun i).closeAll pipes).exited code

theorem run_ended {output errors : Text} {code : Int} (h : b.wait = .ended output errors code) :
    (run i (.started b)).runOn {} =
      if code ≠ 0 ∧ output = [] ∧ errors = [] then
        (.error (.failed (.launch (exitedText (some code)) i.argv (some code))), ended i code)
      else (.ok (output ++ '\n' :: errors),
        (ended i code).add (.logged .debug (exitedText (some code)))) := by
  have htexts : (texts i b).runOn (begun i) = (.ok (output, errors), ended i code) := by
    rw [texts, runOn_onLate, communicate, h]
    rfl
  have hattend : (attend b (texts i b)).runOn (begun i) = (.ok (output, errors), ended i code) :=
    runOn_attend_ok b htexts rfl
  rw [← runOn_report rfl]
  simp only [begun] at hattend
  simp only [run, start, runOn_bind, runOn_record, runOn_pure, hattend]

end

/-- Only failures leave a run: what a wait or a signal comes to is dealt with inside. -/
theorem run_cases (i : Invocation) (s : Start) :
    (∃ text c, (run i s).runOn {} = (.ok text, c)) ∨
      ∃ e c, (run i s).runOn {} = (.error (.failed e), c) := by
  cases s with
  | refused reason => exact .inr ⟨_, _, run_refused reason⟩
  | failed e => exact .inr ⟨_, _, run_failed e⟩
  | started b =>
    cases h : b.wait with
    | late => exact .inr ⟨_, _, run_late h⟩
    | broke e => exact .inr ⟨_, _, run_broke h⟩
    | ended output errors code =>
      rw [run_ended h]
      split
      · exact .inr ⟨_, _, rfl⟩
      · exact .inl ⟨_, _, rfl⟩

theorem run_left {i : Invocation} {s : Start} {x : Exit} {c : Course}
    (h : (run i s).runOn {} = (.error x, c)) : x.failure?.isSome = true := by
  rcases run_cases i s with ⟨text, d, hrun⟩ | ⟨e, d, hrun⟩
  · rw [hrun] at h
    cases h
  · rw [hrun] at h
    cases h
    rfl

/-- The reply to a command, and all that was done on the way to it. -/
def reply (i : Invocation) (s : Start) : List Event × Reply :=
  match h : (run i s).runOn {} with
  | (.ok text, c) => (c.events, .ok text)
  | (.error x, c) => (c.events, .error (x.failure?.get (run_left h)))

theorem reply_of_ok {i : Invocation} {s : Start} {text : Text} {c : Course}
    (h : (run i s).runOn {} = (.ok text, c)) : reply i s = (c.events, .ok text) := by
  unfold reply
  split
  · next hrun =>
    obtain ⟨hres, rfl⟩ := Prod.mk.inj (hrun.symm.trans h)
    rw [Except.ok.inj hres]
  · next hrun => cases (Prod.mk.inj (hrun.symm.trans h)).1

theorem reply_of_error {i : Invocation} {s : Start} {e : Failure} {c : Course}
    (h : (run i s).runOn {} = (.error (.failed e), c)) : reply i s = (c.events, .error e) := by
  unfold reply
  split
  · next hrun => cases (Prod.mk.inj (hrun.symm.trans h)).1
  · next hrun =>
    obtain ⟨hres, rfl⟩ := Prod.mk.inj (hrun.symm.trans h)
    obtain rfl := Except.error.inj hres
    rfl

theorem reply_ended {i : Invocation} {b : Behaviour} {output errors : Text} {code : Int}
    (h : b.wait = .ended output errors code) :
    (reply i (.started b)).2 =
      if code ≠ 0 ∧ output = [] ∧ errors = [] then
        .error (.launch (exitedText (some code)) i.argv (some code))
      else .ok (output ++ '\n' :: errors) := by
  have hrun := run_ended (i := i) h
  split at hrun
  · next hcode => rw [reply_of_error hrun, if_pos hcode]
  · next hcode => rw [reply_of_ok hrun, if_neg hcode]

end TestWeaver.Child
