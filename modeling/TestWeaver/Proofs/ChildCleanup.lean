import Mathlib.Tactic.Lemma
import TestWeaver.Child.Run

/-!
No child outlives a run that failed.

However waiting for a child fails, and whatever its group makes of being ended, the group is sent
both signals, the pipes are closed, and the run is left by what it failed of. A child that ends by
itself is sent none.
-/

namespace TestWeaver.Proofs.ChildCleanup

open Build Child

variable {b : Behaviour} {c : Course} {i : Invocation}

/-- The group and the signal, where an event sends one. -/
def signal? : Event → Option (Nat × Signal)
  | .signalled group s _ => some (group, s)
  | _ => none

/-- The signals that were sent, with the groups they were sent to, in order. -/
def signals (events : List Event) : List (Nat × Signal) := events.filterMap signal?

/-! ### Signals -/

lemma signals_append (es fs : List Event) : signals (es ++ fs) = signals es ++ signals fs :=
  List.filterMap_append

lemma signals_add_logged (c : Course) (level : Log.Level) (message : Text) :
    signals (c.add (.logged level message)).events = signals c.events := by
  simp [Course.add, signals, signal?]

lemma signals_close (c : Course) (p : Pipe) :
    signals (c.close p).events = signals c.events := by
  rw [Course.close]
  split
  · rfl
  · simp [Course.add, signals, signal?]

lemma signals_closeAll (c : Course) (ps : List Pipe) :
    signals (c.closeAll ps).events = signals c.events := by
  induction ps generalizing c with
  | nil => rfl
  | cons p ps ih => exact (ih (c.close p)).trans (signals_close c p)

lemma signals_begun (i : Invocation) : signals (begun i).events = [] := rfl

/-- Ending a group sends both signals, whatever comes of either. -/
lemma signals_ending (b : Behaviour) :
    signals (ending b) = [(b.id, .terminate), (b.id, .kill)] := by
  obtain ⟨id, wait, shut, gone, delivery, yields, drains⟩ := b
  cases yields <;> cases drains <;> rfl

lemma signals_addAll_ending (c : Course) (b : Behaviour) :
    signals (c.addAll (ending b)).events =
      signals c.events ++ [(b.id, .terminate), (b.id, .kill)] := by
  rw [Course.addAll, signals_append, signals_ending]

/-! ### Runs -/

lemma mem_pipes (p : Pipe) : p ∈ pipes := by cases p <;> decide

/-- What is known of the events of a run behind which no child is left. -/
structure Settled (events : List Event) (sent : List (Nat × Signal)) : Prop where
  signals : signals events = sent
  closed : ∀ p : Pipe, .closed p ∈ events

lemma settled_closeAll {sent : List (Nat × Signal)} (h : signals c.events = sent) :
    Settled (c.closeAll pipes).events sent where
  signals := (signals_closeAll c pipes).trans h
  closed p := Course.mem_closeAll (mem_pipes p) c

/-- What was done before the group is ended has sent nothing. -/
lemma settled_ending (b : Behaviour) (h : signals c.events = []) :
    Settled ((c.addAll (ending b)).closeAll pipes).events [(b.id, .terminate), (b.id, .kill)] :=
  settled_closeAll (by rw [signals_addAll_ending, h, List.nil_append])

lemma settled_late (h : b.wait = .late) :
    Settled (reply i (.started b)).1 [(b.id, .terminate), (b.id, .kill)] := by
  rw [reply_of_error (run_late h)]
  refine settled_ending b ?_
  rw [exceeded, signals_add_logged, signals_closeAll, signals_begun]

lemma settled_broke {e : Failure} (h : b.wait = .broke e) :
    Settled (reply i (.started b)).1 [(b.id, .terminate), (b.id, .kill)] := by
  rw [reply_of_error (run_broke h)]
  refine settled_ending b ?_
  rw [signals_closeAll, signals_begun]

lemma settled_ended {output errors : Text} {code : Int} (h : b.wait = .ended output errors code) :
    Settled (reply i (.started b)).1 [] := by
  have hended : Settled (ended i code).events [] := settled_closeAll (signals_begun i)
  have hrun := run_ended (i := i) h
  split at hrun
  · rw [reply_of_error hrun]
    exact hended
  · rw [reply_of_ok hrun]
    exact ⟨(signals_add_logged ..).trans hended.signals,
      fun p => List.mem_append_left _ (hended.closed p)⟩

/-- **No child outlives a run that failed**, whatever the child does and its group makes of being
ended: it is sent both signals, in order, its pipes are closed, and the run fails of what waiting
failed of. A child that ends is sent no signal, and its texts are the reply, unless it failed
without a word. -/
theorem reply_started (i : Invocation) (b : Behaviour) :
    match b.wait with
    | .late =>
      Settled (reply i (.started b)).1 [(b.id, .terminate), (b.id, .kill)] ∧
        (reply i (.started b)).2 = .error (.timedOut i.timeout i.argv)
    | .broke e =>
      Settled (reply i (.started b)).1 [(b.id, .terminate), (b.id, .kill)] ∧
        (reply i (.started b)).2 = .error e
    | .ended output errors code =>
      Settled (reply i (.started b)).1 [] ∧
        (reply i (.started b)).2 =
          if code ≠ 0 ∧ output = [] ∧ errors = [] then
            .error (.launch (exitedText (some code)) i.argv (some code))
          else .ok (output ++ '\n' :: errors) := by
  split
  · next h => exact ⟨settled_late h, by rw [reply_of_error (run_late h)]⟩
  · next h => exact ⟨settled_broke h, by rw [reply_of_error (run_broke h)]⟩
  · next h => exact ⟨settled_ended h, reply_ended h⟩

end TestWeaver.Proofs.ChildCleanup
