import Mathlib.Control.Monad.Basic
import Mathlib.Data.Nat.Notation
import TestWeaver.Proofs.CommandStops

/-!
How command lines end.

A command answers with 0, or with 1 right behind a message on the errors. What stops it is turned
into the latter if it is a missing file or one of the failures that the library foresees. All others
leave the program, a directory in the place of a source for instance. So does every failure to open
a log file that the command line names, even one that a command would report: reporting starts
behind that.
-/

namespace TestWeaver.Proofs.ExitCodes

open ActionRuns CommandLine CommandStops
open Session (Launcher)
open SettingsRead (unable)

variable {α : Type} {c : Command} {e : Failure} {load : Config.Loader} {launch : Launcher}

/-! ### Answers and messages -/

/-- A message with which a command ends. -/
inductive Message : Command → Text → Prop
  | noType (file : Text) :
      Message (.scan file) ("No class declaration found in ".toList ++ file ++ ['\n'])
  | testsFailed (root : Text) (target : Option (Option Text)) :
      Message (.test root target) "Some tests failed. Check the results above.\n".toList
  | reported {c : Command} {e : Failure} {m : Text} (h : report? c e = some m) : Message c m

/-- The answer is 0, or 1 and a message was written last. -/
def Coded (c : Command) (code : ℕ) (said : Text) : Prop :=
  code = 0 ∨ code = 1 ∧ ∃ above m, said = above ++ m ∧ Message c m

lemma Coded.behind {code : ℕ} {said m : Text} (h : Coded c code m) : Coded c code (said ++ m) := by
  rcases h with h | ⟨hcode, above, m, rfl, hm⟩
  · exact .inl h
  · exact .inr ⟨hcode, said ++ above, m, by rw [List.append_assoc], hm⟩

/-- Whatever an action answers, it counts as an end of the command. -/
abbrev Ends (c : Command) (x : Act ℕ) : Prop := Says (Coded c) x

lemma ends_bind {x : Act α} {f : α → Act ℕ} (hx : Adds x) (hf : ∀ a, Ends c (f a)) :
    Ends c (x >>= f) :=
  says_bind Coded.behind hx hf

lemma ends_zero {x : Act α} (hx : Adds x) : Ends c (x >>= fun _ => pure 0) :=
  ends_bind hx fun _ => says_pure (.inl rfl)

/-- A message and the answer 1. -/
lemma ends_one {m : Text} (h : Message c m) : Ends c (Act.complain m >>= fun _ => pure 1) := by
  intro s
  rw [runOn_bind_ok (runOn_complain m s)]
  refine ⟨m, rfl, fun code hcode => ?_⟩
  obtain rfl := Except.ok.inj hcode
  exact .inr ⟨rfl, [], m, rfl, h⟩

/-! ### Commands -/

lemma adds_pathOf (path : Option Text) : Adds (pathOf path) := by
  cases path with
  | none => exact says_throw _
  | some s => exact adds_pure _

lemma adds_readConfig (a : Arguments) (root : Path) : Adds (readConfig load a root) := by
  refine adds_bind (adds_look _) fun config => ?_
  dsimp only
  split
  · exact adds_bind (adds_configureLog _ _) fun _ => adds_pure _
  · exact adds_pure _

lemma scan_ends (file : Text) : Ends (.scan file) (scan file) := by
  refine ends_bind (adds_look _) fun s => ?_
  split
  · exact ends_one (.noType file)
  · exact ends_zero (adds_print _)

lemma resolve_ends (a : Arguments) (file : Text) (root override : Option Text) :
    Ends c (resolve load a file root override) := by
  refine ends_bind (adds_pathOf root) fun r => ends_bind (adds_readConfig a r) fun config => ?_
  exact ends_bind (adds_look _) fun p => ends_bind (adds_look _) fun text =>
    ends_zero (adds_print text)

lemma adds_logMerge (existing fragment : Text) : Adds (logMerge existing fragment) := by
  unfold logMerge
  split
  · exact adds_log _ _ _
  · exact adds_pure _

lemma adds_backup (p : Path) (m : Moment) : Adds (Storage.backup p m) := by
  refine adds_bind adds_get fun s => adds_bind (adds_ofFiles _) fun there => ?_
  split
  · exact adds_pure _
  · have hcopy : ∀ copy : Path, Adds (do
        let octets ← Act.ofFiles ((← get).tree.readOctets p)
        Act.change fun t => t.writeOctets copy octets
        Act.log .debug "workspace"
          ("Backed up ".toList ++ p.toText ++ " to ".toList ++ copy.toText)
        return some copy) := fun copy =>
      adds_bind adds_get fun s => adds_bind (adds_ofFiles _) fun octets =>
        adds_bind (adds_change _) fun _ => adds_bind (adds_log _ _ _) fun _ => adds_pure _
    dsimp only
    split
    · exact adds_bind (adds_pure _) hcopy
    · exact adds_bind (says_throw _) hcopy

/-- A check in front of the other steps adds nothing to what they say. -/
lemma adds_check {b : Bool} {e : Failure} {x : Act α} (hx : Adds x) :
    Adds (if b then throw e >>= fun _ : PUnit => x else x) := by
  split
  · exact adds_bind (says_throw _) fun _ => hx
  · exact hx

lemma adds_save (p : Path) (content : Text) : Adds (Storage.save p content) := by
  refine adds_bind adds_get fun s => adds_bind (adds_ofFiles _) fun existed => ?_
  refine adds_bind adds_get fun s => adds_bind (adds_ofFiles _) fun there => ?_
  refine adds_check (adds_bind (adds_change _) fun _ => adds_bind (adds_change _) fun _ => ?_)
  exact adds_bind (adds_log _ _ _) fun _ => adds_pure _

lemma merge_ends (existing : Text) (fragment : Option Text) (write backup : Bool) :
    Ends c (merge existing fragment write backup) := by
  refine ends_bind (adds_look _) fun old => ends_bind (adds_pathOf fragment) fun path => ?_
  refine ends_bind (adds_look _) fun new => ends_bind (adds_logMerge old new) fun _ => ?_
  dsimp only
  cases write with
  | false => exact ends_zero (adds_print _)
  | true =>
    have hsave : Ends c (do
        let _ ← Storage.save (Path.ofText existing) (Merge.mergeGenerated old new)
        Act.print ("Merged tests written to ".toList ++ (← showPath (Path.ofText existing)))
        return 0) :=
      ends_bind (adds_save _ _) fun _ => ends_bind (adds_look _) fun text =>
        ends_zero (adds_print _)
    cases backup with
    | false => exact hsave
    | true =>
      refine ends_bind adds_get fun s => ends_bind (adds_backup _ _) fun copy => ?_
      split
      · exact hsave
      · exact ends_bind (adds_look _) fun text => ends_bind (adds_print _) fun _ => hsave

lemma adds_logUnfound (found : List (Text × Path)) (targets : List Text) :
    Adds (logUnfound found targets) := by
  induction targets with
  | nil => exact adds_pure _
  | cons t ts ih =>
    unfold logUnfound
    dsimp only
    split
    · exact adds_bind (adds_log _ _ _) fun _ => ih
    · exact ih

lemma adds_printFound (found : List (Text × Path)) : Adds (printFound found) := by
  induction found with
  | nil => exact adds_pure _
  | cons f fs ih =>
    exact adds_bind (adds_look _) fun text => adds_bind (adds_print _) fun _ => ih

lemma deps_ends (a : Arguments) (file : Text) (root : Option Text) :
    Ends c (deps load a file root) := by
  refine ends_bind (adds_pathOf root) fun r => ends_bind (adds_readConfig a r) fun config => ?_
  refine ends_bind (adds_look _) fun s => ends_bind adds_get fun session => ?_
  refine ends_bind (adds_ofFiles _) fun found => ends_bind (adds_logUnfound _ _) fun _ => ?_
  exact ends_zero (adds_printFound _)

lemma adds_logChild (events : List Child.Event) : Adds (Session.logChild events) := by
  induction events with
  | nil => exact adds_pure _
  | cons event events ih =>
    unfold Session.logChild
    cases event with
    | logged level message => exact adds_bind (adds_log _ _ _) fun _ => ih
    | signalled | waited | drained | closed => exact ih

lemma adds_runTests (root : Path) (settings : Build.Settings) (target : Option Text) :
    Adds (Session.runTests launch root settings target) := by
  refine adds_bind (adds_look _) fun plan => adds_bind (adds_log _ _ _) fun _ => ?_
  refine adds_bind adds_get fun s => adds_bind (adds_modify fun _ => rfl) fun _ => ?_
  refine adds_bind (adds_logChild _) fun _ => adds_bind (adds_ofExcept _) fun output => ?_
  exact adds_bind (adds_log _ _ _) fun _ => adds_bind (adds_log _ _ _) fun _ => adds_pure _

lemma test_ends (a : Arguments) (root : Text) (target : Option (Option Text)) :
    Ends (.test root target) (test load launch a root target) := by
  refine ends_bind (adds_readConfig a _) fun config => ?_
  have hname : Adds (nameOf target) := by
    rcases target with _ | _ | name
    · exact adds_pure _
    · exact says_throw _
    · exact adds_pure _
  refine ends_bind hname fun name => ends_bind (adds_runTests _ _ _) fun result => ?_
  refine ends_bind (adds_print _) fun _ => ?_
  split
  · exact ends_zero (adds_print _)
  · exact ends_one (.testsFailed root target)

/-- Every answer of a command is a code. -/
lemma command_ends (load : Config.Loader) (launch : Launcher) (a : Arguments) :
    Ends a.command (runCommand load launch a) := by
  unfold runCommand
  cases a.command with
  | scan file => exact scan_ends file
  | resolve file root override => exact resolve_ends a file root override
  | merge existing fragment write backup => exact merge_ends existing fragment write backup
  | deps file root => exact deps_ends a file root
  | test root target => exact test_ends a root target

/-! ### Command lines -/

section Lines

variable {a : Arguments} {s : Session}

lemma reporting_ends {x : Act ℕ} (h : Ends c x) : Ends c (tryCatch x (reporting c)) := by
  intro s
  obtain ⟨said, hsaid, hends⟩ := h s
  rw [runOn_tryCatch]
  rcases hrun : x.runOn s with ⟨e | code, t⟩ <;> rw [hrun] at hsaid hends
  · dsimp only
    rw [reporting]
    cases hm : report? c e with
    | none => exact ⟨said, hsaid, nofun⟩
    | some m =>
      refine ⟨said ++ m, ?_, fun code hcode => ?_⟩
      · rw [runOn_bind_ok (runOn_complain m t), ← List.append_assoc, ← hsaid]
        rfl
      · rw [runOn_bind_ok (runOn_complain m t)] at hcode
        obtain rfl := Except.ok.inj hcode
        exact .inr ⟨rfl, said, m, rfl, .reported hm⟩
  · exact ⟨said, hsaid, hends⟩

lemma runArguments_ends (load : Config.Loader) (launch : Launcher) (a : Arguments) :
    Ends a.command (runArguments load launch a) :=
  ends_bind (adds_configureLog _ _) fun _ => reporting_ends (command_ends load launch a)

/-- What is reported does not leave. -/
lemma fails_reporting {x : Act ℕ} :
    Fails (tryCatch x (reporting c)) s e ↔ Fails x s e ∧ report? c e = none := by
  unfold Fails
  rw [runOn_tryCatch]
  rcases x.runOn s with ⟨f | code, t⟩
  · dsimp only
    rw [reporting]
    cases hm : report? c f with
    | none =>
      rw [Except.error.injEq, runOn_throw, Except.error.injEq, iff_self_and]
      rintro rfl
      exact hm
    | some m =>
      refine iff_of_false nofun ?_
      rintro ⟨hf, hnone⟩
      obtain rfl := Except.error.inj hf
      rw [hm] at hnone
      cases hnone
  · exact iff_of_false nofun fun h => nomatch h.1

/-- Opening the log that a command line names. -/
abbrev openLog (a : Arguments) : Act Unit := Act.configureLog a.verbose (logFileOf a)

/-- What leaves the program: the log that the command line names is not opened, or what stops the
command behind that is neither a missing file nor foreseen. -/
inductive Leaves (load : Config.Loader) (launch : Launcher) (a : Arguments) (s : Session) :
    Failure → Prop
  | log {p : Path} {e : Failure} (hp : logFileOf a = some p) (h : Unlogged s.tree p e) :
      Leaves load launch a s e
  | command {t : Session} {e : Failure} (hlog : (openLog a).runOn s = (.ok ⟨⟩, t))
      (h : Stops load launch a t e) (hthere : e.isMissingFile = false)
      (hforeseen : e.isExpected = false) : Leaves load launch a s e

lemma report?_eq_none : report? c e = none ↔ e.isMissingFile = false ∧ e.isExpected = false := by
  unfold report?
  cases e.isMissingFile <;> cases e.isExpected <;> simp

lemma fails_runArguments : Fails (runArguments load launch a) s e ↔ Leaves load launch a s e := by
  rw [runArguments, fails_bind, fails_configureLog]
  simp only [fails_reporting, fails_runCommand, report?_eq_none]
  constructor
  · rintro (⟨p, hp, h⟩ | ⟨⟨⟩, t, hlog, h, hthere, hforeseen⟩)
    · exact .log hp h
    · exact .command hlog h hthere hforeseen
  · rintro (⟨hp, h⟩ | ⟨hlog, h, hthere, hforeseen⟩)
    · exact .inl ⟨_, hp, h⟩
    · exact .inr ⟨_, _, hlog, h, hthere, hforeseen⟩

/-- A run answers with a code, and with 1 only behind a message. -/
def Reported (c : Command) (s : Session) (r : Except Failure ℕ × Session) : Prop :=
  ∃ code said, r.1 = .ok code ∧ r.2.errors = s.errors ++ said ∧ Coded c code said

end Lines

end TestWeaver.Proofs.ExitCodes
