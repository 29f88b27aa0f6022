import Mathlib.Tactic.Lemma
import TestWeaver.Session.Storage
import TestWeaver.Session.TestRun

/-!
Actions run step by step: what each basic action makes of a session, what is known of a run of
several from its answer or from its failure, and what an action writes to the errors.
-/

namespace TestWeaver.Proofs.ActionRuns

variable {α β : Type} {s t u : Session} {e : Failure}

/-! ### Basic actions -/

@[simp] lemma runOn_pure (a : α) (s : Session) : (pure a : Act α).runOn s = (.ok a, s) := rfl

@[simp] lemma runOn_throw (e : Failure) (s : Session) :
    (throw e : Act α).runOn s = (.error e, s) := rfl

@[simp] lemma runOn_get (s : Session) : (get : Act Session).runOn s = (.ok s, s) := rfl

@[simp] lemma runOn_modify (f : Session → Session) (s : Session) :
    (modify f : Act PUnit).runOn s = (.ok ⟨⟩, f s) := rfl

@[simp] lemma runOn_ofExcept (x : Except Failure α) (s : Session) :
    (Act.ofExcept x).runOn s = (x, s) := by
  cases x <;> rfl

/-! ### One action after another -/

lemma runOn_bind (x : Act α) (f : α → Act β) (s : Session) :
    (x >>= f).runOn s =
      match x.runOn s with
      | (.ok a, t) => (f a).runOn t
      | (.error e, t) => (.error e, t) := by
  show StateT.run (ExceptT.run (x >>= f)) s = _
  rw [ExceptT.run_bind, StateT.run_bind]
  rcases h : StateT.run (ExceptT.run x) s with ⟨_ | a, t⟩ <;> simp only [Act.runOn, h] <;> rfl

lemma runOn_bind_ok {x : Act α} {a : α} (h : x.runOn s = (.ok a, t)) (f : α → Act β) :
    (x >>= f).runOn s = (f a).runOn t := by
  rw [runOn_bind, h]

lemma runOn_bind_error {x : Act α} (h : x.runOn s = (.error e, t)) (f : α → Act β) :
    (x >>= f).runOn s = (.error e, t) := by
  rw [runOn_bind, h]

/-- A run of two actions that ends well is one of each. -/
lemma bind_ok_iff {x : Act α} {f : α → Act β} {b : β} :
    (x >>= f).runOn s = (.ok b, u) ↔
      ∃ a t, x.runOn s = (.ok a, t) ∧ (f a).runOn t = (.ok b, u) := by
  constructor
  · intro h
    rcases hx : x.runOn s with ⟨_ | a, t⟩
    · rw [runOn_bind_error hx] at h
      cases h
    · exact ⟨a, t, rfl, by rwa [runOn_bind_ok hx] at h⟩
  · rintro ⟨a, t, hx, hf⟩
    rwa [runOn_bind_ok hx]

lemma runOn_get_bind (f : Session → Act β) (s : Session) :
    (get >>= f).runOn s = (f s).runOn s :=
  runOn_bind_ok (runOn_get s) f

lemma ofFiles_bind_ok_iff {x : FileTree.Outcome α} {f : α → Act β} {b : β} :
    (Act.ofFiles x >>= f).runOn s = (.ok b, u) ↔ ∃ a, x = .ok a ∧ (f a).runOn s = (.ok b, u) := by
  cases x with
  | ok a =>
    have hrun : (Act.ofFiles (.ok a) >>= f).runOn s = (f a).runOn s :=
      runOn_bind_ok (runOn_pure a s) f
    simp [hrun]
  | error e =>
    have hrun : (Act.ofFiles (.error e) >>= f).runOn s = (.error (.files e), s) :=
      runOn_bind_error (runOn_throw _ s) f
    simp [hrun]

lemma runOn_tryCatch (x : Act α) (handle : Failure → Act α) (s : Session) :
    (tryCatch x handle).runOn s =
      match x.runOn s with
      | (.ok a, t) => (.ok a, t)
      | (.error e, t) => (handle e).runOn t := by
  show StateT.run (ExceptT.run (tryCatch x handle)) s = _
  rw [ExceptT.run_tryCatch, StateT.run_bind]
  rcases h : StateT.run (ExceptT.run x) s with ⟨_ | a, t⟩ <;> simp only [Act.runOn, h] <;> rfl

/-! ### Files and texts -/

@[simp] lemma runOn_look (f : FileTree → Except Failure α) (s : Session) :
    (Act.look f).runOn s = (f s.tree, s) := by
  rw [Act.look, runOn_get_bind, runOn_ofExcept]

lemma look_bind_ok_iff {f : FileTree → Except Failure α} {g : α → Act β} {b : β} :
    (Act.look f >>= g).runOn s = (.ok b, u) ↔
      ∃ a, f s.tree = .ok a ∧ (g a).runOn s = (.ok b, u) := by
  rw [runOn_bind, runOn_look]
  cases f s.tree <;> simp

lemma change_bind_ok_iff {f : FileTree → FileTree.Outcome FileTree} {g : Unit → Act β} {b : β} :
    (Act.change f >>= g).runOn s = (.ok b, u) ↔
      ∃ t, f s.tree = .ok t ∧ (g ⟨⟩).runOn { s with tree := t } = (.ok b, u) := by
  rw [Act.change, bind_assoc, runOn_get_bind, bind_assoc, ofFiles_bind_ok_iff]
  simp only [runOn_bind, runOn_modify]

/-- The session with a line in its output. -/
def printed (s : Session) (line : Text) : Session :=
  { s with output := s.output ++ line ++ ['\n'] }

lemma runOn_print (line : Text) (s : Session) :
    (Act.print line).runOn s =
      match s.unwritten line with
      | some m => (.error (.unencodable m), s)
      | none => (.ok ⟨⟩, printed s line) := by
  rw [Act.print, runOn_get_bind]
  cases s.unwritten line <;> rfl

lemma print_bind_ok_iff {line : Text} {g : Unit → Act β} {b : β} :
    (Act.print line >>= g).runOn s = (.ok b, u) ↔
      s.unwritten line = none ∧ (g ⟨⟩).runOn (printed s line) = (.ok b, u) := by
  rw [runOn_bind, runOn_print]
  cases s.unwritten line <;> simp

@[simp] lemma runOn_complain (text : Text) (s : Session) :
    (Act.complain text).runOn s = (.ok ⟨⟩, { s with errors := s.errors ++ text }) := rfl

@[simp] lemma runOn_log (level : Log.Level) (logger : String) (message : Text) (s : Session) :
    (Act.log level logger message).runOn s =
      (.ok ⟨⟩, s.log ⟨level, Log.loggerName (some logger.toList), message⟩) := rfl

/-! ### Failures -/

/-- An action ends with a failure. -/
def Fails (x : Act α) (s : Session) (e : Failure) : Prop := (x.runOn s).1 = .error e

lemma fails_pure {a : α} : ¬ Fails (pure a) s e := nofun

lemma fails_throw {e' : Failure} : Fails (throw e' : Act α) s e ↔ e' = e := by simp [Fails]

/-- Two actions fail where the first one does, or the second one behind it. -/
lemma fails_bind {x : Act α} {f : α → Act β} :
    Fails (x >>= f) s e ↔ Fails x s e ∨ ∃ a t, x.runOn s = (.ok a, t) ∧ Fails (f a) t e := by
  unfold Fails
  rcases hx : x.runOn s with ⟨e' | a, t⟩
  · rw [runOn_bind_error hx]
    simp
  · rw [runOn_bind_ok hx]
    simp [and_assoc]

lemma fails_pure_bind {a : α} {f : α → Act β} : Fails (pure a >>= f) s e ↔ Fails (f a) s e := by
  rw [pure_bind]

lemma fails_throw_bind {e' : Failure} {f : α → Act β} :
    Fails ((throw e' : Act α) >>= f) s e ↔ e' = e := by
  rw [Fails, runOn_bind_error (runOn_throw e' s), Except.error.injEq]

/-- An answer behind an action does not fail. -/
lemma fails_bind_pure {x : Act α} {f : α → β} :
    Fails (x >>= fun a => pure (f a)) s e ↔ Fails x s e := by
  rw [fails_bind, or_iff_left]
  rintro ⟨a, t, -, h⟩
  exact fails_pure h

lemma fails_get_bind {f : Session → Act β} : Fails (get >>= f) s e ↔ Fails (f s) s e := by
  rw [Fails, runOn_get_bind]
  rfl

lemma fails_modify {f : Session → Session} : ¬ Fails (modify f : Act PUnit) s e := nofun

lemma fails_modify_bind {f : Session → Session} {g : PUnit → Act β} :
    Fails (modify f >>= g) s e ↔ Fails (g ⟨⟩) (f s) e := by
  rw [Fails, runOn_bind_ok (runOn_modify f s)]
  rfl

lemma fails_ofExcept {x : Except Failure α} : Fails (Act.ofExcept x) s e ↔ x = .error e := by
  rw [Fails, runOn_ofExcept]

lemma fails_ofFiles_bind {x : FileTree.Outcome α} {f : α → Act β} :
    Fails (Act.ofFiles x >>= f) s e ↔
      (∃ c, x = .error c ∧ .files c = e) ∨ ∃ a, x = .ok a ∧ Fails (f a) s e := by
  rw [fails_bind]
  cases x with
  | ok a => simp [Act.ofFiles, fails_pure, and_assoc]
  | error c => simp [Act.ofFiles, fails_throw]

lemma fails_look_bind {f : FileTree → Except Failure α} {g : α → Act β} :
    Fails (Act.look f >>= g) s e ↔
      f s.tree = .error e ∨ ∃ a, f s.tree = .ok a ∧ Fails (g a) s e := by
  rw [fails_bind, Fails, runOn_look]
  simp [and_assoc]

lemma fails_change_bind {f : FileTree → FileTree.Outcome FileTree} {g : Unit → Act β} :
    Fails (Act.change f >>= g) s e ↔ (∃ c, f s.tree = .error c ∧ .files c = e) ∨
      ∃ t, f s.tree = .ok t ∧ Fails (g ⟨⟩) { s with tree := t } e := by
  rw [Act.change, bind_assoc, fails_get_bind, bind_assoc, fails_ofFiles_bind]
  rfl

lemma fails_log_bind {level : Log.Level} {logger : String} {message : Text} {g : Unit → Act β} :
    Fails (Act.log level logger message >>= g) s e ↔
      Fails (g ⟨⟩) (s.log ⟨level, Log.loggerName (some logger.toList), message⟩) e := by
  rw [Fails, runOn_bind_ok (runOn_log _ _ _ _)]
  rfl

lemma fails_complain_bind {text : Text} {g : Unit → Act β} :
    Fails (Act.complain text >>= g) s e ↔ Fails (g ⟨⟩) { s with errors := s.errors ++ text } e :=
  fails_modify_bind

/-- A line is not written to the output. -/
def Unprinted (s : Session) (line : Text) (e : Failure) : Prop :=
  ∃ m, s.unwritten line = some m ∧ e = .unencodable m

lemma fails_print_bind {line : Text} {g : Unit → Act β} :
    Fails (Act.print line >>= g) s e ↔
      Unprinted s line e ∨ s.unwritten line = none ∧ Fails (g ⟨⟩) (printed s line) e := by
  rw [Fails, runOn_bind, runOn_print, Unprinted]
  cases s.unwritten line <;> simp [Fails, eq_comm]

/-! ### What is said -/

/-- In every session, what an action writes to the errors stands behind what is there, and if it
answers, `writes` holds of its answer and of that. -/
def Says (writes : α → Text → Prop) (x : Act α) : Prop :=
  ∀ s, ∃ said, (x.runOn s).2.errors = s.errors ++ said ∧
    ∀ a, (x.runOn s).1 = .ok a → writes a said

/-- As `Says`, whatever is said. -/
abbrev Adds (x : Act α) : Prop := Says (fun _ _ => True) x

section Says

variable {writes : α → Text → Prop}

lemma says_pure {a : α} (h : writes a []) : Says writes (pure a) := by
  refine fun s => ⟨[], by simp, fun b hb => ?_⟩
  obtain rfl := Except.ok.inj hb
  exact h

lemma says_throw (e : Failure) : Says writes (throw e) := fun s => ⟨[], by simp, nofun⟩

/-- What is said behind something else must count as much as on its own. -/
lemma says_bind {x : Act β} {f : β → Act α}
    (hwrites : ∀ {a said m}, writes a m → writes a (said ++ m)) (hx : Adds x)
    (hf : ∀ b, Says writes (f b)) : Says writes (x >>= f) := by
  intro s
  obtain ⟨said, hsaid, -⟩ := hx s
  rcases hrun : x.runOn s with ⟨e | b, t⟩
  · rw [hrun] at hsaid
    rw [runOn_bind_error hrun]
    exact ⟨said, hsaid, nofun⟩
  · rw [hrun] at hsaid
    rw [runOn_bind_ok hrun]
    obtain ⟨m, hm, hend⟩ := hf b t
    exact ⟨said ++ m, by rw [hm, hsaid, List.append_assoc], fun a ha => hwrites (hend a ha)⟩

lemma adds_bind {x : Act β} {f : β → Act α} (hx : Adds x) (hf : ∀ b, Adds (f b)) :
    Adds (x >>= f) :=
  says_bind (fun _ => trivial) hx hf

lemma adds_pure (a : α) : Adds (pure a) := says_pure trivial

lemma adds_get : Adds (get : Act Session) := fun s => ⟨[], by simp, fun _ _ => trivial⟩

lemma adds_ofExcept (x : Except Failure α) : Adds (Act.ofExcept x) := by
  cases x with
  | ok a => exact adds_pure a
  | error e => exact says_throw e

lemma adds_ofFiles (x : FileTree.Outcome α) : Adds (Act.ofFiles x) := by
  cases x with
  | ok a => exact adds_pure a
  | error e => exact says_throw _

lemma adds_look (f : FileTree → Except Failure α) : Adds (Act.look f) :=
  adds_bind adds_get fun _ => adds_ofExcept _

/-- Changes that leave the errors alone. -/
lemma adds_modify {f : Session → Session} (h : ∀ s, (f s).errors = s.errors) :
    Adds (modify f : Act PUnit) :=
  fun s => ⟨[], by simp [h], fun _ _ => trivial⟩

lemma adds_change (f : FileTree → FileTree.Outcome FileTree) : Adds (Act.change f) :=
  adds_bind adds_get fun _ => adds_bind (adds_ofFiles _) fun _ => adds_modify fun _ => rfl

lemma adds_print (line : Text) : Adds (Act.print line) := by
  refine adds_bind adds_get fun s => ?_
  split
  · exact says_throw _
  · exact adds_modify fun _ => rfl

/-- Lines of a log are added to the errors, or not written there. -/
lemma errors_deliver (lines : List (Log.Sink × Text)) (s : Session) :
    ∃ said, (lines.foldl Session.deliver s).errors = s.errors ++ said := by
  induction lines generalizing s with
  | nil => exact ⟨[], by simp⟩
  | cons line lines ih =>
    obtain ⟨said, hsaid⟩ := ih (s.deliver line)
    obtain ⟨sink | p, text⟩ := line
    · exact ⟨text ++ said, by rw [List.foldl_cons, hsaid, Session.deliver, List.append_assoc]⟩
    · refine ⟨said, ?_⟩
      rw [List.foldl_cons, hsaid, Session.deliver]
      split <;> rfl

lemma adds_log (level : Log.Level) (logger : String) (message : Text) :
    Adds (Act.log level logger message) := by
  intro s
  rw [runOn_log, Session.log]
  obtain ⟨said, hsaid⟩ := errors_deliver (Log.Sinks.lines _ _ _) { s with sinks := s.sinks.ask _ }
  exact ⟨said, hsaid, fun _ _ => trivial⟩

lemma adds_configureLog (verbose : Bool) (file : Option Path) :
    Adds (Act.configureLog verbose file) := by
  refine adds_bind (adds_modify fun _ => rfl) fun _ => ?_
  cases file with
  | none => exact adds_pure _
  | some p =>
    exact adds_bind (adds_change _) fun _ => adds_bind adds_get fun _ =>
      adds_bind (adds_change _) fun _ => adds_modify fun _ => rfl

end Says

/-! ### A small session -/

/-- A machine that starts nothing. -/
def idle : Session.Launcher := fun t _ => (t, .refused [])

/-- A session in a directory with some entries. -/
def sessionIn (es : FileTree.Entries) : Session where
  tree := { root := .dir es, here := [] }
  clock := ⟨⟨2024, 3, 5, 7, 8, 9, 0, some 0⟩, []⟩

/-- Entries for files with texts. -/
def entriesWith : List (String × Utf8.Octets) → FileTree.Entries
  | [] => .nil
  | (name, octets) :: files => .cons name.toList (.file octets false) (entriesWith files)

end TestWeaver.Proofs.ActionRuns
