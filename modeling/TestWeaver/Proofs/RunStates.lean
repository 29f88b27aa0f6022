import Mathlib.Data.List.Infix
import TestWeaver.Build.Run

/-!
The states that runs of a project's tests go through.

A run is refused before anything is started, and then it leaves the state alone, or its command is
started, and then the reply alone decides the state. So the state behind any runs is that of the
last command that was started.
-/

namespace TestWeaver.Proofs.RunStates

open Build

/-- One run of several: the files that it finds, its target, and the reply to a command. -/
abbrev Call := FileTree × Option Text × (Invocation → Reply)

/-! ### What the files at the root say -/

section

variable (t : FileTree) (root : Path)

/-- What looking for a build file comes to. -/
def seen (d : Text × Tool) : FileTree.Outcome Bool := t.isFile (root / Path.ofText d.1)

/-- The search for a build file ends at `d`, since all before it are missing. -/
def EndsAt (d : Text × Tool) : Prop :=
  ∃ above below, Tool.descriptors = above ++ d :: below ∧ ∀ a ∈ above, seen t root a = .ok false

/-- The wrapper scripts of a tool cannot be looked for. -/
def WrapperTrouble (w : Wrapper) (e : FileTree.Trouble) : Prop :=
  t.exists? (root / Path.ofText w.script) = .error e ∨
    t.exists? (root / Path.ofText w.script) = .ok false ∧
      t.exists? (root / Path.ofText w.batch) = .error e

/-- The files that tell how to run the tests cannot be looked for. -/
inductive Unreadable : FileTree.Trouble → Prop
  | buildFile {d : Text × Tool} {e : FileTree.Trouble} (ends : EndsAt t root d)
      (trouble : seen t root d = .error e) : Unreadable e
  | wrapper {d : Text × Tool} {w : Wrapper} {e : FileTree.Trouble} (ends : EndsAt t root d)
      (there : seen t root d = .ok true) (wraps : d.2.wrapper? = some w)
      (trouble : WrapperTrouble t root w e) : Unreadable e

/-- Why a run is refused before its command is started. -/
inductive Refused (target : Option Text) : Failure → Prop
  | target {name : Text} (given : target = some name) (wrong : isTarget name = false) :
      Refused target (.invalidTarget name)
  | noBuildFile (right : ∀ n ∈ target, isTarget n = true)
      (missing : ∀ d ∈ Tool.descriptors, seen t root d = .ok false) :
      Refused target (.noBuildFile root)
  | unreadable {e : FileTree.Trouble} (right : ∀ n ∈ target, isTarget n = true)
      (trouble : Unreadable t root e) : Refused target (.files e)

/-- The command of a run that is not refused: the tool of the first build file there is, and the
arguments and the timeout that tool, target and settings say. -/
structure Chosen (windows : Bool) (settings : Settings) (target : Option Text) (tool : Tool)
    (i : Invocation) : Prop where
  right : ∀ n ∈ target, isTarget n = true
  found : ∃ file, EndsAt t root (file, tool) ∧ seen t root (file, tool) = .ok true
  command : command t windows root tool = .ok i.command
  args : arguments tool target = .ok i.args
  dir : i.dir = root.toText
  timeout : i.timeout = settings.timeout

end

variable {t : FileTree} {root : Path} {windows : Bool} {settings : Settings}
  {target : Option Text}

lemma detectIn_append {above : List (Text × Tool)} (h : ∀ a ∈ above, seen t root a = .ok false)
    (ds : List (Text × Tool)) :
    Tool.detectIn t root (above ++ ds) = Tool.detectIn t root ds := by
  induction above with
  | nil => rfl
  | cons a above ih =>
    obtain ⟨ha, habove⟩ := List.forall_mem_cons.mp h
    have ha : t.isFile (root / Path.ofText a.1) = .ok false := ha
    rw [List.cons_append, Tool.detectIn, ha]
    exact ih habove

/-- The search passes over missing files only. -/
lemma missing_or_endsAt (t : FileTree) (root : Path) :
    (∀ d ∈ Tool.descriptors, seen t root d = .ok false) ∨
      ∃ d, EndsAt t root d ∧ seen t root d ≠ .ok false := by
  rcases h : Tool.descriptors.find? (fun d => seen t root d ≠ .ok false) with _ | d
  · exact .inl fun d hd => by simpa using List.find?_eq_none.mp h d hd
  · obtain ⟨hd, above, below, hsplit, habove⟩ := List.find?_eq_some_iff_append.mp h
    exact .inr ⟨d, ⟨above, below, hsplit, fun a ha => by simpa using habove a ha⟩,
      by simpa using hd⟩

lemma detect_of_missing (h : ∀ d ∈ Tool.descriptors, seen t root d = .ok false) :
    Tool.detect t root = .error (.noBuildFile root) := by
  rw [Tool.detect, ← List.append_nil Tool.descriptors, detectIn_append h]
  rfl

lemma detect_of_endsAt {d : Text × Tool} (h : EndsAt t root d) :
    ∃ below, Tool.detect t root = Tool.detectIn t root (d :: below) := by
  obtain ⟨above, below, hsplit, habove⟩ := h
  exact ⟨below, by rw [Tool.detect, hsplit, detectIn_append habove]⟩

lemma detect_of_trouble {d : Text × Tool} {e : FileTree.Trouble} (h : EndsAt t root d)
    (he : seen t root d = .error e) : Tool.detect t root = .error (.files e) := by
  obtain ⟨below, hd⟩ := detect_of_endsAt h
  have he : t.isFile (root / Path.ofText d.1) = .error e := he
  rw [hd, Tool.detectIn, he]

lemma detect_of_there {d : Text × Tool} (h : EndsAt t root d) (hd : seen t root d = .ok true) :
    Tool.detect t root = .ok d.2 := by
  obtain ⟨below, hdetect⟩ := detect_of_endsAt h
  have hd : t.isFile (root / Path.ofText d.1) = .ok true := hd
  rw [hdetect, Tool.detectIn, hd]

lemma EndsAt.mem {d : Text × Tool} (h : EndsAt t root d) : d ∈ Tool.descriptors := by
  obtain ⟨above, below, hsplit, -⟩ := h
  simp [hsplit]

/-- Tools with a build file have wrapper scripts. -/
lemma exists_wrapper {d : Text × Tool} (h : d ∈ Tool.descriptors) :
    ∃ w, d.2.wrapper? = some w := by
  simp only [Tool.descriptors, List.mem_cons, List.not_mem_nil, or_false] at h
  rcases h with rfl | rfl | rfl <;> exact ⟨_, rfl⟩

lemma exists_arguments {tool : Tool} {w : Wrapper} (h : tool.wrapper? = some w)
    (target : Option Text) : ∃ args, arguments tool target = .ok args := by
  rcases tool with _ | _ | _
  · cases target <;> exact ⟨_, rfl⟩
  · cases target <;> exact ⟨_, rfl⟩
  · cases h

lemma command_of_trouble {tool : Tool} {w : Wrapper} {e : FileTree.Trouble}
    (hw : tool.wrapper? = some w) (h : WrapperTrouble t root w e) :
    command t windows root tool = .error (.files e) := by
  rcases h with h | ⟨hscript, hbatch⟩
  · simp [command, hw, h, Except.bind]
  · simp [command, hw, hscript, hbatch, Except.bind]

lemma command_cases {tool : Tool} {w : Wrapper} (hw : tool.wrapper? = some w) :
    (∃ e, WrapperTrouble t root w e) ∨ ∃ c, command t windows root tool = .ok c := by
  rcases hscript : t.exists? (root / Path.ofText w.script) with e | _ | _
  · exact .inl ⟨e, .inl hscript⟩
  · rcases hbatch : t.exists? (root / Path.ofText w.batch) with e | _ | _
    · exact .inl ⟨e, .inr ⟨hscript, hbatch⟩⟩
    · exact .inr ⟨_, by simp [command, hw, hscript, hbatch, Except.bind]; rfl⟩
    · exact .inr ⟨_, by simp [command, hw, hscript, hbatch, Except.bind]; rfl⟩
  · exact .inr ⟨_, by simp [command, hw, hscript, Except.bind]; rfl⟩

/-! ### One run -/

lemma checkTarget_of_right (h : ∀ n ∈ target, isTarget n = true) : checkTarget target = .ok () := by
  cases target with
  | none => rfl
  | some n => simp [checkTarget, h n rfl]

lemma prepare_of_refused {e : Failure} (h : Refused t root target e) :
    prepare t windows root settings target = .error e := by
  cases h with
  | target given wrong => simp [prepare, given, checkTarget, wrong, bind, Except.bind]
  | noBuildFile right missing =>
    simp [prepare, checkTarget_of_right right, detect_of_missing missing, bind, Except.bind]
  | unreadable right trouble =>
    cases trouble with
    | buildFile ends trouble =>
      simp [prepare, checkTarget_of_right right, detect_of_trouble ends trouble, bind, Except.bind]
    | wrapper ends there wraps trouble =>
      simp [prepare, invocation, checkTarget_of_right right, detect_of_there ends there,
        command_of_trouble wraps trouble, bind, Except.bind]

/-- A chosen command is started. -/
lemma Chosen.prepare {tool : Tool} {i : Invocation}
    (h : Chosen t root windows settings target tool i) :
    Build.prepare t windows root settings target = .ok (tool, i) := by
  obtain ⟨hright, ⟨file, hends, hseen⟩, hcommand, hargs, hdir, htimeout⟩ := h
  simp [Build.prepare, invocation, checkTarget_of_right hright, detect_of_there hends hseen,
    hcommand, hargs, ← hdir, ← htimeout, bind, Except.bind, pure, Except.pure]

/-- A run is refused, or its command is chosen. -/
lemma refused_or_chosen (windows : Bool) (settings : Settings) (t : FileTree) (root : Path)
    (target : Option Text) :
    (∃ e, Refused t root target e) ∨ ∃ tool i, Chosen t root windows settings target tool i := by
  by_cases hright : ∀ n ∈ target, isTarget n = true
  · rcases missing_or_endsAt t root with hmissing | ⟨d, hends, hd⟩
    · exact .inl ⟨_, .noBuildFile hright hmissing⟩
    rcases hseen : seen t root d with e | _ | _
    · exact .inl ⟨_, .unreadable hright (.buildFile hends hseen)⟩
    · exact absurd hseen hd
    obtain ⟨w, hw⟩ := exists_wrapper hends.mem
    have hcommand : (∃ e, WrapperTrouble t root w e) ∨ ∃ c, command t windows root d.2 = .ok c :=
      command_cases hw
    rcases hcommand with ⟨e, he⟩ | ⟨c, hc⟩
    · exact .inl ⟨_, .unreadable hright (.wrapper hends hseen hw he)⟩
    obtain ⟨args, hargs⟩ := exists_arguments hw target
    exact .inr ⟨d.2, ⟨c, args, root.toText, settings.timeout⟩,
      hright, ⟨d.1, hends, hseen⟩, hc, hargs, rfl, rfl⟩
  · push Not at hright
    obtain ⟨n, hn, hwrong⟩ := hright
    exact .inl ⟨_, .target hn (by simpa using hwrong)⟩

/-! ### Runs one after another -/

/-- The state behind some turns that start in a state. -/
def stateBehind (before : RunState) (ts : List Turn) : RunState :=
  (ts.getLast?.map Turn.state).getD before

@[simp] lemma stateBehind_nil (before : RunState) : stateBehind before [] = before := rfl

@[simp] lemma stateBehind_cons (before : RunState) (turn : Turn) (ts : List Turn) :
    stateBehind before (turn :: ts) = stateBehind turn.state ts := by
  rw [stateBehind, List.getLast?_cons, stateBehind]
  cases ts.getLast? <;> rfl

/-- The turn of a call starts in the state that the turns before leave. -/
lemma turns_getElem? (windows : Bool) (root : Path) (settings : Settings) (before : RunState)
    (calls : List Call) (k : ℕ) :
    (turns windows root settings before calls)[k]? = calls[k]?.map fun c =>
      run c.1 windows root settings
        (stateBehind before ((turns windows root settings before calls).take k)) c.2.1 c.2.2 := by
  induction calls generalizing before k with
  | nil => rfl
  | cons c calls ih =>
    obtain ⟨t, target, reply⟩ := c
    cases k with
    | zero => rfl
    | succ k => simpa [turns] using ih _ k

/-- A started run ends as the reply to its command says. -/
structure Settled (settings : Settings) (tool : Tool) (reply : Reply) (turn : Turn) : Prop where
  text : ∀ output, reply = .ok output →
    turn.result = .ok (result tool settings output) ∧
      turn.state = if (result tool settings output).passed then .succeeded else .failed
  timeout : ∀ seconds argv, reply = .error (.timedOut seconds argv) →
    turn.result = .error (.timedOut seconds argv) ∧ turn.state = .timedOut
  launch : ∀ message argv code, reply = .error (.launch message argv code) →
    turn.result = .error (.launch message argv code) ∧ turn.state = .launchError

lemma run_of_refused {e : Failure} (h : Refused t root target e) (before : RunState)
    (reply : Invocation → Reply) :
    run t windows root settings before target reply = ⟨before, .error e, none⟩ := by
  rw [run, prepare_of_refused h]

lemma run_of_chosen {tool : Tool} {i : Invocation}
    (h : Chosen t root windows settings target tool i) (before : RunState)
    (reply : Invocation → Reply) :
    run t windows root settings before target reply =
      ⟨.after ((reply i).map (result tool settings)), (reply i).map (result tool settings),
        some i⟩ := by
  rw [run, h.prepare]

lemma settled_of_chosen {tool : Tool} {i : Invocation}
    (h : Chosen t root windows settings target tool i) (before : RunState)
    (reply : Invocation → Reply) :
    Settled settings tool (reply i) (run t windows root settings before target reply) := by
  rw [run_of_chosen h]
  exact ⟨fun output ho => by simp [ho, Except.map, RunState.after],
    fun s argv ho => by simp [ho, Except.map, RunState.after],
    fun m argv code ho => by simp [ho, Except.map, RunState.after]⟩

/-- **Every run of several**: one that is refused says why, starts nothing and leaves the state as
it was. Every other one starts one command, which tool, target and settings say, and the reply
alone says how it ends. -/
theorem turns_settle (windows : Bool) (root : Path) (settings : Settings) {calls : List Call}
    {k : ℕ} {t : FileTree} {target : Option Text} {reply : Invocation → Reply}
    (hk : calls[k]? = some (t, target, reply)) :
    ∃ turn, (turns windows root settings .idle calls)[k]? = some turn ∧
      (∀ e, Refused t root target e → turn.started = none ∧ turn.result = .error e ∧
        turn.state = stateBehind .idle ((turns windows root settings .idle calls).take k)) ∧
      ((∀ e, ¬ Refused t root target e) → ∃ tool i,
        Chosen t root windows settings target tool i ∧ turn.started = some i ∧
          Settled settings tool (reply i) turn) := by
  have hturn := turns_getElem? windows root settings .idle calls k
  rw [hk, Option.map_some] at hturn
  refine ⟨_, hturn, fun e he => ?_, fun hright => ?_⟩
  · rw [run_of_refused he]
    exact ⟨rfl, rfl, rfl⟩
  · rcases refused_or_chosen windows settings t root target with ⟨e, he⟩ | ⟨tool, i, hchosen⟩
    · exact absurd he (hright e)
    · exact ⟨tool, i, hchosen, by rw [run_of_chosen hchosen], settled_of_chosen hchosen _ _⟩

/-- A directory with some files. -/
def treeOf (files : FileTree.Entries) : FileTree := { root := .dir files, here := [] }

/-- The files of a project that is built without wrapper scripts. -/
def project : FileTree := treeOf (.cons "pom.xml".toList (.file [] false) .nil)

/-- A name that is wrong for a target leaves the state of the run before, and does not touch the
one behind. -/
theorem turns_settle_between :
    let calls : List Call := [(project, none, fun _ => .ok "BUILD SUCCESS".toList),
      (project, some "a b".toList, fun _ => .ok "BUILD SUCCESS".toList),
      (project, some "ATest".toList, fun i => .error (.timedOut i.timeout i.argv))]
    let ts := turns false ⟨.none, []⟩ {} .idle calls
    (∃ turn, ts[1]? = some turn ∧ turn.started = none ∧ turn.state = .succeeded) ∧
      ∃ turn, ts[2]? = some turn ∧ turn.started.isSome ∧ turn.state = .timedOut := by
  intro calls ts
  obtain ⟨wrong, hwrong, hrefused, -⟩ :=
    turns_settle false ⟨.none, []⟩ {} (show calls[1]? = some _ from rfl)
  obtain ⟨late, hlate, -, hstarted⟩ :=
    turns_settle false ⟨.none, []⟩ {} (show calls[2]? = some _ from rfl)
  obtain ⟨hnone, -, hstate⟩ := hrefused _ (.target rfl (by decide))
  refine ⟨⟨wrong, hwrong, hnone, by rw [hstate]; decide +kernel⟩, late, hlate, ?_⟩
  have hright : ∀ e, ¬ Refused project ⟨.none, []⟩ (some "ATest".toList) e := by
    intro e he
    have h : prepare project false ⟨.none, []⟩ {} (some "ATest".toList) = .error e :=
      prepare_of_refused he
    have hok : (prepare project false ⟨.none, []⟩ {} (some "ATest".toList)).isOk = true := by
      decide +kernel
    rw [h] at hok
    cases hok
  obtain ⟨tool, i, -, hi, hsettled⟩ := hstarted hright
  exact ⟨by rw [hi]; rfl, (hsettled.timeout _ _ rfl).2⟩

/-- A wrapper script that leads to a name that is too long keeps a run from starting, though the
build file is there. -/
theorem turns_settle_unreadable :
    let t := treeOf (.cons "build.gradle".toList (.file [] false)
      (.cons "gradlew".toList (.link (List.replicate 256 'x')) .nil))
    let ts := turns false ⟨.none, []⟩ {} .idle [(t, none, fun _ => .ok "BUILD SUCCESSFUL".toList)]
    seen t ⟨.none, []⟩ ("build.gradle".toList, .gradle) = .ok true ∧
      ts.map Turn.started = [none] ∧ ts.map Turn.state = [.idle] ∧
      ts.map Turn.result = [.error (.files (.refused .nameTooLong "gradlew".toList))] := by
  decide +kernel

/-! ### The last command that was started -/

/-- The failure is that of a command: it took too long, or it could not be run. -/
def ofCommand : Failure → Bool
  | .timedOut _ _ | .launch _ _ _ => true
  | _ => false

/-- The last command that calls start, and the reply to it: the calls behind it are refused. -/
def LastStarted (windows : Bool) (root : Path) (settings : Settings) (calls : List Call)
    (t : FileTree) (i : Invocation) (reply : Reply) : Prop :=
  ∃ earlier target answer later tool, calls = earlier ++ (t, target, answer) :: later ∧
    Chosen t root windows settings target tool i ∧ answer i = reply ∧
    ∀ c ∈ later, ∃ e, Refused c.1 root c.2.1 e

lemma stateBehind_append (windows : Bool) (root : Path) (settings : Settings) (before : RunState)
    (earlier later : List Call) :
    stateBehind before (turns windows root settings before (earlier ++ later)) =
      stateBehind (stateBehind before (turns windows root settings before earlier))
        (turns windows root settings
          (stateBehind before (turns windows root settings before earlier)) later) := by
  induction earlier generalizing before with
  | nil => rfl
  | cons c earlier ih =>
    obtain ⟨t, target, reply⟩ := c
    simpa [turns] using ih _

lemma stateBehind_of_refused {calls : List Call} (h : ∀ c ∈ calls, ∃ e, Refused c.1 root c.2.1 e)
    (before : RunState) :
    stateBehind before (turns windows root settings before calls) = before := by
  induction calls with
  | nil => rfl
  | cons c calls ih =>
    obtain ⟨⟨e, he⟩, hrest⟩ := List.forall_mem_cons.mp h
    obtain ⟨t, target, reply⟩ := c
    rw [turns, run_of_refused he, stateBehind_cons]
    exact ih hrest

lemma refused_or_lastStarted (windows : Bool) (root : Path) (settings : Settings)
    (calls : List Call) :
    (∀ c ∈ calls, ∃ e, Refused c.1 root c.2.1 e) ∨
      ∃ t i reply, LastStarted windows root settings calls t i reply := by
  induction calls with
  | nil => exact .inl fun c hc => by cases hc
  | cons c calls ih =>
    obtain ⟨t, target, answer⟩ := c
    rcases ih with ih | ⟨t', i, reply, earlier, target', answer', later, tool, rfl, h⟩
    · rcases refused_or_chosen windows settings t root target with he | ⟨tool, i, hchosen⟩
      · exact .inl (List.forall_mem_cons.mpr ⟨he, ih⟩)
      · exact .inr ⟨t, i, answer i, [], target, answer, calls, tool, rfl, hchosen, rfl, ih⟩
    · exact .inr ⟨t', i, reply, (t, target, answer) :: earlier, target', answer', later, tool,
        rfl, h⟩

/-- The last command that was started decides the state. -/
lemma stateBehind_of_lastStarted {calls : List Call} {i : Invocation} {reply : Reply}
    (h : LastStarted windows root settings calls t i reply) (before : RunState) :
    ∃ tool, stateBehind before (turns windows root settings before calls) =
      .after (reply.map (result tool settings)) := by
  obtain ⟨earlier, target, answer, later, tool, rfl, hchosen, rfl, hlater⟩ := h
  refine ⟨tool, ?_⟩
  rw [stateBehind_append, turns, run_of_chosen hchosen, stateBehind_cons]
  exact stateBehind_of_refused hlater _

lemma after_eq_running {outcome : Except Failure Result} :
    RunState.after outcome = .running ↔ ∃ e, outcome = .error e ∧ ofCommand e = false := by
  rcases outcome with e | r
  · cases e <;> simp [RunState.after, ofCommand]
  · cases hr : r.passed <;> simp [RunState.after, hr]

/-- Behind a command that was started last, runs are left off in the middle just where it failed in
a way that is none of a command. -/
lemma running_iff_of_lastStarted {calls : List Call} {i : Invocation} {reply : Reply}
    (h : LastStarted windows root settings calls t i reply) :
    stateBehind .idle (turns windows root settings .idle calls) = .running ↔
      ∃ e, reply = .error e ∧ ofCommand e = false := by
  obtain ⟨tool, hstate⟩ := stateBehind_of_lastStarted h .idle
  rw [hstate, after_eq_running]
  cases reply <;> simp [Except.map]

end TestWeaver.Proofs.RunStates
