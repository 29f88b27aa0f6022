import TestWeaver.Child.Run
import TestWeaver.Proofs.FileWalks
import TestWeaver.Proofs.PathNames
import TestWeaver.Proofs.SettingsRead
import TestWeaver.Proofs.TargetNames

/-!
Timeouts that nobody can wait for.

Every reply to a command that is none of its own failures leaves runs off in the middle. Settings
let any timeout above zero through, and a system can only wait so long: with a timeout well above
that limit, an infinite one for instance, a command that is there to be started is answered by such
a failure. How far above depends on the time that passes before the wait begins.
-/

namespace TestWeaver.Proofs.WaitLimit

open Build RunStates

/-- What starts commands. -/
abbrev Launch := FileTree → Invocation → Child.Start

/-- A call whose command is run as a child process. -/
def childCall (launch : Launch) (c : FileTree × Option Text) : Call :=
  (c.1, c.2, fun i => (Child.reply i (launch c.1 i)).2)

/-- **Runs that are left off in the middle**: just those whose last started command was answered by
a failure that is none of a command, whatever the settings are. -/
theorem turns_running_iff (windows : Bool) (root : Path) (settings : Settings)
    (calls : List Call) :
    stateBehind .idle (turns windows root settings .idle calls) = .running ↔
      ∃ t i e, LastStarted windows root settings calls t i (.error e) ∧ ofCommand e = false := by
  constructor
  · intro h
    rcases refused_or_lastStarted windows root settings calls with hall | ⟨t, i, reply, hlast⟩
    · rw [stateBehind_of_refused hall] at h
      cases h
    · obtain ⟨e, rfl, he⟩ := (running_iff_of_lastStarted hlast).mp h
      exact ⟨t, i, e, hlast, he⟩
  · rintro ⟨t, i, e, hlast, he⟩
    exact (running_iff_of_lastStarted hlast).mpr ⟨e, rfl, he⟩

/-- Starts every command, and none of them ends. -/
def endless : Launch := fun _ i =>
  .started { id := 1, wait := ((Child.waitFault? i.timeout).map .broke).getD .late }

/-- A project with a configuration file. -/
def configured (config : Text) : FileTree :=
  treeOf (.cons "build.gradle".toList (.file [] false)
    (.cons ".testgen.yml".toList (.file (Utf8.encode config) false) .nil))

/-- A file that sets the timeout of a build. -/
def timeoutOf (v : Yaml.Value) : Config.Entries :=
  [(.text "build".toList, .mapping [(.text "timeout".toList, v)])]

/-- A timeout without end is accepted, and the first run under it is left off in the middle. -/
theorem turns_running_infinite :
    let text := "build:\n  timeout: .inf\n".toList
    let load := SettingsRead.reads text (timeoutOf (.float (.infinite false)))
    let t := configured text
    ((Config.read load t ⟨.none, []⟩).map fun c => stateBehind .idle
      (turns false ⟨.none, []⟩ c.sections.build .idle ([(t, none)].map (childCall endless)))) =
        .ok .running := by
  decide +kernel

/-! ### Timeouts -/

/-- The longest timeout that can be waited for, in milliseconds. -/
def longestWait : ℕ := 2147483647

/-- The timeout, in seconds, is longer than can be waited for after a number of milliseconds. -/
def TooLong (lag : ℕ) (timeout : Binary64) : Prop :=
  Child.exceeds timeout (longestWait + lag) 1000 = true

/-- What each system can hand over: texts in ASCII without null characters. -/
def Plain (s : Text) : Prop := ∀ c ∈ s, c ≠ Char.ofNat 0 ∧ c.toNat < 0x80

instance : DecidablePred Plain :=
  List.decidableBAll fun c => c ≠ Char.ofNat 0 ∧ c.toNat < 0x80

/-- No text with the character is a name on the machine. -/
def Unnamable (t : FileTree) (c : Char) : Prop := ∀ s, c ∈ s → t.misnamed? s ≠ none

/-- What is relied on of a system that starts commands: only a character that is in no name keeps a
command from being tried, and waiting for a child breaks off only at a timeout that is too long, and
always at one that is still too long when the wait begins, which is at most `lag` milliseconds after
the start. -/
structure Waits (launch : Launch) (lag : ℕ) : Prop where
  tried : ∀ {t i e}, launch t i = .failed e →
    ∃ s ∈ i.dir :: i.argv, ¬ Plain s ∧ ∃ c ∈ s, Unnamable t c
  broken : ∀ {t i b e}, i.timeout.isPositive = true → launch t i = .started b →
    b.wait = .broke e → TooLong 0 i.timeout ∧ ofCommand e = false
  waited : ∀ {t i b}, launch t i = .started b → TooLong lag i.timeout → ∃ e, b.wait = .broke e

lemma TooLong.at_once {lag : ℕ} {x : Binary64} (h : TooLong lag x) : TooLong 0 x := by
  rcases x with _ | _ | ⟨_ | _, m, e⟩
  · exact h
  · exact h
  · have hexceeds := of_decide_eq_true h
    exact decide_eq_true ((Nat.mul_le_mul_right _ (Nat.le_add_right _ lag)).trans_lt hexceeds)
  · exact h

/-- A timeout that is too long cannot be waited for. -/
lemma exists_waitFault {x : Binary64} (h : TooLong 0 x) : ∃ e, Child.waitFault? x = some e := by
  rcases x with _ | _ | ⟨negative, m, e⟩
  · exact ⟨_, rfl⟩
  · obtain rfl : _ = false := by simpa [TooLong, Child.exceeds] using h
    exact ⟨_, rfl⟩
  · simp only [Child.waitFault?]
    split
    · exact ⟨_, rfl⟩
    · exact ⟨_, if_pos h⟩

lemma tooLong_of_waitFault {x : Binary64} (hpos : x.isPositive = true) {f : Failure}
    (h : Child.waitFault? x = some f) : TooLong 0 x := by
  rcases x with _ | negative | ⟨negative, m, e⟩
  · cases hpos
  · exact hpos
  · obtain ⟨rfl, -⟩ : negative = false ∧ m ≠ 0 := by simpa [Binary64.isPositive] using hpos
    simp only [Child.waitFault?] at h
    split at h
    · -- the other limit is higher
      next hexceeds =>
      have hexceeds := of_decide_eq_true hexceeds
      refine decide_eq_true ?_
      simp only [Nat.pow_eq, longestWait] at hexceeds ⊢
      omega
    · split at h
      · next hlong => exact hlong
      · cases h

lemma ofCommand_waitFault {x : Binary64} {e : Failure} (h : Child.waitFault? x = some e) :
    ofCommand e = false := by
  unfold Child.waitFault? at h
  split at h
  · obtain rfl := Option.some.inj h
    rfl
  · obtain rfl := Option.some.inj h
    rfl
  · split at h
    · obtain rfl := Option.some.inj h
      rfl
    · split at h
      · obtain rfl := Option.some.inj h
        rfl
      · cases h

/-! ### Commands that can be tried -/

lemma misnamed?_of_isFile {t : FileTree} {p : Path} (h : t.isFile p = .ok true) :
    t.misnamed? p.toText = none := by
  unfold FileTree.isFile FileTree.test at h
  split at h
  · next node hstat =>
    obtain ⟨r, hlocate, -⟩ := Outcomes.bind_eq_ok.mp hstat
    exact (FileWalks.locate_eq_ok.mp hlocate).1
  · cases h
  · cases h

/-- What is written in front of a name in a directory is the directory. -/
lemma mem_toText_join {root : Path} {c : Char} (h : c ∈ root.toText) {name : Text}
    (hname : '.' ∈ name) : c ∈ (root / ⟨.none, [name]⟩ : Path).toText := by
  have hjoin : (root / ⟨.none, [name]⟩ : Path) = ⟨root.root, root.parts ++ [name]⟩ := rfl
  rw [hjoin, PathNames.toText_of_parts (by simp)]
  by_cases hparts : root.parts = []
  · obtain ⟨r, ps⟩ := root
    obtain rfl : ps = [] := hparts
    cases r with
    | none =>
      obtain rfl : c = '.' := List.mem_singleton.mp h
      exact hname
    | slash => exact List.mem_append_left _ h
    | doubleSlash => exact List.mem_append_left _ h
  · rw [PathNames.toText_of_parts hparts] at h
    rw [RowText.joinWith_append hparts (by simp), ← List.append_assoc]
    exact List.mem_append_left _ h

lemma plain_of_isTarget {name : Text} (h : isTarget name = true) : Plain name := by
  intro c hc
  rcases (TargetNames.isTarget_iff.mp h).chars c hc with hname | rfl | rfl
  · rw [TargetNames.nameChar_iff] at hname
    refine ⟨?_, by omega⟩
    rintro rfl
    revert hname
    decide
  · decide
  · decide

/-- Commands are wrapper scripts or the names of tools. -/
lemma plain_command {t : FileTree} {windows : Bool} {root : Path} {tool : Tool} {c : Text}
    (h : command t windows root tool = .ok c) : Plain c := by
  rcases hw : tool.wrapper? with _ | w
  · simp [command, hw] at h
  · have hc : c ∈ [w.batch, '.' :: '/' :: w.script, w.fallback] := by
      simp only [command, hw] at h
      split at h
      · cases h
      · obtain rfl := Except.ok.inj h
        split <;> simp
      · obtain rfl := Except.ok.inj h
        simp
    have hall : ∀ c ∈ [w.batch, '.' :: '/' :: w.script, w.fallback], Plain c := by
      cases tool with
      | gradle => obtain rfl := Option.some.inj hw; decide
      | maven => obtain rfl := Option.some.inj hw; decide
      | unknown => cases hw
    exact hall c hc

lemma plain_arguments {tool : Tool} {target : Option Text} {args : List Text}
    (hright : ∀ n ∈ target, isTarget n = true) (h : arguments tool target = .ok args) :
    ∀ s ∈ args, Plain s := by
  have htest : Plain "test".toList := by decide
  rcases target with _ | name
  · obtain rfl := Except.ok.inj h
    simpa using htest
  · have hname : Plain name := plain_of_isTarget (hright name rfl)
    cases tool with
    | gradle =>
      obtain rfl := Except.ok.inj h
      have hoptions : Plain "--tests".toList ∧ Plain "--info".toList := by decide
      exact List.forall_mem_cons.mpr ⟨htest, List.forall_mem_cons.mpr ⟨hoptions.1,
        List.forall_mem_cons.mpr ⟨hname, List.forall_mem_singleton.mpr hoptions.2⟩⟩⟩
    | maven =>
      obtain rfl := Except.ok.inj h
      have hoption : Plain "-Dtest=".toList := by decide
      exact List.forall_mem_cons.mpr ⟨htest, List.forall_mem_singleton.mpr fun c hc =>
        (List.mem_append.mp hc).elim (hoption c) (hname c)⟩
    | unknown => cases h

/-- Build files have one name, with a dot. -/
lemma ofText_descriptor {d : Text × Tool} (h : d ∈ Tool.descriptors) :
    Path.ofText d.1 = ⟨.none, [d.1]⟩ ∧ '.' ∈ d.1 := by
  simp only [Tool.descriptors, List.mem_cons, List.not_mem_nil, or_false] at h
  rcases h with rfl | rfl | rfl <;> decide

/-- A chosen command can be tried: its directory has a build file, so even that has a name that can
be looked up. -/
lemma not_unnamable_of_chosen {t : FileTree} {root : Path} {windows : Bool} {settings : Settings}
    {target : Option Text} {tool : Tool} {i : Invocation}
    (h : Chosen t root windows settings target tool i) :
    ∀ s ∈ i.dir :: i.argv, Plain s ∨ ∀ c ∈ s, ¬ Unnamable t c := by
  obtain ⟨file, hends, hseen⟩ := h.found
  refine List.forall_mem_cons.mpr ⟨.inr fun c hc hnone => ?_, List.forall_mem_cons.mpr
    ⟨.inl (plain_command h.command), fun s hs => .inl (plain_arguments h.right h.args s hs)⟩⟩
  rw [h.dir] at hc
  obtain ⟨hfile, hdot⟩ := ofText_descriptor hends.mem
  rw [seen, hfile] at hseen
  exact hnone _ (mem_toText_join hc hdot) (misnamed?_of_isFile hseen)

/-! ### Commands that are run as children -/

/-- A command that is run as a child fails in no way of its own only where it was started under a
timeout that is too long. -/
lemma reply_broken {launch : Launch} {lag : ℕ} (hlaunch : Waits launch lag) {t : FileTree}
    {i : Invocation} (hnames : ∀ s ∈ i.dir :: i.argv, Plain s ∨ ∀ c ∈ s, ¬ Unnamable t c)
    (hpos : i.timeout.isPositive = true) {e : Failure}
    (he : (Child.reply i (launch t i)).2 = .error e) (hcrash : ofCommand e = false) :
    TooLong 0 i.timeout ∧ ∃ b, launch t i = .started b := by
  rcases hstart : launch t i with reason | f | b
  · rw [hstart, Child.reply_of_error (Child.run_refused reason)] at he
    obtain rfl := Except.error.inj he
    cases hcrash
  · obtain ⟨s, hs, hplain, c, hc, hnone⟩ := hlaunch.tried hstart
    exact absurd hnone ((hnames s hs).resolve_left hplain c hc)
  rw [hstart] at he
  rcases hwait : b.wait with ⟨output, errors, code⟩ | _ | f
  · rw [Child.reply_ended hwait] at he
    split at he
    · obtain rfl := Except.error.inj he
      cases hcrash
    · cases he
  · rw [Child.reply_of_error (Child.run_late hwait)] at he
    obtain rfl := Except.error.inj he
    cases hcrash
  · exact ⟨(hlaunch.broken hpos hstart hwait).1, b, rfl⟩

/-- A command that is started under a timeout that is too long when the wait begins fails in no way
of its own. -/
lemma reply_waited {launch : Launch} {lag : ℕ} (hlaunch : Waits launch lag) {t : FileTree}
    {i : Invocation} (hpos : i.timeout.isPositive = true) {b : Child.Behaviour}
    (hstart : launch t i = .started b) (hlong : TooLong lag i.timeout) :
    ∃ e, (Child.reply i (launch t i)).2 = .error e ∧ ofCommand e = false := by
  obtain ⟨e, hwait⟩ := hlaunch.waited hstart hlong
  refine ⟨e, ?_, (hlaunch.broken hpos hstart hwait).2⟩
  rw [hstart, Child.reply_of_error (Child.run_broke hwait)]

/-- The reply to the last command of calls that run children is what running it as one comes to. -/
lemma reply_of_lastStarted {launch : Launch} {windows : Bool} {root : Path} {settings : Settings}
    {starts : List (FileTree × Option Text)} {t : FileTree} {i : Invocation} {reply : Reply}
    (h : LastStarted windows root settings (starts.map (childCall launch)) t i reply) :
    reply = (Child.reply i (launch t i)).2 ∧ i.timeout = settings.timeout ∧
      ∀ s ∈ i.dir :: i.argv, Plain s ∨ ∀ c ∈ s, ¬ Unnamable t c := by
  obtain ⟨earlier, target, answer, later, tool, hcalls, hchosen, rfl, -⟩ := h
  have hmem : (t, target, answer) ∈ starts.map (childCall launch) := by simp [hcalls]
  obtain ⟨start, -, hcall⟩ := List.mem_map.mp hmem
  obtain ⟨rfl, -, rfl⟩ : start.1 = t ∧ start.2 = target ∧ _ = answer := by
    simpa [childCall] using hcall
  exact ⟨rfl, hchosen.timeout, not_unnamable_of_chosen hchosen⟩

/-- **Runs of children under the settings of a file**: they are left off in the middle only where
the last command was started under a timeout that nobody can wait for, and are so if it is still too
long when the wait begins. -/
theorem childTurns_running {load : Config.Loader} {tree : FileTree} {p : Path} {c : Config}
    (hc : Config.read load tree p = .ok c) {launch : Launch} {lag : ℕ} (hlaunch : Waits launch lag)
    (windows : Bool) (root : Path) (starts : List (FileTree × Option Text)) :
    let calls := starts.map (childCall launch)
    let left := stateBehind .idle (turns windows root c.sections.build .idle calls) = .running
    let begun := ∃ t i reply b, LastStarted windows root c.sections.build calls t i reply ∧
      launch t i = .started b
    (left → TooLong 0 c.sections.build.timeout ∧ begun) ∧
      (TooLong lag c.sections.build.timeout → begun → left) := by
  intro calls left begun
  have hpos : c.sections.build.timeout.isPositive = true := SettingsRead.timeout_positive hc
  constructor
  · intro h
    rcases refused_or_lastStarted windows root c.sections.build calls with
      hall | ⟨t, i, reply, hlast⟩
    · exact absurd ((stateBehind_of_refused hall .idle).symm.trans h) nofun
    obtain ⟨e, he, hcrash⟩ := (running_iff_of_lastStarted hlast).mp h
    obtain ⟨hreply, htimeout, hnames⟩ := reply_of_lastStarted hlast
    rw [← htimeout] at hpos ⊢
    obtain ⟨hlong, b, hb⟩ := reply_broken hlaunch hnames hpos (hreply.symm.trans he) hcrash
    exact ⟨hlong, t, i, reply, b, hlast, hb⟩
  · rintro hlong ⟨t, i, reply, b, hlast, hb⟩
    obtain ⟨hreply, htimeout, -⟩ := reply_of_lastStarted hlast
    rw [← htimeout] at hpos hlong
    obtain ⟨e, he, hcrash⟩ := reply_waited hlaunch hpos hb hlong
    exact (running_iff_of_lastStarted hlast).mpr ⟨e, hreply.trans he, hcrash⟩

lemma waits_endless (lag : ℕ) : Waits endless lag where
  tried h := by cases h
  broken := by
    intro t i b e hpos h hwait
    obtain rfl := Child.Start.started.inj h
    cases hfault : Child.waitFault? i.timeout with
    | none =>
      rw [hfault] at hwait
      cases hwait
    | some f =>
      rw [hfault] at hwait
      obtain rfl := Child.Wait.broke.inj hwait
      exact ⟨tooLong_of_waitFault hpos hfault, ofCommand_waitFault hfault⟩
  waited := by
    intro t i b h hlong
    obtain rfl := Child.Start.started.inj h
    obtain ⟨e, hfault⟩ := exists_waitFault hlong.at_once
    exact ⟨e, by rw [hfault]; rfl⟩

/-- Under a timeout of a minute no run is left off in the middle, though no command ends. -/
example :
    let text := "build:\n  timeout: 60\n".toList
    let load := SettingsRead.reads text (timeoutOf (.int 60))
    ∃ c, Config.read load (configured text) ⟨.none, []⟩ = .ok c ∧
      ∀ starts : List (FileTree × Option Text), stateBehind .idle
        (turns false ⟨.none, []⟩ c.sections.build .idle (starts.map (childCall endless))) ≠
          .running := by
  intro text load
  have hshort : (Config.read load (configured text) ⟨.none, []⟩).map
      (fun c => Child.exceeds c.sections.build.timeout (longestWait + 0) 1000) = .ok false := by
    decide +kernel
  obtain ⟨c, hc, hshort⟩ := Outcomes.map_eq_ok.mp hshort
  refine ⟨c, hc, fun starts hleft => ?_⟩
  obtain ⟨hlong, -⟩ := (childTurns_running hc (waits_endless 0) false ⟨.none, []⟩ starts).1 hleft
  rw [TooLong, hshort] at hlong
  cases hlong

end TestWeaver.Proofs.WaitLimit
