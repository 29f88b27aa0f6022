import Mathlib.Data.Nat.Notation
import TestWeaver.CommandLine.Run
import TestWeaver.Proofs.ActionRuns
import TestWeaver.Proofs.SettingsRead

/-!
What stops a command.

A command stops at a file, at octets that are no text, at its settings, at a name, at its child or
at a line that cannot be written. Each of these is told from the session that the steps before it
lead to, and a command fails with just the failures that are listed for it.
-/

namespace TestWeaver.Proofs.CommandStops

open ActionRuns CommandLine Outcomes SettingsRead
open Session (Launcher)

variable {α : Type} {load : Config.Loader} {launch : Launcher} {a : Arguments} {s : Session}
  {t : FileTree} {p : Path} {e : Failure}

/-! ### Files -/

/-- A file is not read as text. -/
inductive Unread (t : FileTree) (p : Path) : Failure → Prop
  | file {e : FileTree.Trouble} (h : t.readOctets p = .error e) : Unread t p (.files e)
  | octets {bs : Utf8.Octets} {d : Utf8.DecodeError} (h : t.readOctets p = .ok bs)
      (hd : Utf8.decode bs = .error d) : Unread t p (.undecodable d)

lemma readText_eq_error : t.readText p = .error e ↔ Unread t p e := by
  unfold FileTree.readText
  constructor
  · intro h
    split at h
    · next c hread =>
      obtain rfl := Except.error.inj h
      exact .file hread
    · next bs hread =>
      split at h
      · next d hdecode =>
        obtain rfl := Except.error.inj h
        exact .octets hread hdecode
      · cases h
  · rintro (hread | ⟨hread, hdecode⟩)
    · rw [hread]
    · simp only [hread, hdecode]

lemma fails_readSource_bind {file : Text} {f : Text → Act α} :
    Fails (readSource file >>= f) s e ↔ Unread s.tree (Path.ofText file) e ∨
      ∃ text, s.tree.readText (Path.ofText file) = .ok text ∧ Fails (f text) s e := by
  rw [readSource, fails_look_bind, readText_eq_error]

/-- A log file is not opened. -/
inductive Unlogged (t : FileTree) (p : Path) : Failure → Prop
  | above {e : FileTree.Trouble} (h : t.makeDirs p.parent = .error e) : Unlogged t p (.files e)
  | file {u : FileTree} {e : FileTree.Trouble} (h : t.makeDirs p.parent = .ok u)
      (hfile : u.appendOctets (u.absolute p) [] = .error e) : Unlogged t p (.files e)

lemma fails_configureLog {verbose : Bool} {file : Option Path} :
    Fails (Act.configureLog verbose file) s e ↔ ∃ p, file = some p ∧ Unlogged s.tree p e := by
  cases file with
  | none =>
    refine iff_of_false ?_ nofun
    rw [Act.configureLog.eq_def]
    exact fails_pure
  | some p =>
    simp only [Act.configureLog, fails_modify_bind, fails_change_bind, fails_get_bind, fails_modify,
      and_false, exists_false, or_false]
    constructor
    · rintro (⟨c, hdirs, rfl⟩ | ⟨t, hdirs, c, hfile, rfl⟩)
      · exact ⟨p, rfl, .above hdirs⟩
      · exact ⟨p, rfl, .file hdirs hfile⟩
    · rintro ⟨q, hq, hdirs | ⟨hdirs, hfile⟩⟩
      · obtain rfl := Option.some.inj hq
        exact .inl ⟨_, hdirs, rfl⟩
      · obtain rfl := Option.some.inj hq
        exact .inr ⟨_, hdirs, _, hfile, rfl⟩

/-! ### Settings -/

/-- The settings for a path are not read: their file is not found or not read, the library makes no
value of its text, the value is no mapping, or an integer is out of range. -/
inductive Unset (load : Config.Loader) (t : FileTree) (p : Path) : Failure → Prop
  | unlocated {e : FileTree.Trouble} (h : Config.locate t p = .error e) : Unset load t p (.files e)
  | noRoot {file : Path} {e : FileTree.Trouble} (hfile : Config.locate t p = .ok file)
      (h : t.realPath file.parent = .error e) : Unset load t p (.files e)
  | unseen {file root : Path} {e : FileTree.Trouble} (hfile : Config.locate t p = .ok file)
      (hroot : t.realPath file.parent = .ok root) (h : t.exists? file = .error e) :
      Unset load t p (.files e)
  | unread {file root : Path} {e : Failure} (hfile : Config.locate t p = .ok file)
      (hroot : t.realPath file.parent = .ok root) (hthere : t.exists? file = .ok true)
      (h : Unread t file e) : Unset load t p e
  | unloaded {file root : Path} {text : Text} {fault : Config.Fault}
      (hset : Configured t p file root text) (hblank : Text.trim text ≠ [])
      (h : load text = .error fault) : Unset load t p (Config.failureOf file.name fault)
  | noMapping {file root : Path} {text : Text} {v : Yaml.Value}
      (hset : Configured t p file root text) (hblank : Text.trim text ≠ []) (h : load text = .ok v)
      (hmapping : ∀ es, v ≠ .mapping es) (hvoid : v.isVoid = false) :
      Unset load t p .configNotMapping
  | outOfRange {file root : Path} {text : Text} {es : Config.Entries} {e : Failure}
      (hset : Configured t p file root text)
      (hes : Config.entriesOf load file.name text = .ok es)
      (h : Config.Sections.ofEntries es = .error e) : Unset load t p e

lemma entriesOf_eq_error {name text : Text} :
    Config.entriesOf load name text = .error e ↔ Text.trim text ≠ [] ∧
      ((∃ fault, load text = .error fault ∧ Config.failureOf name fault = e) ∨
        ∃ v, load text = .ok v ∧ (∀ es, v ≠ .mapping es) ∧ v.isVoid = false ∧
          .configNotMapping = e) := by
  unfold Config.entriesOf
  constructor
  · intro h
    split at h
    · cases h
    next hblank =>
    refine ⟨hblank, ?_⟩
    split at h
    · next fault hload => exact .inl ⟨fault, hload, Except.error.inj h⟩
    · cases h
    · next v hnot hload =>
      split at h
      · cases h
      · next hvoid => exact .inr ⟨v, hload, hnot, by simpa using hvoid, Except.error.inj h⟩
  · rintro ⟨hblank, ⟨fault, hload, rfl⟩ | ⟨v, hload, hmapping, hvoid, rfl⟩⟩
    · rw [if_neg hblank, hload]
    · rw [if_neg hblank, hload]
      cases v with
      | mapping es => exact absurd rfl (hmapping es)
      | _ => exact if_neg (by simp [hvoid])

lemma read_eq_error : Config.read load t p = .error e ↔ Unset load t p e := by
  constructor
  · intro h
    rcases bind_eq_error.mp h with h | ⟨file, hfile, h⟩
    · obtain ⟨c, hc, rfl⟩ := mapError_eq_error.mp h
      exact .unlocated hc
    rcases bind_eq_error.mp h with h | ⟨root, hroot, h⟩
    · obtain ⟨c, hc, rfl⟩ := mapError_eq_error.mp h
      exact .noRoot (mapError_eq_ok.mp hfile) hc
    rcases bind_eq_error.mp h with h | ⟨there, hthere, h⟩
    · obtain ⟨c, hc, rfl⟩ := mapError_eq_error.mp h
      exact .unseen (mapError_eq_ok.mp hfile) (mapError_eq_ok.mp hroot) hc
    rw [mapError_eq_ok] at hfile hroot hthere
    cases there with
    | false => cases h
    | true =>
      rcases bind_eq_error.mp h with h | ⟨text, htext, h⟩
      · exact .unread hfile hroot hthere (readText_eq_error.mp h)
      have hset : Configured t p file root text := ⟨hfile, hroot, hthere, htext⟩
      rcases bind_eq_error.mp h with h | ⟨es, hes, h⟩
      · obtain ⟨hblank, ⟨fault, hload, rfl⟩ | ⟨v, hload, hmapping, hvoid, rfl⟩⟩ :=
          entriesOf_eq_error.mp h
        · exact .unloaded hset hblank hload
        · exact .noMapping hset hblank hload hmapping hvoid
      · rcases bind_eq_error.mp h with h | ⟨s, -, h⟩
        · exact .outOfRange hset hes h
        · cases h
  · rintro (hfile | ⟨hfile, hroot⟩ | ⟨hfile, hroot, hthere⟩ | ⟨hfile, hroot, hthere, htext⟩ |
      ⟨hset, hblank, hload⟩ | ⟨hset, hblank, hload, hmapping, hvoid⟩ | ⟨hset, hes, hrange⟩)
    · exact bind_eq_error.mpr (.inl (mapError_eq_error.mpr ⟨_, hfile, rfl⟩))
    · refine bind_eq_error.mpr (.inr ⟨_, mapError_eq_ok.mpr hfile, ?_⟩)
      exact bind_eq_error.mpr (.inl (mapError_eq_error.mpr ⟨_, hroot, rfl⟩))
    · refine bind_eq_error.mpr (.inr ⟨_, mapError_eq_ok.mpr hfile, ?_⟩)
      refine bind_eq_error.mpr (.inr ⟨_, mapError_eq_ok.mpr hroot, ?_⟩)
      exact bind_eq_error.mpr (.inl (mapError_eq_error.mpr ⟨_, hthere, rfl⟩))
    · refine bind_eq_error.mpr (.inr ⟨_, mapError_eq_ok.mpr hfile, ?_⟩)
      refine bind_eq_error.mpr (.inr ⟨_, mapError_eq_ok.mpr hroot, ?_⟩)
      refine bind_eq_error.mpr (.inr ⟨_, mapError_eq_ok.mpr hthere, ?_⟩)
      exact bind_eq_error.mpr (.inl (readText_eq_error.mpr htext))
    · rw [read_of_configured hset]
      exact bind_eq_error.mpr (.inl (entriesOf_eq_error.mpr ⟨hblank, .inl ⟨_, hload, rfl⟩⟩))
    · rw [read_of_configured hset]
      exact bind_eq_error.mpr (.inl (entriesOf_eq_error.mpr
        ⟨hblank, .inr ⟨_, hload, hmapping, hvoid, rfl⟩⟩))
    · rw [read_of_configured hset]
      exact bind_eq_error.mpr (.inr ⟨_, hes, map_eq_error.mpr hrange⟩)

/-- The settings for a path are not read, or the log file that they name is not opened. -/
inductive Unsettled (load : Config.Loader) (a : Arguments) (s : Session) (p : Path) : Failure → Prop
  | unset {e : Failure} (h : Unset load s.tree p e) : Unsettled load a s p e
  | unlogged {c : Config} {file : Path} {e : Failure} (hc : Config.read load s.tree p = .ok c)
      (hline : logFileOf a = none) (hfile : c.logPath = some file) (h : Unlogged s.tree file e) :
      Unsettled load a s p e

lemma fails_readConfig : Fails (readConfig load a p) s e ↔ Unsettled load a s p e := by
  rw [readConfig, fails_look_bind, read_eq_error]
  have hlog : ∀ c : Config, Fails (do
      if (logFileOf a).isNone && c.logPath.isSome then Act.configureLog a.verbose c.logPath
      return c) s e ↔
        logFileOf a = none ∧ ∃ file, c.logPath = some file ∧ Unlogged s.tree file e := by
    intro c
    dsimp only
    split
    · next hfile =>
      have hline : logFileOf a = none := by simp_all
      rw [fails_bind_pure, fails_configureLog, and_iff_right hline]
    · next hfile =>
      refine iff_of_false fails_pure ?_
      rintro ⟨hline, file, hpath, -⟩
      simp [hline, hpath] at hfile
  constructor
  · rintro (h | ⟨c, hc, h⟩)
    · exact .unset h
    · obtain ⟨hline, file, hfile, h⟩ := (hlog c).mp h
      exact .unlogged hc hline hfile h
  · rintro (h | ⟨hc, hline, hfile, h⟩)
    · exact .inl h
    · exact .inr ⟨_, hc, (hlog _).mpr ⟨hline, _, hfile, h⟩⟩

lemma fails_readConfig_bind {f : Config → Act α} :
    Fails (readConfig load a p >>= f) s e ↔ Unsettled load a s p e ∨
      ∃ c t, (readConfig load a p).runOn s = (.ok c, t) ∧ Fails (f c) t e := by
  rw [fails_bind, fails_readConfig]

/-! ### Words and lines -/

lemma fails_pathOf_bind {path : Option Text} {f : Path → Act α} :
    Fails (pathOf path >>= f) s e ↔ (path = none ∧ .notPath = e) ∨
      ∃ text, path = some text ∧ Fails (f (Path.ofText text)) s e := by
  cases path with
  | none => simp [pathOf, Fails]
  | some text => simp [pathOf]

/-- A path is not shown, or the line that shows it is not written. -/
inductive Unshown (s : Session) (p : Path) (line : Text → Text) : Failure → Prop
  | lost {e : Failure} (h : shownPath s.tree p = .error e) : Unshown s p line e
  | unprinted {text : Text} {e : Failure} (hshown : shownPath s.tree p = .ok text)
      (h : Unprinted s (line text) e) : Unshown s p line e

/-- The line that shows a path is written. -/
def Shown (s : Session) (p : Path) (line : Text → Text) (t : Session) : Prop :=
  ∃ text, shownPath s.tree p = .ok text ∧ s.unwritten (line text) = none ∧ t = printed s (line text)

lemma fails_show_bind {line : Text → Text} {f : Unit → Act α} :
    Fails (showPath p >>= fun text => Act.print (line text) >>= f) s e ↔
      Unshown s p line e ∨ ∃ t, Shown s p line t ∧ Fails (f ⟨⟩) t e := by
  simp only [showPath, fails_look_bind, fails_print_bind]
  constructor
  · rintro (h | ⟨text, htext, h | ⟨hline, h⟩⟩)
    · exact .inl (.lost h)
    · exact .inl (.unprinted htext h)
    · exact .inr ⟨_, ⟨text, htext, hline, rfl⟩, h⟩
  · rintro ((h | ⟨htext, h⟩) | ⟨t, ⟨text, htext, hline, rfl⟩, h⟩)
    · exact .inl h
    · exact .inr ⟨_, htext, .inl h⟩
    · exact .inr ⟨text, htext, .inr ⟨hline, h⟩⟩

/-! ### Scans -/

/-- A scan stops at its source, or where the type in it is not written. -/
inductive ScanStops (file : Text) (s : Session) : Failure → Prop
  | unread {e : Failure} (h : Unread s.tree (Path.ofText file) e) : ScanStops file s e
  | unprinted {text : Text} {u : Source.CompilationUnit} {e : Failure}
      (hread : s.tree.readText (Path.ofText file) = .ok text) (hunit : Source.unit? text = some u)
      (h : Unprinted s u.toJson.pretty e) : ScanStops file s e

lemma fails_scan {file : Text} : Fails (scan file) s e ↔ ScanStops file s e := by
  rw [scan, fails_readSource_bind]
  constructor
  · rintro (h | ⟨text, htext, h⟩)
    · exact .unread h
    cases hunit : Source.unit? text with
    | none =>
      rw [hunit] at h
      exact absurd (fails_complain_bind.mp h) fails_pure
    | some u =>
      rw [hunit] at h
      exact .unprinted htext hunit ((fails_print_bind.mp h).resolve_right fun h => fails_pure h.2)
  · rintro (h | ⟨htext, hunit, h⟩)
    · exact .inl h
    · refine .inr ⟨_, htext, ?_⟩
      rw [hunit]
      exact fails_print_bind.mpr (.inl h)

/-! ### Resolving -/

/-- The resolver that the settings ask for. -/
def resolverOf (c : Config) : Layout.Resolver := { suffix := c.sections.naming.suffix }

/-- Resolving stops at the workspace, which two dashes stand for, at the settings, at the place of
the test file, or where that is not shown. -/
inductive ResolveStops (load : Config.Loader) (a : Arguments) (file : Text)
    (root override : Option Text) (s : Session) : Failure → Prop
  | noPath (h : root = none) : ResolveStops load a file root override s .notPath
  | unsettled {r : Text} {e : Failure} (hroot : root = some r)
      (h : Unsettled load a s (Path.ofText r) e) : ResolveStops load a file root override s e
  | unplaced {r : Text} {c : Config} {t : Session} {e : Failure} (hroot : root = some r)
      (hc : (readConfig load a (Path.ofText r)).runOn s = (.ok c, t))
      (h : (resolverOf c).testFile t.tree (Path.ofText file) (Path.ofText r) override = .error e) :
      ResolveStops load a file root override s e
  | unshown {r : Text} {c : Config} {t : Session} {p : Path} {e : Failure} (hroot : root = some r)
      (hc : (readConfig load a (Path.ofText r)).runOn s = (.ok c, t))
      (hplace : (resolverOf c).testFile t.tree (Path.ofText file) (Path.ofText r) override = .ok p)
      (h : Unshown t p id e) : ResolveStops load a file root override s e

lemma fails_show {line : Text → Text} {code : ℕ} :
    Fails (showPath p >>= fun text => Act.print (line text) >>= fun _ => pure code) s e ↔
      Unshown s p line e := by
  rw [fails_show_bind, or_iff_left]
  rintro ⟨t, -, h⟩
  exact fails_pure h

lemma fails_resolve {file : Text} {root override : Option Text} :
    Fails (resolve load a file root override) s e ↔ ResolveStops load a file root override s e := by
  rw [resolve, fails_pathOf_bind]
  constructor
  · rintro (⟨hroot, rfl⟩ | ⟨r, hroot, h⟩)
    · exact .noPath hroot
    rcases fails_readConfig_bind.mp h with h | ⟨c, t, hc, h⟩
    · exact .unsettled hroot h
    rcases fails_look_bind.mp h with h | ⟨p, hplace, h⟩
    · exact .unplaced hroot hc h
    · exact .unshown hroot hc hplace (fails_show.mp h)
  · rintro (hroot | ⟨hroot, h⟩ | ⟨hroot, hc, h⟩ | ⟨hroot, hc, hplace, h⟩)
    · exact .inl ⟨hroot, rfl⟩
    all_goals refine .inr ⟨_, hroot, fails_readConfig_bind.mpr ?_⟩
    · exact .inl h
    · exact .inr ⟨_, _, hc, fails_look_bind.mpr (.inl h)⟩
    · exact .inr ⟨_, _, hc, fails_look_bind.mpr (.inr ⟨_, hplace, fails_show.mpr h⟩)⟩

/-! ### Merging -/

/-- A copy of a file is not made. -/
inductive Uncopied (p : Path) (m : Moment) (t : FileTree) : Failure → Prop
  | unseen {e : FileTree.Trouble} (h : t.isFile p = .error e) : Uncopied p m t (.files e)
  | noName {n : Path.NameError} (hfile : t.isFile p = .ok true)
      (h : p.withName (Storage.backupName p m) = .error n) : Uncopied p m t (.name n)
  | unread {copy : Path} {e : FileTree.Trouble} (hfile : t.isFile p = .ok true)
      (hcopy : p.withName (Storage.backupName p m) = .ok copy) (h : t.readOctets p = .error e) :
      Uncopied p m t (.files e)
  | unwritten {copy : Path} {bs : Utf8.Octets} {e : FileTree.Trouble}
      (hfile : t.isFile p = .ok true) (hcopy : p.withName (Storage.backupName p m) = .ok copy)
      (hread : t.readOctets p = .ok bs) (h : t.writeOctets copy bs = .error e) :
      Uncopied p m t (.files e)

lemma fails_backup {m : Moment} : Fails (Storage.backup p m) s e ↔ Uncopied p m s.tree e := by
  have hcopy : ∀ copy : Path, Fails (do
      let octets ← Act.ofFiles ((← get).tree.readOctets p)
      Act.change fun t => t.writeOctets copy octets
      Act.log .debug "workspace" ("Backed up ".toList ++ p.toText ++ " to ".toList ++ copy.toText)
      return some copy) s e ↔
      (∃ c, s.tree.readOctets p = .error c ∧ .files c = e) ∨
        ∃ bs, s.tree.readOctets p = .ok bs ∧ ∃ c, s.tree.writeOctets copy bs = .error c ∧
          .files c = e := fun copy => by
    simp only [fails_get_bind, fails_ofFiles_bind, fails_change_bind, fails_log_bind, fails_pure,
      and_false, exists_false, or_false]
  rw [Storage.backup, fails_get_bind, fails_ofFiles_bind]
  constructor
  · rintro (⟨c, hfile, rfl⟩ | ⟨there, hfile, h⟩)
    · exact .unseen hfile
    cases there with
    | false => exact absurd h fails_pure
    | true =>
      simp only [Bool.not_true, Bool.false_eq_true, if_false] at h
      cases hname : p.withName (Storage.backupName p m) with
      | error n =>
        rw [hname] at h
        obtain rfl := fails_throw_bind.mp h
        exact .noName hfile hname
      | ok copy =>
        rw [hname] at h
        rcases (hcopy copy).mp (fails_pure_bind.mp h) with
          ⟨c, hread, rfl⟩ | ⟨bs, hread, c, hwrite, rfl⟩
        · exact .unread hfile hname hread
        · exact .unwritten hfile hname hread hwrite
  · rintro (hfile | ⟨hfile, hname⟩ | ⟨hfile, hname, hread⟩ | ⟨hfile, hname, hread, hwrite⟩)
    · exact .inl ⟨_, hfile, rfl⟩
    all_goals
      refine .inr ⟨true, hfile, ?_⟩
      simp only [Bool.not_true, Bool.false_eq_true, if_false, hname]
    · exact fails_throw_bind.mpr rfl
    · exact fails_pure_bind.mpr ((hcopy _).mpr (.inl ⟨_, hread, rfl⟩))
    · exact fails_pure_bind.mpr ((hcopy _).mpr (.inr ⟨_, hread, _, hwrite, rfl⟩))

/-- There is nothing at a path, or a file. -/
def Free (t : FileTree) (p : Path) : Prop := t.exists? p = .ok false ∨ t.isFile p = .ok true

/-- A file is not saved. -/
inductive Unsaved (p : Path) (content : Text) (t : FileTree) : Failure → Prop
  | unseen {e : FileTree.Trouble} (h : t.exists? p = .error e) : Unsaved p content t (.files e)
  | notAFile (hthere : t.exists? p = .ok true) (h : t.isFile p = .ok false) :
      Unsaved p content t (.notAFile p)
  | above {e : FileTree.Trouble} (hfree : Free t p) (h : t.makeDirs p.parent = .error e) :
      Unsaved p content t (.files e)
  | unwritten {u : FileTree} {e : FileTree.Trouble} (hfree : Free t p)
      (hdirs : t.makeDirs p.parent = .ok u) (h : u.writeOctets p (Utf8.encode content) = .error e) :
      Unsaved p content t (.files e)

/-- What is there is a file or not, and what is not there is none. -/
lemma isFile_of_exists? {there : Bool} (h : t.exists? p = .ok there) :
    ∃ file, t.isFile p = .ok file ∧ (file = true → there = true) := by
  unfold FileTree.exists? FileTree.test at h
  unfold FileTree.isFile FileTree.test
  split at h
  · obtain rfl := Except.ok.inj h
    exact ⟨_, rfl, fun _ => rfl⟩
  · cases h
  · exact ⟨false, rfl, nofun⟩

lemma exists?_of_isFile (h : t.isFile p = .ok true) : t.exists? p = .ok true := by
  unfold FileTree.isFile FileTree.test at h
  unfold FileTree.exists? FileTree.test
  split at h
  · rfl
  · cases h
  · cases h

lemma Free.seen (h : Free t p) : ∃ there file, t.exists? p = .ok there ∧ t.isFile p = .ok file ∧
    (there && !file) = false := by
  rcases h with h | h
  · obtain ⟨file, hfile, -⟩ := isFile_of_exists? h
    exact ⟨false, file, h, hfile, rfl⟩
  · exact ⟨true, true, exists?_of_isFile h, h, rfl⟩

lemma fails_save_of_free {content : Text} (h : Free s.tree p) :
    Fails (Storage.save p content) s e ↔
      (∃ c, s.tree.makeDirs p.parent = .error c ∧ .files c = e) ∨
        ∃ u, s.tree.makeDirs p.parent = .ok u ∧
          ∃ c, u.writeOctets p (Utf8.encode content) = .error c ∧ .files c = e := by
  obtain ⟨there, file, hthere, hfile, hno⟩ := h.seen
  simp only [Storage.save, fails_get_bind, fails_ofFiles_bind, hthere, hfile, reduceCtorEq,
    false_and, exists_false, false_or, Except.ok.injEq, exists_eq_left', hno, Bool.false_eq_true,
    if_false, fails_change_bind, fails_log_bind, fails_pure, and_false, or_false]

lemma fails_save_of_dir {content : Text} (hthere : s.tree.exists? p = .ok true)
    (hfile : s.tree.isFile p = .ok false) :
    Fails (Storage.save p content) s e ↔ .notAFile p = e := by
  simp only [Storage.save, fails_get_bind, fails_ofFiles_bind, hthere, hfile, reduceCtorEq,
    false_and, exists_false, false_or, Except.ok.injEq, exists_eq_left', Bool.not_false,
    Bool.and_true, if_true, fails_throw_bind]

lemma fails_save {content : Text} :
    Fails (Storage.save p content) s e ↔ Unsaved p content s.tree e := by
  constructor
  · intro h
    by_cases hfree : Free s.tree p
    · rcases (fails_save_of_free hfree).mp h with ⟨c, hdirs, rfl⟩ | ⟨u, hdirs, c, hwritten, rfl⟩
      · exact .above hfree hdirs
      · exact .unwritten hfree hdirs hwritten
    cases hthere : s.tree.exists? p with
    | error c =>
      rw [Storage.save, fails_get_bind, fails_ofFiles_bind, hthere] at h
      obtain ⟨c', hc, rfl⟩ | ⟨there, hnone, -⟩ := h
      · exact .unseen (hthere.trans hc)
      · cases hnone
    | ok there =>
      obtain ⟨file, hfile, -⟩ := isFile_of_exists? hthere
      obtain ⟨rfl, rfl⟩ : there = true ∧ file = false := by
        cases there <;> cases file <;> simp_all [Free]
      obtain rfl := (fails_save_of_dir hthere hfile).mp h
      exact .notAFile hthere hfile
  · rintro (hthere | ⟨hthere, hfile⟩ | ⟨hfree, hdirs⟩ | ⟨hfree, hdirs, hwritten⟩)
    · rw [Storage.save, fails_get_bind, fails_ofFiles_bind]
      exact .inl ⟨_, hthere, rfl⟩
    · exact (fails_save_of_dir hthere hfile).mpr rfl
    · exact (fails_save_of_free hfree).mpr (.inl ⟨_, hdirs, rfl⟩)
    · exact (fails_save_of_free hfree).mpr (.inr ⟨_, hdirs, _, hwritten, rfl⟩)

/-- The texts of a merge are not read; two dashes stand for the path of the fragment. -/
inductive Untexted (existing : Text) (fragment : Option Text) (t : FileTree) : Failure → Prop
  | unread {e : Failure} (h : Unread t (Path.ofText existing) e) : Untexted existing fragment t e
  | noPath {old : Text} (hold : t.readText (Path.ofText existing) = .ok old) (h : fragment = none) :
      Untexted existing fragment t .notPath
  | noFragment {old file : Text} {e : Failure}
      (hold : t.readText (Path.ofText existing) = .ok old) (hfile : fragment = some file)
      (h : Unread t (Path.ofText file) e) : Untexted existing fragment t e

/-- The texts of a merge are read. -/
structure Texted (existing : Text) (fragment : Option Text) (t : FileTree) (old new : Text) :
    Prop where
  old : t.readText (Path.ofText existing) = .ok old
  new : ∃ file, fragment = some file ∧ t.readText (Path.ofText file) = .ok new

/-- The session behind the log of a merge. -/
def mergeLogged (old new : Text) (s : Session) : Session :=
  if (Merge.closingRow? (Merge.mergeImports old new)).isNone then
    s.log ⟨.debug, Log.loggerName (some "merge.fragments".toList),
      "No class closing brace found; appending fragment".toList⟩
  else s

lemma runOn_logMerge (old new : Text) (s : Session) :
    (logMerge old new).runOn s = (.ok ⟨⟩, mergeLogged old new s) := by
  unfold logMerge mergeLogged
  split <;> rfl

def backupLine (path : Text) : Text := "Backup written to ".toList ++ path

def mergedLine (path : Text) : Text := "Merged tests written to ".toList ++ path

/-- A backup stops. -/
inductive BackupStops (p : Path) (s : Session) : Failure → Prop
  | uncopied {e : Failure} (h : Uncopied p s.clock.moment s.tree e) : BackupStops p s e
  | unshown {copy : Path} {t : Session} {e : Failure}
      (hcopy : (Storage.backup p s.clock.moment).runOn s = (.ok (some copy), t))
      (h : Unshown t copy backupLine e) : BackupStops p s e

/-- A backup is made and named, if there is a file. -/
inductive BackedUp (p : Path) (s : Session) : Session → Prop
  | nothing {t : Session} (h : (Storage.backup p s.clock.moment).runOn s = (.ok none, t)) :
      BackedUp p s t
  | copied {copy : Path} {t u : Session}
      (hcopy : (Storage.backup p s.clock.moment).runOn s = (.ok (some copy), t))
      (h : Shown t copy backupLine u) : BackedUp p s u

/-- What is saved stops, or is not named. -/
inductive SaveStops (p : Path) (content : Text) (s : Session) : Failure → Prop
  | unsaved {e : Failure} (h : Unsaved p content s.tree e) : SaveStops p content s e
  | unshown {new : Bool} {t : Session} {e : Failure}
      (hsave : (Storage.save p content).runOn s = (.ok new, t)) (h : Unshown t p mergedLine e) :
      SaveStops p content s e

/-- A merge stops at its texts, where the merged text is not written to the output, at the backup or
at saving. -/
inductive MergeStops (existing : Text) (fragment : Option Text) (write backup : Bool)
    (s : Session) : Failure → Prop
  | untexted {e : Failure} (h : Untexted existing fragment s.tree e) :
      MergeStops existing fragment write backup s e
  | unprinted {old new : Text} {e : Failure} (htexts : Texted existing fragment s.tree old new)
      (hwrite : write = false)
      (h : Unprinted (mergeLogged old new s) (Merge.mergeGenerated old new) e) :
      MergeStops existing fragment write backup s e
  | backup {old new : Text} {e : Failure} (htexts : Texted existing fragment s.tree old new)
      (hwrite : write = true) (hbackup : backup = true)
      (h : BackupStops (Path.ofText existing) (mergeLogged old new s) e) :
      MergeStops existing fragment write backup s e
  | save {old new : Text} {t : Session} {e : Failure}
      (htexts : Texted existing fragment s.tree old new) (hwrite : write = true)
      (hbackup : if backup then BackedUp (Path.ofText existing) (mergeLogged old new s) t
        else t = mergeLogged old new s)
      (h : SaveStops (Path.ofText existing) (Merge.mergeGenerated old new) t e) :
      MergeStops existing fragment write backup s e

lemma fails_texts_bind {existing : Text} {fragment : Option Text} {f : Text → Text → Act α} :
    Fails (do
      let old ← readSource existing
      let path ← pathOf fragment
      let new ← Act.look fun t => t.readText path
      f old new) s e ↔
      Untexted existing fragment s.tree e ∨
        ∃ old new, Texted existing fragment s.tree old new ∧ Fails (f old new) s e := by
  rw [fails_readSource_bind]
  constructor
  · rintro (h | ⟨old, hold, h⟩)
    · exact .inl (.unread h)
    rcases fails_pathOf_bind.mp h with ⟨hfile, rfl⟩ | ⟨file, hfile, h⟩
    · exact .inl (.noPath hold hfile)
    rcases fails_look_bind.mp h with h | ⟨new, hnew, h⟩
    · exact .inl (.noFragment hold hfile (readText_eq_error.mp h))
    · exact .inr ⟨old, new, ⟨hold, file, hfile, hnew⟩, h⟩
  · rintro ((h | ⟨hold, hfile⟩ | ⟨hold, hfile, h⟩) | ⟨old, new, ⟨hold, file, hfile, hnew⟩, h⟩)
    · exact .inl h
    · exact .inr ⟨_, hold, fails_pathOf_bind.mpr (.inl ⟨hfile, rfl⟩)⟩
    · refine .inr ⟨_, hold, fails_pathOf_bind.mpr (.inr ⟨_, hfile, ?_⟩)⟩
      exact fails_look_bind.mpr (.inl (readText_eq_error.mpr h))
    · refine .inr ⟨_, hold, fails_pathOf_bind.mpr (.inr ⟨_, hfile, ?_⟩)⟩
      exact fails_look_bind.mpr (.inr ⟨_, hnew, h⟩)

lemma fails_saving {content : Text} :
    Fails (do
      let _ ← Storage.save p content
      Act.print ("Merged tests written to ".toList ++ (← showPath p))
      return 0 : Act ℕ) s e ↔ SaveStops p content s e := by
  rw [fails_bind, fails_save]
  constructor
  · rintro (h | ⟨new, t, hsave, h⟩)
    · exact .unsaved h
    · exact .unshown hsave (fails_show.mp h)
  · rintro (h | ⟨hsave, h⟩)
    · exact .inl h
    · exact .inr ⟨_, _, hsave, fails_show.mpr h⟩

lemma fails_backup_bind {x : Act α} :
    Fails (do
      match ← Storage.backup p s.clock.moment with
      | none => x
      | some copy =>
        Act.print ("Backup written to ".toList ++ (← showPath copy))
        x) s e ↔ BackupStops p s e ∨ ∃ t, BackedUp p s t ∧ Fails x t e := by
  rw [fails_bind, fails_backup]
  constructor
  · rintro (h | ⟨_ | copy, t, hcopy, h⟩)
    · exact .inl (.uncopied h)
    · exact .inr ⟨t, .nothing hcopy, h⟩
    · rcases fails_show_bind.mp h with h | ⟨u, hshown, h⟩
      · exact .inl (.unshown hcopy h)
      · exact .inr ⟨u, .copied hcopy hshown, h⟩
  · rintro ((h | ⟨hcopy, h⟩) | ⟨t, hcopy | ⟨hcopy, hshown⟩, h⟩)
    · exact .inl h
    · exact .inr ⟨_, _, hcopy, fails_show_bind.mpr (.inl h)⟩
    · exact .inr ⟨_, _, hcopy, h⟩
    · exact .inr ⟨_, _, hcopy, fails_show_bind.mpr (.inr ⟨t, hshown, h⟩)⟩

lemma fails_logMerge_bind {old new : Text} {x : Act α} :
    Fails (logMerge old new >>= fun _ => x) s e ↔ Fails x (mergeLogged old new s) e := by
  rw [Fails, runOn_bind_ok (runOn_logMerge old new s)]
  rfl

lemma fails_merge {existing : Text} {fragment : Option Text} {write backup : Bool} :
    Fails (merge existing fragment write backup) s e ↔
      MergeStops existing fragment write backup s e := by
  rw [merge, fails_texts_bind]
  simp only [fails_logMerge_bind]
  constructor
  · rintro (h | ⟨old, new, htexts, h⟩)
    · exact .untexted h
    cases write with
    | false =>
      exact .unprinted htexts rfl ((fails_print_bind.mp h).resolve_right fun h => fails_pure h.2)
    | true =>
      cases backup with
      | false => exact .save htexts rfl rfl (fails_saving.mp h)
      | true =>
        rcases fails_backup_bind.mp (fails_get_bind.mp h) with h | ⟨t, hbackup, h⟩
        · exact .backup htexts rfl rfl h
        · exact .save htexts rfl hbackup (fails_saving.mp h)
  · rintro (h | ⟨htexts, rfl, h⟩ | ⟨htexts, rfl, rfl, h⟩ | ⟨htexts, rfl, hbackup, h⟩)
    · exact .inl h
    · exact .inr ⟨_, _, htexts, fails_print_bind.mpr (.inl h)⟩
    · exact .inr ⟨_, _, htexts, fails_get_bind.mpr (fails_backup_bind.mpr (.inl h))⟩
    · refine .inr ⟨_, _, htexts, ?_⟩
      cases backup with
      | false =>
        obtain rfl := hbackup
        exact fails_saving.mpr h
      | true =>
        exact fails_get_bind.mpr (fails_backup_bind.mpr (.inr ⟨_, hbackup, fails_saving.mpr h⟩))

/-! ### Dependencies -/

/-- The session behind the log of the targets that have no source. -/
def unfoundLogged (found : List (Text × Path)) : List Text → Session → Session
  | [], s => s
  | t :: ts, s => unfoundLogged found ts <|
    if found.any fun f => f.1 = t then s
    else s.log ⟨.debug, Log.loggerName (some "merge.directives".toList),
      "No workspace source found for import ".toList ++ t⟩

lemma runOn_logUnfound (found : List (Text × Path)) (targets : List Text) (s : Session) :
    (logUnfound found targets).runOn s = (.ok ⟨⟩, unfoundLogged found targets s) := by
  induction targets generalizing s with
  | nil => rfl
  | cons t ts ih =>
    unfold logUnfound unfoundLogged
    dsimp only
    cases found.any fun f => f.1 = t with
    | true => exact ih s
    | false =>
      simp only [Bool.not_false, if_true, Bool.false_eq_true, if_false]
      rw [runOn_bind_ok (runOn_log _ _ _ _), ih]

def foundLine (target path : Text) : Text := target ++ '\t' :: path

/-- One of the lines that name what is found is not written. -/
inductive FoundStops : List (Text × Path) → Session → Failure → Prop
  | here {target : Text} {p : Path} {fs : List (Text × Path)} {s : Session} {e : Failure}
      (h : Unshown s p (foundLine target) e) : FoundStops ((target, p) :: fs) s e
  | later {target : Text} {p : Path} {fs : List (Text × Path)} {s t : Session} {e : Failure}
      (hshown : Shown s p (foundLine target) t) (h : FoundStops fs t e) :
      FoundStops ((target, p) :: fs) s e

lemma fails_printFound {found : List (Text × Path)} :
    Fails (printFound found) s e ↔ FoundStops found s e := by
  induction found generalizing s with
  | nil => exact iff_of_false fails_pure nofun
  | cons f fs ih =>
    obtain ⟨target, p⟩ := f
    constructor
    · intro h
      rcases fails_show_bind.mp h with h | ⟨t, hshown, h⟩
      · exact .here h
      · exact .later hshown (ih.mp h)
    · rintro (h | ⟨hshown, h⟩)
      · exact fails_show_bind.mpr (.inl h)
      · exact fails_show_bind.mpr (.inr ⟨_, hshown, ih.mpr h⟩)

/-- The import targets of a text, without those of libraries. -/
def targetsOf (c : Config) (text : Text) : List Text :=
  Dependency.targets text c.sections.naming.libraries

/-- Finding dependencies stops at the workspace, which two dashes stand for, at the settings, at the
source, at the workspace's files, or where what is found is not named. -/
inductive DepsStops (load : Config.Loader) (a : Arguments) (file : Text) (root : Option Text)
    (s : Session) : Failure → Prop
  | noPath (h : root = none) : DepsStops load a file root s .notPath
  | unsettled {r : Text} {e : Failure} (hroot : root = some r)
      (h : Unsettled load a s (Path.ofText r) e) : DepsStops load a file root s e
  | unread {r : Text} {c : Config} {t : Session} {e : Failure} (hroot : root = some r)
      (hc : (readConfig load a (Path.ofText r)).runOn s = (.ok c, t))
      (h : Unread t.tree (Path.ofText file) e) : DepsStops load a file root s e
  | unsearched {r text : Text} {c : Config} {t : Session} {e : FileTree.Trouble}
      (hroot : root = some r) (hc : (readConfig load a (Path.ofText r)).runOn s = (.ok c, t))
      (htext : t.tree.readText (Path.ofText file) = .ok text)
      (h : Dependency.lookup t.tree (Path.ofText r) (targetsOf c text) = .error e) :
      DepsStops load a file root s (.files e)
  | unnamed {r text : Text} {c : Config} {t : Session} {found : List (Text × Path)} {e : Failure}
      (hroot : root = some r) (hc : (readConfig load a (Path.ofText r)).runOn s = (.ok c, t))
      (htext : t.tree.readText (Path.ofText file) = .ok text)
      (hfound : Dependency.lookup t.tree (Path.ofText r) (targetsOf c text) = .ok found)
      (h : FoundStops found (unfoundLogged found (targetsOf c text) t) e) :
      DepsStops load a file root s e

lemma fails_naming {found : List (Text × Path)} {targets : List Text} :
    Fails (do
      logUnfound found targets
      printFound found
      return 0 : Act ℕ) s e ↔ FoundStops found (unfoundLogged found targets s) e := by
  rw [Fails, runOn_bind_ok (runOn_logUnfound found targets s)]
  exact fails_bind_pure.trans fails_printFound

lemma fails_deps {file : Text} {root : Option Text} :
    Fails (deps load a file root) s e ↔ DepsStops load a file root s e := by
  rw [deps, fails_pathOf_bind]
  constructor
  · rintro (⟨hroot, rfl⟩ | ⟨r, hroot, h⟩)
    · exact .noPath hroot
    rcases fails_readConfig_bind.mp h with h | ⟨c, t, hc, h⟩
    · exact .unsettled hroot h
    rcases fails_readSource_bind.mp h with h | ⟨text, htext, h⟩
    · exact .unread hroot hc h
    rcases fails_ofFiles_bind.mp (fails_get_bind.mp h) with ⟨d, hd, rfl⟩ | ⟨found, hfound, h⟩
    · exact .unsearched hroot hc htext hd
    · exact .unnamed hroot hc htext hfound (fails_naming.mp h)
  · rintro (hroot | ⟨hroot, h⟩ | ⟨hroot, hc, h⟩ | ⟨hroot, hc, htext, h⟩ |
      ⟨hroot, hc, htext, hfound, h⟩)
    · exact .inl ⟨hroot, rfl⟩
    all_goals refine .inr ⟨_, hroot, fails_readConfig_bind.mpr ?_⟩
    · exact .inl h
    all_goals refine .inr ⟨_, _, hc, fails_readSource_bind.mpr ?_⟩
    · exact .inl h
    · exact .inr ⟨_, htext, fails_get_bind.mpr (fails_ofFiles_bind.mpr (.inl ⟨_, h, rfl⟩))⟩
    · refine .inr ⟨_, htext, fails_get_bind.mpr (fails_ofFiles_bind.mpr (.inr ⟨_, hfound, ?_⟩))⟩
      exact fails_naming.mpr h

/-! ### Tests -/

/-- A command gives no text: it is not started, it takes too long, waiting for it breaks off, or it
fails without a word. -/
inductive Unanswered (i : Build.Invocation) : Child.Start → Failure → Prop
  | refused (reason : Text) : Unanswered i (.refused reason)
      (.launch ("Unable to start '".toList ++ i.command ++ "': ".toList ++ reason) i.argv none)
  | failed (e : Failure) : Unanswered i (.failed e) e
  | late {b : Child.Behaviour} (h : b.wait = .late) :
      Unanswered i (.started b) (.timedOut i.timeout i.argv)
  | broke {b : Child.Behaviour} {e : Failure} (h : b.wait = .broke e) : Unanswered i (.started b) e
  | silent {b : Child.Behaviour} {code : Int} (hcode : code ≠ 0) (h : b.wait = .ended [] [] code) :
      Unanswered i (.started b) (.launch (Child.exitedText (some code)) i.argv (some code))

lemma reply_eq_error {i : Build.Invocation} {start : Child.Start} :
    (Child.reply i start).2 = .error e ↔ Unanswered i start e := by
  constructor
  · intro h
    rcases start with reason | f | b
    · rw [Child.reply_of_error (Child.run_refused reason)] at h
      obtain rfl := Except.error.inj h
      exact .refused reason
    · rw [Child.reply_of_error (Child.run_failed f)] at h
      obtain rfl := Except.error.inj h
      exact .failed f
    rcases hwait : b.wait with ⟨output, errors, code⟩ | _ | f
    · rw [Child.reply_ended hwait] at h
      split at h
      · next hsilent =>
        obtain ⟨hcode, rfl, rfl⟩ := hsilent
        obtain rfl := Except.error.inj h
        exact .silent hcode hwait
      · cases h
    · rw [Child.reply_of_error (Child.run_late hwait)] at h
      obtain rfl := Except.error.inj h
      exact .late hwait
    · rw [Child.reply_of_error (Child.run_broke hwait)] at h
      obtain rfl := Except.error.inj h
      exact .broke hwait
  · rintro (reason | _ | hwait | hwait | ⟨hcode, hwait⟩)
    · rw [Child.reply_of_error (Child.run_refused reason)]
    · rw [Child.reply_of_error (Child.run_failed _)]
    · rw [Child.reply_of_error (Child.run_late hwait)]
    · rw [Child.reply_of_error (Child.run_broke hwait)]
    · rw [Child.reply_ended hwait, if_pos ⟨hcode, rfl, rfl⟩]

/-- The session behind the log that tests are run. -/
def announced (tool : Build.Tool) (target : Option Text) (s : Session) : Session :=
  s.log ⟨.info, Log.loggerName (some "build".toList), Session.announcement tool target⟩

/-- Running tests stops before a command is started, or with the command. -/
inductive RunStops (launch : Launcher) (root : Path) (settings : Build.Settings)
    (target : Option Text) (s : Session) : Failure → Prop
  | unprepared {e : Failure} (h : Build.prepare s.tree false root settings target = .error e) :
      RunStops launch root settings target s e
  | unanswered {tool : Build.Tool} {i : Build.Invocation} {e : Failure}
      (hplan : Build.prepare s.tree false root settings target = .ok (tool, i))
      (h : Unanswered i (launch (announced tool target s).tree i).2 e) :
      RunStops launch root settings target s e

lemma runOn_logChild (events : List Child.Event) (s : Session) :
    ∃ t, (Session.logChild events).runOn s = (.ok ⟨⟩, t) := by
  induction events generalizing s with
  | nil => exact ⟨s, rfl⟩
  | cons event events ih =>
    unfold Session.logChild
    cases event with
    | logged level message =>
      rw [runOn_bind_ok (runOn_log _ _ _ _)]
      exact ih _
    | signalled | waited | drained | closed => exact ih s

lemma fails_logChild_bind {events : List Child.Event} {x : Act α} {P : Prop}
    (h : ∀ t, Fails x t e ↔ P) : Fails (Session.logChild events >>= fun _ => x) s e ↔ P := by
  obtain ⟨t, ht⟩ := runOn_logChild events s
  rw [Fails, runOn_bind_ok ht]
  exact h t

lemma runStops_iff {root : Path} {settings : Build.Settings} {target : Option Text} :
    RunStops launch root settings target s e ↔
      Build.prepare s.tree false root settings target = .error e ∨
      ∃ plan, Build.prepare s.tree false root settings target = .ok plan ∧
        Unanswered plan.2 (launch (announced plan.1 target s).tree plan.2).2 e := by
  constructor
  · rintro (h | ⟨hplan, h⟩)
    · exact .inl h
    · exact .inr ⟨_, hplan, h⟩
  · rintro (h | ⟨_, hplan, h⟩)
    · exact .unprepared h
    · exact .unanswered hplan h

/-- Once the command has answered, nothing stops a run of tests. -/
lemma fails_runTests {root : Path} {settings : Build.Settings} {target : Option Text} :
    Fails (Session.runTests launch root settings target) s e ↔
      RunStops launch root settings target s e := by
  rw [Session.runTests, fails_look_bind, runStops_iff]
  refine or_congr_right (exists_congr fun plan => and_congr_right fun _ => ?_)
  obtain ⟨tool, i⟩ := plan
  refine fails_log_bind.trans (fails_get_bind.trans (fails_modify_bind.trans ?_))
  refine fails_logChild_bind fun t => Iff.trans ?_ reply_eq_error
  rw [fails_bind, fails_ofExcept]
  refine or_iff_left ?_
  rintro ⟨output, u, -, h⟩
  exact absurd (fails_log_bind.mp (fails_log_bind.mp h)) fails_pure

/-- Running tests stops at the settings, at the name of a target, which two dashes stand for, at the
run, or where its result is not written. -/
inductive TestStops (load : Config.Loader) (launch : Launcher) (a : Arguments) (root : Text)
    (target : Option (Option Text)) (s : Session) : Failure → Prop
  | unsettled {e : Failure} (h : Unsettled load a s (Path.ofText root) e) :
      TestStops load launch a root target s e
  | noName {c : Config} {t : Session}
      (hc : (readConfig load a (Path.ofText root)).runOn s = (.ok c, t))
      (h : target = some none) : TestStops load launch a root target s .notText
  | run {c : Config} {t : Session} {e : Failure}
      (hc : (readConfig load a (Path.ofText root)).runOn s = (.ok c, t))
      (hname : target ≠ some none)
      (h : RunStops launch (Path.ofText root) c.sections.build target.join t e) :
      TestStops load launch a root target s e
  | unprinted {c : Config} {t u : Session} {result : Build.Result} {e : Failure}
      (hc : (readConfig load a (Path.ofText root)).runOn s = (.ok c, t))
      (hname : target ≠ some none)
      (hresult : (Session.runTests launch (Path.ofText root) c.sections.build
        target.join).runOn t = (.ok result, u))
      (h : Unprinted u result.summary e) : TestStops load launch a root target s e
  | unpraised {c : Config} {t u : Session} {result : Build.Result} {e : Failure}
      (hc : (readConfig load a (Path.ofText root)).runOn s = (.ok c, t))
      (hname : target ≠ some none)
      (hresult : (Session.runTests launch (Path.ofText root) c.sections.build
        target.join).runOn t = (.ok result, u))
      (hsummary : u.unwritten result.summary = none) (hpassed : result.passed = true)
      (h : Unprinted (printed u result.summary) "All tests passed!".toList e) :
      TestStops load launch a root target s e

lemma fails_nameOf_bind {target : Option (Option Text)} {f : Option Text → Act α} :
    Fails (nameOf target >>= f) s e ↔ (target = some none ∧ .notText = e) ∨
      target ≠ some none ∧ Fails (f target.join) s e := by
  rcases target with _ | _ | name
  · simp [nameOf]
  · simp [nameOf, fails_throw]
  · simp [nameOf]

lemma fails_test {root : Text} {target : Option (Option Text)} :
    Fails (test load launch a root target) s e ↔ TestStops load launch a root target s e := by
  rw [test, fails_readConfig_bind]
  constructor
  · rintro (h | ⟨c, t, hc, h⟩)
    · exact .unsettled h
    rcases fails_nameOf_bind.mp h with ⟨hname, rfl⟩ | ⟨hname, h⟩
    · exact .noName hc hname
    rcases fails_bind.mp h with h | ⟨result, u, hresult, h⟩
    · exact .run hc hname (fails_runTests.mp h)
    rcases fails_print_bind.mp h with h | ⟨hsummary, h⟩
    · exact .unprinted hc hname hresult h
    split at h
    · next hpassed =>
      refine .unpraised hc hname hresult hsummary hpassed ?_
      exact (fails_print_bind.mp h).resolve_right fun h => fails_pure h.2
    · exact absurd (fails_complain_bind.mp h) fails_pure
  · rintro (h | ⟨hc, hname⟩ | ⟨hc, hname, h⟩ | ⟨hc, hname, hresult, h⟩ |
      ⟨hc, hname, hresult, hsummary, hpassed, h⟩)
    · exact .inl h
    all_goals refine .inr ⟨_, _, hc, fails_nameOf_bind.mpr ?_⟩
    · exact .inl ⟨hname, rfl⟩
    all_goals refine .inr ⟨hname, fails_bind.mpr ?_⟩
    · exact .inl (fails_runTests.mpr h)
    all_goals refine .inr ⟨_, _, hresult, fails_print_bind.mpr ?_⟩
    · exact .inl h
    · refine .inr ⟨hsummary, ?_⟩
      rw [if_pos hpassed]
      exact fails_print_bind.mpr (.inl h)

/-! ### Commands -/

/-- What stops a command. -/
def Stops (load : Config.Loader) (launch : Launcher) (a : Arguments) (s : Session) :
    Failure → Prop :=
  match a.command with
  | .scan file => ScanStops file s
  | .resolve file root override => ResolveStops load a file root override s
  | .merge existing fragment write backup => MergeStops existing fragment write backup s
  | .deps file root => DepsStops load a file root s
  | .test root target => TestStops load launch a root target s

/-- A command fails with just what stops it. -/
lemma fails_runCommand : Fails (runCommand load launch a) s e ↔ Stops load launch a s e := by
  unfold runCommand Stops
  cases a.command with
  | scan => exact fails_scan
  | resolve => exact fails_resolve
  | merge => exact fails_merge
  | deps => exact fails_deps
  | test => exact fails_test

end TestWeaver.Proofs.CommandStops
