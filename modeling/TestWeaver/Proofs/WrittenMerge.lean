import TestWeaver.CommandLine.Run
import TestWeaver.Proofs.ActionRuns
import TestWeaver.Proofs.FileWalks
import TestWeaver.Proofs.ImportPlace
import TestWeaver.Proofs.MethodPlace
import TestWeaver.Proofs.SettingsRead
import TestWeaver.Proofs.Utf8Octets

/-!
The files that a written merge leaves.

A file is read as text, in which a carriage return is a newline, and the merged text is written as
it is. Without the rows put in, the new octets are therefore those of the old text with newlines
alone: all carriage returns of the old octets are lost. A copy is made of octets and keeps them.
-/

namespace TestWeaver.Proofs.WrittenMerge

open Merge Text RowText Splice Utf8Octets

/-! ### Carriage returns -/

lemma unifyNewlines_cons {c : Char} (h : c ≠ '\r') (s : Text) :
    Utf8.unifyNewlines (c :: s) = c :: Utf8.unifyNewlines s := by
  rw [Utf8.unifyNewlines]
  · rw [if_neg h]
  · intro s' hc _
    exact h hc

lemma not_mem_unifyNewlines (s : Text) : '\r' ∉ Utf8.unifyNewlines s := by
  fun_induction Utf8.unifyNewlines s with
  | case1 => simp
  | case2 s ih => simpa using ih
  | case3 c s h ih =>
    rw [List.mem_cons, not_or]
    refine ⟨?_, ih⟩
    split
    · decide
    · next hc => exact fun h => hc h.symm

/-- Texts without carriage returns are read as they are. -/
lemma unifyNewlines_of_not_mem {s : Text} (h : '\r' ∉ s) : Utf8.unifyNewlines s = s := by
  induction s with
  | nil => rfl
  | cons c s ih =>
    obtain ⟨hc, hs⟩ := List.ne_and_not_mem_of_not_mem_cons h
    rw [unifyNewlines_cons hc.symm, ih hs]

/-! ### Rows of octets -/

/-- The octet of a newline, which ends rows. -/
def newline : UInt8 := 10

def carriageReturn : UInt8 := 13

/-- The octets without the rows of an insertion. -/
def takeOut (i : Insertion) (bs : Utf8.Octets) : Utf8.Octets :=
  let rows := bs.splitOn newline
  [newline].intercalate (rows.take i.position ++ rows.drop (i.position + i.added.length))

lemma mem_newline {s : Text} : newline ∈ Utf8.encode s ↔ '\n' ∈ s :=
  mem_encode_ascii (c := '\n') (by decide)

lemma mem_carriageReturn {s : Text} : carriageReturn ∈ Utf8.encode s ↔ '\r' ∈ s :=
  mem_encode_ascii (c := '\r') (by decide)

lemma encode_unrows (rs : List Text) :
    Utf8.encode (unrows rs) = [newline].intercalate (rs.map Utf8.encode) := by
  induction rs with
  | nil => rfl
  | cons r rs ih =>
    rcases rs with _ | ⟨r', rs⟩
    · simp [joinWith]
    · rw [unrows, joinWith_cons r (List.cons_ne_nil r' rs), List.map_cons, List.map_cons,
        List.intercalate_cons_cons, ← List.map_cons, ← ih]
      simp [Utf8.encode, Utf8.encodeChar, newline]

lemma splitOn_encode (s : Text) :
    (Utf8.encode s).splitOn newline = (rows s).map Utf8.encode := by
  have hne : (rows s).map Utf8.encode ≠ [] := by simpa using splitAt_ne_nil '\n' s
  have hfree : ∀ l ∈ (rows s).map Utf8.encode, newline ∉ l := by
    intro l hl
    obtain ⟨r, hr, rfl⟩ := List.mem_map.mp hl
    exact fun hmem => rows_newline hr (mem_newline.mp hmem)
  rw [← List.splitOn_intercalate newline hfree hne, ← encode_unrows, unrows_rows]

/-- Rows put in are taken out again. -/
lemma takeOut_encode {i : Insertion} {s t : Text} (h : rows t = i.apply (rows s))
    (hi : i.position ≤ (rows s).length) : takeOut i (Utf8.encode t) = Utf8.encode s := by
  have hundo := Insertion.undo_apply hi
  rw [takeOut, splitOn_encode, ← List.map_take, ← List.map_drop, ← List.map_append, ← encode_unrows,
    h]
  show Utf8.encode (unrows (i.undo (i.apply (rows s)))) = _
  rw [hundo, unrows_rows]

/-! ### The rows that a merge puts in -/

/-- The rows that come with the methods; without a closing row they go to the end. -/
def methodInsertion (existing fragment : Text) : Insertion :=
  (fragmentInsertion? existing fragment).getD ⟨(rows existing).length, [] :: rows fragment⟩

/-- All rows that a merge puts in, the imports first. -/
def insertions (existing fragment : Text) : List Insertion :=
  (importInsertion? existing fragment).toList ++
    [methodInsertion (mergeImports existing fragment) fragment]

lemma takeOut_imports {existing fragment : Text} {i : Insertion}
    (h : importInsertion? existing fragment = some i) :
    takeOut i (Utf8.encode (mergeImports existing fragment)) = Utf8.encode existing := by
  refine takeOut_encode (rows_mergeImports h) ?_
  obtain ⟨above, between, rest, hrows, hpos, -⟩ := ImportPlace.importPosition_split (rows existing)
  rw [importInsertion?_eq_some h]
  show (importPosition (rows existing)).1 ≤ (rows existing).length
  rw [hpos, hrows, List.length_append]
  exact Nat.le_add_right _ _

lemma takeOut_methods (existing fragment : Text) :
    takeOut (methodInsertion existing fragment) (Utf8.encode (mergeFragment existing fragment)) =
      Utf8.encode existing := by
  rw [methodInsertion, fragmentInsertion?_eq]
  cases hc : closingRow? existing with
  | some c =>
    refine takeOut_encode ?_ (MethodPlace.closingRow_lt hc).le
    rw [rows_mergeFragment hc, Option.map_some, Option.getD_some, Insertion.apply,
      List.append_assoc]
  | none =>
    refine takeOut_encode ?_ le_rfl
    rw [mergeFragment_of_none hc, Option.map_none, Option.getD_none, Insertion.apply]
    dsimp only
    rw [List.take_length, List.drop_length, List.append_nil]
    refine rows_unrows (by simp) fun r hr => ?_
    rw [List.mem_append, List.mem_cons] at hr
    rcases hr with hr | rfl | hr
    · exact rows_newline hr
    · simp
    · exact rows_newline hr

/-- Without the rows put in, a merged text is the existing one. -/
lemma takeOut_insertions (existing fragment : Text) :
    (insertions existing fragment).foldr takeOut
      (Utf8.encode (mergeGenerated existing fragment)) = Utf8.encode existing := by
  rw [insertions, List.foldr_append, List.foldr_cons, List.foldr_nil, mergeGenerated,
    takeOut_methods]
  cases h : importInsertion? existing fragment with
  | none => rw [mergeImports_of_nil (importInsertion?_eq_none.mp h)]; rfl
  | some i => exact takeOut_imports h

/-! ### Steps of a merge, without a log file -/

section Steps

open ActionRuns FileWalks

variable {s u : Session} {p : Path}

/-- The log has no file. -/
def Unfiled (s : Session) : Prop := ∀ h ∈ s.sinks.handlers, h.sink = .console

lemma unfiled_toConsole (s : Session) (verbose : Bool) :
    Unfiled { s with sinks := s.sinks.toConsole verbose } := by
  intro h hmem
  rw [Log.Sinks.toConsole_eq] at hmem
  rw [List.mem_singleton.mp hmem]
  rfl

/-- The files become those of `t`; beside that, only texts are written. -/
structure Becomes (s : Session) (t : FileTree) (u : Session) : Prop where
  tree : u.tree = t
  clock : u.clock = s.clock
  handlers : u.sinks.handlers = s.sinks.handlers

lemma Becomes.trans {v : Session} {t t' : FileTree} (h : Becomes s t u) (h' : Becomes u t' v) :
    Becomes s t' v :=
  ⟨h'.tree, h'.clock.trans h.clock, h'.handlers.trans h.handlers⟩

lemma Becomes.unfiled {t : FileTree} (h : Becomes s t u) (hs : Unfiled s) : Unfiled u := by
  rw [Unfiled, h.handlers]
  exact hs

lemma becomes_deliver {lines : List (Log.Sink × Text)} (h : ∀ line ∈ lines, line.1 = .console) :
    Becomes s s.tree (lines.foldl Session.deliver s) := by
  induction lines generalizing s with
  | nil => exact ⟨rfl, rfl, rfl⟩
  | cons line lines ih =>
    obtain ⟨hline, hlines⟩ := List.forall_mem_cons.mp h
    obtain ⟨sink, text⟩ := line
    obtain rfl : sink = .console := hline
    obtain ⟨htree, hclock, hhandlers⟩ := ih (s := s.deliver (.console, text)) hlines
    exact ⟨htree, hclock, hhandlers⟩

lemma becomes_log (hs : Unfiled s) (r : Log.Record) : Becomes s s.tree (s.log r) := by
  have hasked : Becomes s s.tree { s with sinks := s.sinks.ask r } :=
    ⟨rfl, rfl, Log.Sinks.handlers_ask s.sinks r⟩
  refine hasked.trans (becomes_deliver fun line hline => ?_)
  rcases Log.Sinks.sink_of_mem_lines _ r hline with hsink | ⟨k, hk, hsink⟩
  · exact hsink
  · rw [Log.Sinks.handlers_ask] at hk
    exact hsink.trans (hs k hk)

lemma becomes_printed (s : Session) (line : Text) : Becomes s s.tree (printed s line) :=
  ⟨rfl, rfl, rfl⟩

/-- Saving makes the directories above a file and writes it. -/
lemma save_ok {content : Text} {created : Bool} (hs : Unfiled s)
    (h : (Storage.save p content).runOn s = (.ok created, u)) :
    ∃ t t', s.tree.makeDirs p.parent = .ok t ∧ t.writeOctets p (Utf8.encode content) = .ok t' ∧
      Becomes s t' u := by
  rw [Storage.save, runOn_get_bind] at h
  obtain ⟨existed, -, h⟩ := ofFiles_bind_ok_iff.mp h
  rw [runOn_get_bind] at h
  obtain ⟨there, -, h⟩ := ofFiles_bind_ok_iff.mp h
  dsimp only at h
  split at h
  · rw [runOn_bind_error (runOn_throw _ _)] at h
    cases h
  obtain ⟨t, ht, h⟩ := change_bind_ok_iff.mp h
  obtain ⟨t', ht', h⟩ := change_bind_ok_iff.mp h
  rw [runOn_bind_ok (runOn_log _ _ _ _)] at h
  obtain rfl := (Prod.mk.inj h).2
  obtain ⟨htree, hclock, hsinks⟩ := becomes_log (s := { s with tree := t' }) hs _
  exact ⟨t, t', ht, ht', htree, hclock, hsinks⟩

/-- A copy has the octets of the file, and is named for the moment. -/
lemma backup_ok {m : Moment} {o : Option Path} (hs : Unfiled s)
    (h : (Storage.backup p m).runOn s = (.ok o, u)) :
    (s.tree.isFile p = .ok false ∧ u = s) ∨
      ∃ copy octets t, o = some copy ∧ p.withName (Storage.backupName p m) = .ok copy ∧
        s.tree.readOctets p = .ok octets ∧ s.tree.writeOctets copy octets = .ok t ∧
        Becomes s t u := by
  rw [Storage.backup, runOn_get_bind] at h
  obtain ⟨there, hfile, h⟩ := ofFiles_bind_ok_iff.mp h
  cases there with
  | false =>
    obtain rfl := (Prod.mk.inj h).2
    exact .inl ⟨hfile, rfl⟩
  | true =>
    refine .inr ?_
    simp only [Bool.not_true, Bool.false_eq_true, if_false] at h
    split at h
    · next copy hcopy =>
      rw [runOn_bind_ok (runOn_pure _ _), runOn_get_bind] at h
      obtain ⟨octets, hread, h⟩ := ofFiles_bind_ok_iff.mp h
      obtain ⟨t, ht, h⟩ := change_bind_ok_iff.mp h
      rw [runOn_bind_ok (runOn_log _ _ _ _)] at h
      obtain ⟨ho, rfl⟩ := Prod.mk.inj h
      obtain ⟨htree, hclock, hsinks⟩ := becomes_log (s := { s with tree := t }) hs _
      exact ⟨copy, octets, t, (Except.ok.inj ho).symm, hcopy, hread, ht, htree, hclock, hsinks⟩
    · rw [runOn_bind_error (runOn_throw _ _)] at h
      cases h

lemma isFile_of_read {t : FileTree} {bs : Utf8.Octets} (h : t.readOctets p = .ok bs) :
    t.isFile p = .ok true := by
  obtain ⟨place, x, hwalk⟩ := readOctets_iff.mp h
  simp only [FileTree.isFile, FileTree.test, FileTree.stat, hwalk, Except.bind]
  rfl

lemma readText_ok {t : FileTree} {text : Text} (h : t.readText p = .ok text) :
    ∃ bs s, t.readOctets p = .ok bs ∧ Utf8.decode bs = .ok s ∧ text = Utf8.unifyNewlines s := by
  unfold FileTree.readText at h
  split at h
  · cases h
  · next bs hread =>
    split at h
    · cases h
    · next s hs => exact ⟨bs, s, hread, hs, (Except.ok.inj h).symm⟩

/-- The files when the existing one is secured: with a copy of it, if one is asked for. -/
def Secured (s : Session) (p : Path) (backup : Bool) (t : FileTree) : Prop :=
  if backup then
    ∃ copy octets, p.withName (Storage.backupName p s.clock.moment) = .ok copy ∧
      s.tree.readOctets p = .ok octets ∧ s.tree.writeOctets copy octets = .ok t
  else t = s.tree

/-- The end of a merge: the text is saved, and the file is named. -/
lemma saved_ok {content : Text} {code : ℕ} (hs : Unfiled s)
    (h : (do
      let _ ← Storage.save p content
      Act.print ("Merged tests written to ".toList ++ (← CommandLine.showPath p))
      return 0 : Act ℕ).runOn s = (.ok code, u)) :
    ∃ t, s.tree.makeDirs p.parent = .ok t ∧
      t.writeOctets p (Utf8.encode content) = .ok u.tree := by
  obtain ⟨created, v, hsave, h⟩ := bind_ok_iff.mp h
  obtain ⟨t, t', ht, ht', hv⟩ := save_ok hs hsave
  obtain ⟨text, -, h⟩ := look_bind_ok_iff.mp h
  obtain ⟨-, h⟩ := print_bind_ok_iff.mp h
  obtain rfl := (Prod.mk.inj h).2
  exact ⟨t, ht, by rw [ht', ← hv.tree, (becomes_printed v _).tree]⟩

lemma merge_ok {existing fragment : Text} {backup : Bool} (hs : Unfiled s)
    (h : (CommandLine.merge existing (some fragment) true backup).runOn s = (.ok 0, u)) :
    ∃ old new t t', s.tree.readText (Path.ofText existing) = .ok old ∧
      s.tree.readText (Path.ofText fragment) = .ok new ∧
      Secured s (Path.ofText existing) backup t ∧
      t.makeDirs (Path.ofText existing).parent = .ok t' ∧
      t'.writeOctets (Path.ofText existing) (Utf8.encode (mergeGenerated old new)) =
        .ok u.tree := by
  rw [CommandLine.merge, CommandLine.readSource] at h
  obtain ⟨old, hold, h⟩ := look_bind_ok_iff.mp h
  rw [CommandLine.pathOf, runOn_bind_ok (runOn_pure _ _)] at h
  obtain ⟨new, hnew, h⟩ := look_bind_ok_iff.mp h
  obtain ⟨_, v, hlog, h⟩ := bind_ok_iff.mp h
  have hv : Becomes s s.tree v := by
    unfold CommandLine.logMerge at hlog
    split at hlog
    · obtain rfl := (Prod.mk.inj hlog).2
      exact becomes_log hs _
    · obtain rfl := (Prod.mk.inj hlog).2
      exact ⟨rfl, rfl, rfl⟩
  have hunfiled := hv.unfiled hs
  simp only [Bool.not_true, Bool.false_eq_true, if_false] at h
  cases backup with
  | false =>
    obtain ⟨t, ht, hwrite⟩ := saved_ok hunfiled h
    exact ⟨old, new, v.tree, t, hold, hnew, hv.tree, ht, hwrite⟩
  | true =>
    simp only [if_true] at h
    rw [runOn_get_bind] at h
    obtain ⟨o, w, hbackup, h⟩ := bind_ok_iff.mp h
    rcases backup_ok hunfiled hbackup with ⟨hfile, -⟩ | ⟨copy, octets, t, rfl, hcopy, hread, ht, hw⟩
    · -- The existing file has been read, so there is one to copy.
      obtain ⟨octets, -, hread, -⟩ := readText_ok hold
      rw [hv.tree, isFile_of_read hread] at hfile
      cases hfile
    obtain ⟨text, -, h⟩ := look_bind_ok_iff.mp h
    obtain ⟨-, h⟩ := print_bind_ok_iff.mp h
    obtain ⟨t', ht', hwrite⟩ := saved_ok ((becomes_printed w _).unfiled (hw.unfiled hunfiled)) h
    rw [hv.clock] at hcopy
    rw [hv.tree] at hread ht
    exact ⟨old, new, t, t', hold, hnew, ⟨copy, octets, hcopy, hread, ht⟩, hw.tree ▸ ht', hwrite⟩

end Steps

/-! ### The files behind a written merge -/

section Files

open ActionRuns FileWalks CommandLine
open SettingsRead (unable)

/-- Two paths lead to one place. -/
def SamePlace (t : FileTree) (p q : Path) : Prop :=
  ∃ place node node', t.locate true p = .ok (place, node) ∧ t.locate true q = .ok (place, node')

/-- Saving changes the file at the place of an existing one, and no other. -/
lemma kept_save {t t' u : FileTree} {p : Path} {place : FileTree.Place} {node : FileTree.Node}
    {content : Utf8.Octets} (ht : Sound t) (hwalk : t.locate true p = .ok (place, some node))
    (hdirs : t.makeDirs p.parent = .ok t') (hwrite : t'.writeOctets p content = .ok u) :
    Kept (· = place) t u ∧ ∃ x, u.root.get? place = some (.file content x) := by
  have hmade := makeDirs_ok ht hdirs
  obtain ⟨place', node', x, hwalk', hnode, hkept⟩ := writeOctets_ok (hmade.sound ht) hwrite
  obtain rfl := locate_inj (locate_again hmade.grown hmade.toAlongside hwalk nofun) hwalk'
  exact ⟨(hmade.mono nofun).trans hkept, x, hnode⟩

/-- The files after a merge is written, in terms of the files before. The copy has the old octets
unless its name leads to the file itself, and all other files are as they were. -/
structure Written (s u : Session) (p : Path) (backup : Bool) (old new : Utf8.Octets) : Prop where
  read : u.tree.readOctets p = .ok new
  copied : backup = true → ∃ copy, p.withName (Storage.backupName p s.clock.moment) = .ok copy ∧
    (¬ SamePlace s.tree p copy → u.tree.readOctets copy = .ok old) ∧
    (SamePlace s.tree p copy → u.tree.readOctets copy = .ok new)
  others : ∀ q bs, s.tree.readOctets q = .ok bs → ¬ SamePlace s.tree p q →
    (backup = true → ∀ copy, p.withName (Storage.backupName p s.clock.moment) = .ok copy →
      ¬ SamePlace s.tree copy q) → u.tree.readOctets q = .ok bs

lemma written_of_steps {s u : Session} {p : Path} {backup : Bool} {old new : Utf8.Octets}
    {t t' : FileTree} (hs : Sound s.tree) (hold : s.tree.readOctets p = .ok old)
    (hsecured : Secured s p backup t) (hdirs : t.makeDirs p.parent = .ok t')
    (hwrite : t'.writeOctets p new = .ok u.tree) : Written s u p backup old new := by
  obtain ⟨place, x, hp⟩ := readOctets_iff.mp hold
  cases backup with
  | false =>
    obtain rfl : t = s.tree := hsecured
    obtain ⟨hkept, z, hnew⟩ := kept_save hs hp hdirs hwrite
    refine ⟨read_again hkept.grown hkept.toAlongside hp hnew, nofun, fun q bs hq hother _ => ?_⟩
    obtain ⟨placeq, y, hwalk⟩ := readOctets_iff.mp hq
    refine hkept.readOctets hwalk hs ?_
    rintro rfl
    exact hother ⟨_, _, _, hp, hwalk⟩
  | true =>
    obtain ⟨copy, octets, hcopy, hread, hbackup⟩ := hsecured
    obtain rfl : old = octets := Except.ok.inj (hold.symm.trans hread)
    obtain ⟨place', node', y, hcopied, hnode, hkept⟩ := writeOctets_ok hs hbackup
    -- The copy may have been written to the file itself: its path leads to the same place still.
    obtain ⟨there, hthere, -⟩ := hkept.grown _ _ (locate_told hs hp).1.symm
    have hp' := locate_again hkept.grown hkept.toAlongside hp nofun
    rw [hthere] at hp'
    obtain ⟨hkept', z, hnew⟩ := kept_save (hkept.sound hs) hp' hdirs hwrite
    have hall : Kept (fun q => q = place ∨ q = place') s.tree u.tree :=
      (hkept.mono fun _ => .inr).trans (hkept'.mono fun _ => .inl)
    refine ⟨read_again hall.grown hall.toAlongside hp hnew,
      fun _ => ⟨copy, hcopy, fun hother => ?_, ?_⟩, fun q bs hq hother hcopyOther => ?_⟩
    · refine read_again hall.grown hall.toAlongside hcopied (hkept'.files ?_ hnode)
      rintro rfl
      exact hother ⟨_, _, _, hp, hcopied⟩
    · rintro ⟨r, n, n', hr, hr'⟩
      obtain rfl := locate_inj hr hp
      obtain rfl := locate_inj hr' hcopied
      exact read_again hall.grown hall.toAlongside hcopied hnew
    · obtain ⟨placeq, v, hwalk⟩ := readOctets_iff.mp hq
      refine hall.readOctets hwalk hs ?_
      rintro (rfl | rfl)
      · exact hother ⟨_, _, _, hp, hwalk⟩
      · exact hcopyOther rfl copy hcopy ⟨_, _, _, hcopied, hwalk⟩

lemma reporting_ne_zero (c : Command) (e : Failure) (s u : Session) :
    (reporting c e).runOn s ≠ (.ok 0, u) := by
  unfold reporting
  cases report? c e with
  | none => nofun
  | some m =>
    intro h
    rw [runOn_bind_ok (runOn_complain m s)] at h
    cases h

/-- A run that ends with 0 is one of its command, behind the log. -/
lemma command_of_run {load : Config.Loader} {launch : Session.Launcher} {a : Arguments}
    {s u : Session} (hlog : logFileOf a = none)
    (hrun : (runArguments load launch a).runOn s = (.ok 0, u)) :
    (runCommand load launch a).runOn { s with sinks := s.sinks.toConsole a.verbose } =
      (.ok 0, u) := by
  have hopen : (Act.configureLog a.verbose none).runOn s =
      (.ok ⟨⟩, { s with sinks := s.sinks.toConsole a.verbose }) := rfl
  rw [runArguments, hlog, runOn_bind_ok hopen, runOn_tryCatch] at hrun
  split at hrun
  · next h => rw [h, hrun]
  · exact absurd hrun (reporting_ne_zero _ _ _ _)

/-- **What a written merge leaves.** Without the rows put in, the new octets of the existing file
are those of its old text with newlines alone, which are the old octets just when these have no
carriage return. A backup holds the old octets unless its name leads to the file itself, and all
other files stay as they are. -/
theorem run_merge_written (load : Config.Loader) (launch : Session.Launcher)
    {line : List Text} {a : Arguments} {existing fragment : Text} {backup : Bool}
    (h : Arguments.ofLine line = .ok a)
    (hcommand : a.command = .merge existing (some fragment) true backup)
    (hlog : logFileOf a = none) {s u : Session} (hs : Sound s.tree)
    (hrun : (run load launch line).runOn s = (.ok 0, u)) :
    ∃ old text methods, s.tree.readOctets (Path.ofText existing) = .ok old ∧
      Utf8.decode old = .ok text ∧ s.tree.readText (Path.ofText fragment) = .ok methods ∧
      let unified := Utf8.unifyNewlines text
      let new := Utf8.encode (mergeGenerated unified methods)
      Written s u (Path.ofText existing) backup old new ∧
        (insertions unified methods).foldr takeOut new = Utf8.encode unified ∧
        ((insertions unified methods).foldr takeOut new = old ↔ carriageReturn ∉ old) := by
  have hmerge : (merge existing (some fragment) true backup).runOn
      { s with sinks := s.sinks.toConsole a.verbose } = (.ok 0, u) := by
    rw [run, h] at hrun
    have := command_of_run hlog hrun
    rwa [runCommand, hcommand] at this
  obtain ⟨unified, methods, t, t', hold, hnew, hsecured, hdirs, hwrite⟩ :=
    merge_ok (unfiled_toConsole s a.verbose) hmerge
  obtain ⟨old, text, hread, htext, rfl⟩ := readText_ok hold
  refine ⟨old, text, methods, hread, htext, hnew,
    written_of_steps hs hread hsecured hdirs hwrite, takeOut_insertions _ _, ?_⟩
  rw [takeOut_insertions, ← encode_of_decode htext, mem_carriageReturn]
  constructor
  · intro heq hmem
    exact not_mem_unifyNewlines text (mem_carriageReturn.mp (heq ▸ mem_carriageReturn.mpr hmem))
  · intro hmem
    rw [unifyNewlines_of_not_mem hmem]

/-- A session in a directory with an existing class and a generated one. -/
def classes (existing : String) : Session :=
  sessionIn (entriesWith [("A.java", Utf8.encode existing.toList),
    ("G.java", Utf8.encode "class G \x7b\n  @Test\n  void t() \x7b\x7d\n\x7d".toList)])

/-- The rows of a file with newlines alone are all there again, and the backup is the old file. -/
theorem run_merge_written_newlines :
    let s := classes "class A \x7b\n\x7d\n"
    let line := ["merge", "A.java", "G.java", "--write", "--backup"].map String.toList
    let u := ((CommandLine.run unable idle line).runOn s).2
    let a : Arguments :=
      ⟨false, none, .merge "A.java".toList (some "G.java".toList) true true⟩
    Arguments.ofLine line = .ok a ∧ Sound s.tree ∧
      (CommandLine.run unable idle line).runOn s = (.ok 0, u) ∧
      ∃ new, Written s u (Path.ofText "A.java".toList) true
          (Utf8.encode "class A \x7b\n\x7d\n".toList) new ∧
        (insertions "class A \x7b\n\x7d\n".toList
            "class G \x7b\n  @Test\n  void t() \x7b\x7d\n\x7d".toList).foldr takeOut new =
          Utf8.encode "class A \x7b\n\x7d\n".toList := by
  intro s line u a
  have h : Arguments.ofLine line = .ok a := by decide
  have hs : Sound s.tree := ⟨_, rfl⟩
  have hcode : ((CommandLine.run unable idle line).runOn s).1 = .ok 0 := by decide +kernel
  have hrun : (CommandLine.run unable idle line).runOn s = (.ok 0, u) := by
    rw [← hcode]
  obtain ⟨old, text, methods, hold, htext, hmethods, hwritten, hnew, -⟩ :=
    run_merge_written unable idle h rfl rfl hs hrun
  obtain rfl : Utf8.encode "class A \x7b\n\x7d\n".toList = old := by
    have hread : s.tree.readOctets (Path.ofText "A.java".toList) =
        .ok (Utf8.encode "class A \x7b\n\x7d\n".toList) := by decide
    exact Except.ok.inj (hread.symm.trans hold)
  obtain rfl : "class A \x7b\n\x7d\n".toList = text := by
    have hdecoded : Utf8.decode (Utf8.encode "class A \x7b\n\x7d\n".toList) =
        .ok "class A \x7b\n\x7d\n".toList := by decide +kernel
    exact Except.ok.inj (hdecoded.symm.trans htext)
  obtain rfl : "class G \x7b\n  @Test\n  void t() \x7b\x7d\n\x7d".toList = methods := by
    have hread : s.tree.readText (Path.ofText "G.java".toList) =
        .ok "class G \x7b\n  @Test\n  void t() \x7b\x7d\n\x7d".toList := by decide +kernel
    exact Except.ok.inj (hread.symm.trans hmethods)
  exact ⟨h, hs, hrun, _, hwritten, hnew⟩

/-- Carriage returns do not come back. -/
theorem run_merge_written_returns :
    let s := classes "class A \x7b\r\n\x7d\r\n"
    let line := ["merge", "A.java", "G.java", "--write"].map String.toList
    let new := Utf8.encode
      "class A \x7b\n\n    // Additional test methods\n  @Test\n  void t() \x7b\x7d\n\x7d\n".toList
    ((CommandLine.run unable idle line).runOn s).1 = .ok 0 ∧
      ((CommandLine.run unable idle line).runOn s).2.tree.readOctets (Path.ofText "A.java".toList) =
        .ok new ∧
      (insertions "class A \x7b\n\x7d\n".toList
          "class G \x7b\n  @Test\n  void t() \x7b\x7d\n\x7d".toList).foldr takeOut new ≠
        Utf8.encode "class A \x7b\r\n\x7d\r\n".toList ∧
      carriageReturn ∉ new := by
  decide +kernel

end Files

end TestWeaver.Proofs.WrittenMerge
