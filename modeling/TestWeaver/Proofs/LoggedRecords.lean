import TestWeaver.Proofs.AppendedFiles
import TestWeaver.Proofs.LogSinks

/-!
Records go where the latest configuration of the log says.

However often the log has been configured, and whatever has been logged in between, a record is
written to the console once or not at all, and once to the file of the latest configuration, if that
has one. No other file changes. This holds of all loggers but those whose names start with a dot:
the program's logger need not be above these, and then its handlers do not see the record.
-/

namespace TestWeaver.Proofs.LoggedRecords

open Log ActionRuns FileWalks AppendedFiles LogSinks

variable {s u : Session} {verbose : Bool} {file : Option Path} {n : Option Text} {r : Record}

/-! ### Histories of a log -/

/-- What is done with a log. -/
inductive Event where
  | configured (verbose : Bool) (file : Option Path)
  | asked (logger : Option Text)
  | logged (logger : Option Text) (level : Level) (message : Text)

def Event.act : Event → Act Unit
  | configured verbose file => Act.configureLog verbose file
  | asked n => modify fun s => { s with sinks := s.sinks.get (loggerName n) }
  | logged n level message => modify fun s => s.log ⟨level, loggerName n, message⟩

/-- Does one thing after the other. -/
def history : List Event → Act Unit
  | [] => return
  | e :: es => do
    e.act
    history es

/-- The last configuration in a history. -/
def latest : List Event → Option (Bool × Option Path)
  | [] => none
  | .configured verbose file :: es => (latest es).or (some (verbose, file))
  | .asked _ :: es | .logged .. :: es => latest es

/-- A record has been written to the console, if that shows it, and to the file, and nothing else
has been written. -/
structure Delivered (s : Session) (verbose : Bool) (file : Option Path) (r : Record)
    (u : Session) : Prop where
  shown : Shown verbose r → u.errors = s.errors ++ r.consoleLine
  hidden : ¬ Shown verbose r → u.errors = s.errors
  filed : .debug ≤ r.level → ∀ p ∈ file,
    Appended s.tree p (Utf8.encode (r.fileLine s.clock.logTime)) u.tree
  unfiled : ¬ .debug ≤ r.level ∨ file = none → u.tree = s.tree

/-! ### One line -/

lemma sound_deliver (hs : Sound s.tree) (line : Sink × Text) :
    Sound (s.deliver line).tree ∧ (s.deliver line).tree.here = s.tree.here := by
  obtain ⟨_ | p, text⟩ := line
  · exact ⟨hs, rfl⟩
  · unfold Session.deliver
    dsimp only
    split
    · next t ht =>
      obtain ⟨_, _, _, _, -, -, hkept⟩ := update_ok hs ht
      exact ⟨hkept.sound hs, hkept.here⟩
    · exact ⟨hs, rfl⟩

/-- What is known of a session from the time when the log is configured. -/
structure Stands (s : Session) (verbose : Bool) (file : Option Path) : Prop where
  sound : Sound s.tree
  tuned : Tuned s.sinks verbose file
  opened : ∀ p ∈ file, ∃ old, s.tree.readOctets p = .ok old

/-- A line for the open file is put at its end. -/
lemma Stands.deliver_file (h : Stands s verbose file) {p : Path} (hp : p ∈ file) (text : Text) :
    ∃ t, s.deliver (.file p, text) = { s with tree := t } ∧
      Appended s.tree p (Utf8.encode text) t := by
  obtain ⟨old, hread⟩ := h.opened p hp
  obtain ⟨t, ht, -, -, happended⟩ := append_ok h.sound hread (Utf8.encode text)
  exact ⟨t, by rw [Session.deliver, ht], happended⟩

lemma Stands.deliver (h : Stands s verbose file) {line : Sink × Text}
    (hline : line.1 = .console ∨ ∃ p ∈ file, line.1 = .file p) :
    Stands (s.deliver line) verbose file := by
  have hsound := (sound_deliver h.sound line).1
  obtain ⟨sink, text⟩ := line
  rcases hline with rfl | ⟨p, hp, rfl⟩
  · exact ⟨hsound, h.tuned, h.opened⟩
  · obtain ⟨t, ht, ⟨old, -, hread⟩, -⟩ := h.deliver_file hp text
    rw [ht] at hsound ⊢
    refine ⟨hsound, h.tuned, fun q hq => ?_⟩
    obtain rfl := Option.mem_unique hp hq
    exact ⟨_, hread⟩

/-! ### One event -/

lemma sound_log (hs : Sound s.tree) (r : Record) :
    Sound (s.log r).tree ∧ (s.log r).tree.here = s.tree.here := by
  refine List.foldlRecOn (motive := fun t => Sound t.tree ∧ t.tree.here = s.tree.here)
    _ Session.deliver ?_ ?_
  · exact ⟨hs, rfl⟩
  · intro t ht line _
    obtain ⟨hsound, hhere⟩ := sound_deliver ht.1 line
    exact ⟨hsound, hhere.trans ht.2⟩

/-- Logging keeps what is known, on any logger. -/
lemma Stands.log (h : Stands s verbose file) (r : Record) : Stands (s.log r) verbose file := by
  refine List.foldlRecOn (motive := fun t => Stands t verbose file) _ Session.deliver ?_ ?_
  · exact ⟨h.sound, h.tuned.ask r, h.opened⟩
  · intro t ht line hline
    refine ht.deliver ?_
    rcases Sinks.sink_of_mem_lines _ r hline with hsink | ⟨k, hk, hsink⟩
    · exact .inl hsink
    · rw [(h.tuned.ask r).handlers, List.mem_cons, Option.mem_toList] at hk
      rcases hk with rfl | hk
      · exact .inl hsink
      · obtain ⟨p, hp, rfl⟩ := Option.map_eq_some_iff.mp hk
        exact .inr ⟨p, hp, hsink⟩

lemma foldl_console (s : Session) (shown : Bool) (text : Text) :
    (if shown then [(Sink.console, text)] else []).foldl Session.deliver s =
      { s with errors := s.errors ++ if shown then text else [] } := by
  cases shown with
  | true => rfl
  | false => simp

section

variable (h : Stands s verbose file) (hn : ¬ Dotted n) (hr : r.logger = loggerName n)

include h hn hr

/-- The line for the console comes first, then the one for the file. -/
lemma Stands.log_of_le (hlevel : .debug ≤ r.level) :
    s.log r = (file.map fun p => (Sink.file p, r.fileLine s.clock.logTime)).toList.foldl
      Session.deliver { s with
        sinks := s.sinks.ask r
        errors := s.errors ++ if (Handler.console verbose).takes r then r.consoleLine else [] } := by
  rw [Session.log]
  dsimp only
  rw [(h.tuned.ask r).lines_of_le hn hr hlevel, List.foldl_append, foldl_console]

lemma Stands.log_of_not_le (hlevel : ¬ .debug ≤ r.level) :
    s.log r = { s with sinks := s.sinks.ask r } := by
  rw [Session.log]
  dsimp only
  rw [(h.tuned.ask r).lines_of_not_le hn hr hlevel]
  rfl

/-- A record of a logger that the program's own is above goes where it should. -/
lemma Stands.delivered : Delivered s verbose file r (s.log r) := by
  by_cases hlevel : .debug ≤ r.level
  · rw [h.log_of_le hn hr hlevel]
    set v : Session := { s with
      sinks := s.sinks.ask r
      errors := s.errors ++ if (Handler.console verbose).takes r then r.consoleLine else [] }
    have hv : Stands v verbose file := ⟨h.sound, h.tuned.ask r, h.opened⟩
    have hshown (hshows : Shown verbose r) : v.errors = s.errors ++ r.consoleLine :=
      congrArg (s.errors ++ ·) (if_pos (takes_console_iff.mpr hshows))
    have hhidden (hhides : ¬ Shown verbose r) : v.errors = s.errors := by
      show s.errors ++ (if _ then _ else _) = _
      rw [if_neg (mt takes_console_iff.mp hhides), List.append_nil]
    cases file with
    | none => exact ⟨hshown, hhidden, nofun, fun _ => rfl⟩
    | some p =>
      obtain ⟨t, ht, happended⟩ := hv.deliver_file rfl (r.fileLine s.clock.logTime)
      rw [Option.map_some, Option.toList_some, List.foldl_cons, List.foldl_nil, ht]
      refine ⟨hshown, hhidden, fun _ q hq => ?_, fun hno => ?_⟩
      · obtain rfl := Option.some.inj hq
        exact happended
      · exact absurd hlevel (hno.resolve_right nofun)
  · rw [h.log_of_not_le hn hr hlevel]
    exact ⟨fun hshown => absurd (debug_le_of_shown hshown) hlevel, fun _ => rfl,
      fun hle => absurd hle hlevel, fun _ => rfl⟩

end

lemma absolute_congr {t t' : FileTree} (h : t'.here = t.here) (p : Path) :
    t'.absolute p = t.absolute p := by
  rw [FileTree.absolute, FileTree.absolute, h]

lemma configureLog_ok {f : Option Path} (hs : Sound s.tree)
    (h : (Act.configureLog verbose f).runOn s = (.ok ⟨⟩, u)) :
    Stands u verbose (f.map s.tree.absolute) ∧ u.tree.here = s.tree.here := by
  cases f with
  | none =>
    obtain rfl := (Prod.mk.inj h).2
    exact ⟨⟨hs, tuned_toConsole s.sinks verbose, nofun⟩, rfl⟩
  | some p =>
    rw [Act.configureLog, runOn_bind_ok (runOn_modify _ s)] at h
    obtain ⟨t, hdirs, h⟩ := change_bind_ok_iff.mp h
    rw [runOn_get_bind] at h
    obtain ⟨t', hopen, h⟩ := change_bind_ok_iff.mp h
    obtain rfl := (Prod.mk.inj h).2
    have hmade := makeDirs_ok hs hdirs
    obtain ⟨place, node, old, x, hwalk, hfile, hkept⟩ := update_ok (hmade.sound hs) hopen
    rw [Option.map_some, ← absolute_congr hmade.here]
    refine ⟨⟨hkept.sound (hmade.sound hs), (tuned_toConsole s.sinks verbose).addHandler _,
      fun q hq => ?_⟩, hkept.here.trans hmade.here⟩
    obtain rfl := Option.some.inj hq
    exact ⟨_, read_again hkept.grown hkept.toAlongside hwalk hfile⟩

/-! ### Histories -/

lemma act_ok {e : Event} (hs : Sound s.tree) (h : e.act.runOn s = (.ok ⟨⟩, u)) :
    Sound u.tree ∧ u.tree.here = s.tree.here := by
  cases e with
  | configured verbose f =>
    obtain ⟨hstands, hhere⟩ := configureLog_ok hs h
    exact ⟨hstands.sound, hhere⟩
  | asked n =>
    obtain rfl := (Prod.mk.inj h).2
    exact ⟨hs, rfl⟩
  | logged n level message =>
    obtain rfl := (Prod.mk.inj h).2
    exact sound_log hs _

lemma history_ok {es : List Event} (hs : Sound s.tree)
    (h : (history es).runOn s = (.ok ⟨⟩, u)) :
    u.tree.here = s.tree.here ∧
      (latest es = none → ∀ {verbose file}, Stands s verbose file → Stands u verbose file) ∧
      ∀ {verbose f}, latest es = some (verbose, f) → Stands u verbose (f.map s.tree.absolute) := by
  -- Without a configuration in the rest of the history, the one in front of it goes on to count.
  induction es generalizing s with
  | nil =>
    obtain rfl := (Prod.mk.inj h).2
    exact ⟨rfl, fun _ _ _ hstands => hstands, nofun⟩
  | cons e es ih =>
    obtain ⟨⟨⟩, t, hact, hrest⟩ := bind_ok_iff.mp h
    obtain ⟨hsound, hhere⟩ := act_ok hs hact
    obtain ⟨hhere', hkeeps, hlatest⟩ := ih hsound hrest
    rw [funext (absolute_congr hhere)] at hlatest
    refine ⟨hhere'.trans hhere, ?_⟩
    cases e with
    | configured verbose f =>
      have hstands := (configureLog_ok hs hact).1
      cases hes : latest es with
      | none =>
        rw [latest, hes]
        refine ⟨nofun, fun heq => ?_⟩
        obtain ⟨rfl, rfl⟩ := Prod.mk.inj (Option.some.inj heq)
        exact hkeeps hes hstands
      | some last =>
        rw [latest, hes]
        exact ⟨nofun, fun heq => hlatest (hes.trans heq)⟩
    | asked n =>
      obtain rfl := (Prod.mk.inj hact).2
      exact ⟨fun hes _ _ ⟨hsound, htuned, hopened⟩ =>
        hkeeps hes ⟨hsound, htuned.get _, hopened⟩, hlatest⟩
    | logged n level message =>
      obtain rfl := (Prod.mk.inj hact).2
      exact ⟨fun hes _ _ hstands => hkeeps hes (hstands.log _), hlatest⟩

/-- Handlers do not pile up, however often the log is configured. -/
theorem count_of_history {es : List Event} {f : Option Path} (hs : Sound s.tree)
    (h : (history es).runOn s = (.ok ⟨⟩, u)) (hes : latest es = some (verbose, f)) :
    u.sinks.count = 1 + f.toList.length := by
  obtain ⟨-, -, hstands⟩ := history_ok hs h
  rw [Sinks.count, (hstands hes).tuned.handlers, List.length_cons, Nat.add_comm]
  cases f <;> rfl

/-- All records of a logger go where the latest configuration says, and nowhere else, whatever has
been done with the log. -/
def Obeys (n : Option Text) : Prop :=
  ∀ {s u : Session} {es : List Event} {verbose : Bool} {f : Option Path}, Sound s.tree →
    (history es).runOn s = (.ok ⟨⟩, u) → latest es = some (verbose, f) →
    ∀ level message,
      let r : Record := ⟨level, loggerName n, message⟩
      Delivered u verbose (f.map u.tree.absolute) r (u.log r)

/-- A record that comes to no handler is written to the console bare. -/
lemma errors_log_of_not_reaches (h : (s.sinks.get r.logger).reaches r.logger = false)
    (hlevel : .warning ≤ r.level)
    (hfound : s.sinks.admitted.lookup (r.logger, r.level) = none) :
    (s.log r).errors = s.errors ++ r.bareLine := by
  have hreaches : (s.sinks.ask r).reaches r.logger = false := h
  have hadmits : (s.sinks.ask r).admits r.logger r.level = true := by
    rw [admits_ask]
    exact admits_of_not_reaches h hlevel (by rwa [Sinks.admitted_get])
  rw [Session.log]
  dsimp only
  rw [lines_of_not_reaches hreaches hlevel hadmits]
  rfl

/-- The log is configured, and then a logger is asked for by a dot alone. -/
def dotAsked : List Event := [.configured false none, .asked (some ['.'])]

/-- That logger gets in the way of all others whose names start with a dot. -/
lemma not_reaches_dotAsked (hn : Dotted n) :
    (((history dotAsked).runOn (sessionIn .nil)).2.sinks.get (loggerName n)).reaches
      (loggerName n) = false := by
  refine not_reaches_of_dotted (fun hmem => ?_) ((Sinks.mem_loggers_get _ _).mpr (.inl ?_)) hn
  · rcases (Sinks.mem_loggers_get _ _).mp hmem with hmem | heq
    · exact absurd hmem (by decide)
    · have hdot := second_dot hn
      rw [← heq] at hdot
      cases hdot
  · decide

lemma shown_of_dotted (hn : Dotted n) {level : Level} (hlevel : .info ≤ level) (message : Text) :
    Shown false ⟨level, loggerName n, message⟩ := by
  refine ⟨hlevel, fun ⟨rest, hrest⟩ => ?_⟩
  have heq : buildOutput ++ rest = loggerName n := hrest
  have hdot := second_dot hn
  rw [← heq] at hdot
  exact absurd (Option.some.inj hdot) (show ¬ 'b' = '.' by decide)

/-- The console would show a warning with the name of the program in front. -/
lemma not_obeys_of_dotted (hn : Dotted n) : ¬ Obeys n := by
  intro hobeys
  have hrun : (history dotAsked).runOn (sessionIn .nil) =
      (.ok ⟨⟩, ((history dotAsked).runOn (sessionIn .nil)).2) := rfl
  have hshown := shown_of_dotted hn (show Level.info ≤ .warning by decide) []
  have hline := (hobeys ⟨_, rfl⟩ hrun rfl .warning []).shown hshown
  rw [errors_log_of_not_reaches (not_reaches_dotAsked hn) (show Level.warning ≤ .warning by decide)
    rfl, List.append_cancel_left_eq] at hline
  exact absurd (congrArg List.head? hline) (show ¬ some '\n' = some '[' by decide)

/-- **Which loggers obey the configuration of the log**: all but those whose names start with a
dot. -/
theorem obeys_iff (n : Option Text) : Obeys n ↔ ¬ Dotted n := by
  constructor
  · exact fun hobeys hn => not_obeys_of_dotted hn hobeys
  · intro hn s u es verbose f hs hrun hes level message
    obtain ⟨hhere, -, hstands⟩ := history_ok hs hrun
    rw [funext (absolute_congr hhere)]
    exact (hstands hes).delivered hn rfl

/-- A record of a logger that is asked for by a name with a dot in front comes neither to the console
nor to the file. -/
theorem dotted_record_lost :
    let s := sessionIn .nil
    let p : Path := ⟨.none, ["a.log".toList]⟩
    let es : List Event := [.configured false (some p)]
    let u := ((history es).runOn s).2
    let r : Record := ⟨.info, loggerName (some ".x".toList), "m".toList⟩
    (history es).runOn s = (.ok ⟨⟩, u) ∧ latest es = some (false, some p) ∧
      Shown false r ∧ (u.log r).errors = u.errors ∧
      .debug ≤ r.level ∧ u.tree.readOctets p = .ok [] ∧ (u.log r).tree.readOctets p = .ok [] :=
  ⟨rfl, rfl, takes_console_iff.mp (by decide), by decide, by decide, by decide, by decide⟩

end TestWeaver.Proofs.LoggedRecords
