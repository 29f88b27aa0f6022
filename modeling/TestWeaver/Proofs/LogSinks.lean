import Mathlib.Tactic.Lemma
import TestWeaver.Log.Sinks

/-!
The sinks once the log has been configured.

The program's logger then has one handler for the console and one for the file, if there is one,
whatever there was before. Nothing that is logged changes that, and what is found out of the levels
of loggers stays right as long as the log is not configured again.

For this the program's logger must be above the others. It is, whatever loggers there are in
between, unless the name that was asked for starts with a dot.
-/

namespace TestWeaver.Proofs.LogSinks

open Log

/-! ### The names of loggers -/

/-- A name that starts with a dot. -/
def Dotted (n : Option Text) : Prop := ∃ s, n = some ('.' :: s)

section Names

variable {known : List Text} {c : Char}

lemma above_cons_of_ne (hc : c ≠ '.') (s : List Char) :
    above known (c :: s) = above known s :=
  above.eq_3 known c s fun _ _ h _ => hc h

lemma ne_reverse_of_lt {s : List Char} (h : program.length < s.length) : program ≠ s.reverse := by
  intro heq
  rw [heq, List.length_reverse] at h
  exact Nat.lt_irrefl _ h

/-- Whether the program's logger is above another one is told by the start of its name, which is `t`
read backwards. If a dot stands right behind that start and there is no logger of its name, the last
character of the start is passed over, which must not matter. -/
lemma program_mem_above_append {t : List Char} (hlong : program.length < t.length)
    (hpast : t.reverse ∉ known → (program ∈ above known t.tail ↔ program ∈ above known t)) :
    ∀ s : List Char, program ∈ above known (s ++ t) ↔ program ∈ above known t
  | [] => Iff.rfl
  | d :: s => by
    by_cases hd : d = '.'
    · subst hd
      cases s with
      | nil =>
        obtain ⟨c, t, rfl⟩ := List.exists_cons_of_length_pos (Nat.zero_lt_of_lt hlong)
        rw [List.singleton_append, above]
        split
        · exact List.mem_cons.trans (or_iff_right (ne_reverse_of_lt hlong))
        · next hfree => exact hpast hfree
      | cons e s =>
        have hlonger : program.length < (e :: (s ++ t)).length := by
          rw [List.length_cons, List.length_append]
          omega
        rw [List.cons_append, List.cons_append, above]
        split
        · exact (List.mem_cons.trans (or_iff_right (ne_reverse_of_lt hlonger))).trans
            (program_mem_above_append hlong hpast (e :: s))
        · exact program_mem_above_append hlong hpast s
    · rw [List.cons_append, above_cons_of_ne hd]
      exact program_mem_above_append hlong hpast s

lemma program_mem_above (h : program ∈ known) (hc : c ≠ '.') (s : List Char) :
    program ∈ above known (s ++ c :: '.' :: program.reverse) := by
  have habove : above known ('.' :: program.reverse) = [program] := by
    show (if program ∈ known then program :: above known program.reverse else _) = _
    rw [if_pos h]
    rfl
  have hlong : program.length < (c :: '.' :: program.reverse).length := by
    rw [List.length_cons, List.length_cons, List.length_reverse]
    omega
  rw [program_mem_above_append hlong fun _ => by rw [List.tail_cons, above_cons_of_ne hc],
    above_cons_of_ne hc, habove]
  exact List.mem_singleton_self _

/-- The logger that is asked for by a dot alone, read backwards. -/
def dotAlone : List Char := '.' :: '.' :: program.reverse

lemma program_not_mem_above (hone : program ++ ['.'] ∉ known) (htwo : dotAlone.reverse ∈ known)
    (s : List Char) : program ∉ above known (s ++ dotAlone) := by
  have habove : above known dotAlone = [] := by
    show (if program ++ ['.'] ∈ known then _ else above known program.reverse) = _
    rw [if_neg hone]
    rfl
  rw [program_mem_above_append (by decide) fun hfree => absurd htwo hfree, habove]
  exact List.not_mem_nil

end Names

section

variable {s : Sinks} {n : Option Text} {verbose : Bool} {file : Option Path} {r : Record}

lemma second_dot (hn : Dotted n) : (loggerName n)[program.length + 1]? = some '.' := by
  obtain ⟨m, rfl⟩ := hn
  rfl

lemma reaches_of_not_dotted (h : program ∈ s.loggers) (hn : ¬ Dotted n) :
    s.reaches (loggerName n) = true := by
  rw [Sinks.reaches, List.contains_iff_mem]
  match n with
  | none | some [] => exact List.mem_cons_self
  | some (c :: m) =>
    have hc : c ≠ '.' := by
      rintro rfl
      exact hn ⟨m, rfl⟩
    have hname : (loggerName (some (c :: m))).reverse =
        m.reverse ++ c :: '.' :: program.reverse := by
      simp [loggerName]
    rw [hname]
    exact List.mem_cons_of_mem _ (program_mem_above h hc _)

lemma not_reaches_of_dotted (hone : program ++ ['.'] ∉ s.loggers)
    (htwo : dotAlone.reverse ∈ s.loggers) (hn : Dotted n) : s.reaches (loggerName n) = false := by
  obtain ⟨m, rfl⟩ := hn
  have hname : (loggerName (some ('.' :: m))).reverse = m.reverse ++ dotAlone := by
    simp [loggerName, dotAlone]
  rw [Sinks.reaches, ← Bool.not_eq_true, List.contains_iff_mem, hname]
  refine List.not_mem_cons_of_ne_of_not_mem (fun heq => ?_)
    (program_not_mem_above hone htwo m.reverse)
  have hlength := congrArg List.length heq
  simp [loggerName] at hlength

/-! ### What configuring sets -/

/-- What is known of the sinks from the time when the log is configured. -/
structure Tuned (s : Sinks) (verbose : Bool) (file : Option Path) : Prop where
  program : program ∈ s.loggers
  threshold : s.threshold = .debug
  handlers : s.handlers = .console verbose :: (file.map .file).toList
  admitted : ∀ n l b, ¬ Dotted n → s.admitted.lookup (loggerName n, l) = some b →
    b = decide (.debug ≤ l)

lemma tuned_toConsole (s : Sinks) (verbose : Bool) : Tuned (s.toConsole verbose) verbose none := by
  rw [Sinks.toConsole_eq]
  exact ⟨(s.mem_loggers_get _).mpr (.inr rfl), rfl, rfl, nofun⟩

lemma Tuned.addHandler (h : Tuned s verbose none) (p : Path) :
    Tuned (s.addHandler (.file p)) verbose (some p) where
  program := h.program
  threshold := h.threshold
  handlers := by
    rw [Sinks.addHandler, h.handlers]
    rfl
  admitted := h.admitted

lemma Tuned.admits (h : Tuned s verbose file) (hn : ¬ Dotted n) (l : Level) :
    s.admits (loggerName n) l = decide (.debug ≤ l) := by
  unfold Sinks.admits
  cases hfound : s.admitted.lookup (loggerName n, l) with
  | some b => exact h.admitted n l b hn hfound
  | none =>
    have hthreshold : s.thresholdOf (loggerName n) = .debug := by
      rw [Sinks.thresholdOf, reaches_of_not_dotted h.program hn, h.threshold]
      rfl
    rw [Option.getD_none, hthreshold]

lemma Tuned.get (h : Tuned s verbose file) (logger : Text) : Tuned (s.get logger) verbose file where
  program := (s.mem_loggers_get logger).mpr (.inl h.program)
  threshold := by rw [Sinks.threshold_get, h.threshold]
  handlers := by rw [Sinks.handlers_get, h.handlers]
  admitted := by
    rw [Sinks.admitted_get]
    exact h.admitted

/-- Logging changes nothing of that. -/
lemma Tuned.ask (h : Tuned s verbose file) (r : Record) : Tuned (s.ask r) verbose file where
  program := (h.get r.logger).program
  threshold := (h.get r.logger).threshold
  handlers := (h.get r.logger).handlers
  admitted := by
    intro n l b hn hfound
    rw [Sinks.ask, List.lookup_cons] at hfound
    split at hfound
    · next hkey =>
      obtain ⟨hlogger, rfl⟩ := Prod.mk.inj (eq_of_beq hkey)
      rw [← Option.some.inj hfound, ← hlogger]
      exact (h.get _).admits hn _
    · exact (h.get r.logger).admitted n l b hn hfound

/-! ### What a record is written as -/

/-- The console shows a record. -/
def Shown (verbose : Bool) (r : Record) : Prop :=
  (if verbose then Level.debug else .info) ≤ r.level ∧ ¬ buildOutput <+: r.logger

lemma takes_console_iff : (Handler.console verbose).takes r = true ↔ Shown verbose r := by
  rw [Handler.takes, Bool.and_eq_true, decide_eq_true_iff]
  refine and_congr Iff.rfl ?_
  show (!Text.startsWith r.logger buildOutput) = true ↔ _
  rw [Bool.not_eq_true', ← Bool.not_eq_true, Text.startsWith_iff]

lemma debug_le_of_shown (h : Shown verbose r) : .debug ≤ r.level := by
  refine Int.le_trans ?_ h.1
  cases verbose <;> decide

lemma Tuned.lines_of_le (h : Tuned s verbose file) (hn : ¬ Dotted n) (hr : r.logger = loggerName n)
    (hlevel : .debug ≤ r.level) (time : Text) :
    s.lines time r = (if (Handler.console verbose).takes r then [(.console, r.consoleLine)] else []) ++
      (file.map fun p => (.file p, r.fileLine time)).toList := by
  have hreaches := reaches_of_not_dotted h.program hn
  have hfile : ∀ p, (Handler.file p).takes r = true := fun p => by
    rw [Handler.takes, Bool.and_eq_true, decide_eq_true_iff]
    exact ⟨hlevel, rfl⟩
  rw [Sinks.lines, Sinks.handlersOf, hr, h.admits hn, decide_eq_true hlevel, hreaches, h.handlers]
  show List.map _ (List.filter _ (_ :: _)) = _
  rw [List.filter_cons]
  cases file with
  | none => split <;> rfl
  | some p =>
    have hkept : [Handler.file p].filter (fun k => k.takes r) = [.file p] :=
      List.filter_cons_of_pos (hfile p)
    rw [Option.map_some, Option.toList_some, hkept]
    split <;> rfl

lemma Tuned.lines_of_not_le (h : Tuned s verbose file) (hn : ¬ Dotted n)
    (hr : r.logger = loggerName n) (hlevel : ¬ .debug ≤ r.level) (time : Text) :
    s.lines time r = [] := by
  rw [Sinks.lines, hr, h.admits hn, decide_eq_false hlevel]
  rfl

/-- Records that come to no handler go to the console bare. -/
lemma lines_of_not_reaches (h : s.reaches r.logger = false) (hlevel : .warning ≤ r.level)
    (hadmits : s.admits r.logger r.level = true) (time : Text) :
    s.lines time r = [(.console, r.bareLine)] := by
  rw [Sinks.lines, hadmits, Sinks.handlersOf, h]
  exact if_pos hlevel

/-- What is found out when a record is logged. -/
lemma admits_ask (s : Sinks) (r : Record) :
    (s.ask r).admits r.logger r.level = (s.get r.logger).admits r.logger r.level := by
  rw [Sinks.admits, Sinks.ask, List.lookup_cons_self]
  rfl

lemma admits_of_not_reaches (h : s.reaches r.logger = false) (hlevel : .warning ≤ r.level)
    (hfound : s.admitted.lookup (r.logger, r.level) = none) :
    s.admits r.logger r.level = true := by
  rw [Sinks.admits, hfound, Option.getD_none, Sinks.thresholdOf, h]
  exact decide_eq_true hlevel

end

end TestWeaver.Proofs.LogSinks
