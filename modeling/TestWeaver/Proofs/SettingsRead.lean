import TestWeaver.Config.Reading
import TestWeaver.Proofs.Outcomes

/-!
What reading a configuration file gives: each setting is a value of the file that fits, or the one
that holds without a file.
-/

namespace TestWeaver.Proofs.SettingsRead

open Config Outcomes

variable {load : Loader} {t : FileTree} {p : Path}

/-- The settings for a path are in a file with a text. -/
structure Configured (t : FileTree) (p file root : Path) (text : Text) : Prop where
  located : locate t p = .ok file
  rooted : t.realPath file.parent = .ok root
  there : t.exists? file = .ok true
  read : t.readText file = .ok text

lemma read_of_configured {file root : Path} {text : Text} (h : Configured t p file root text) :
    Config.read load t p = entriesOf load file.name text >>= fun es =>
      (Sections.ofEntries es).map fun s => { root := root, sections := s } := by
  rw [Config.read, h.located]
  simp only [mapError_ok, h.rooted, h.there, h.read, bind, Except.bind, Bool.not_true,
    Bool.false_eq_true, if_false]
  rcases entriesOf load file.name text with _ | es
  · rfl
  · cases Sections.ofEntries es <;> rfl

lemma timeoutOr_positive {usual x : Binary64} {v : Yaml.Value} (hu : usual.isPositive = true)
    (h : timeoutOr usual v = .ok x) : x.isPositive = true := by
  obtain ⟨y, -, rfl⟩ := map_eq_ok.mp h
  rcases y with _ | y
  · exact hu
  · dsimp only
    split
    · assumption
    · exact hu

lemma buildSettings_positive {es : Entries} {s : Build.Settings} (h : buildSettings es = .ok s) :
    s.timeout.isPositive = true := by
  obtain ⟨x, hx, hs⟩ := bind_eq_ok.mp h
  obtain rfl := Except.ok.inj hs
  exact timeoutOr_positive (by decide) hx

/-- Runs have a timeout above zero, whatever the file says. -/
lemma timeout_positive {c : Config} (h : Config.read load t p = .ok c) :
    c.sections.build.timeout.isPositive = true := by
  obtain ⟨file, -, h⟩ := bind_eq_ok.mp h
  obtain ⟨root, -, h⟩ := bind_eq_ok.mp h
  obtain ⟨there, -, h⟩ := bind_eq_ok.mp h
  cases there with
  | false =>
    obtain rfl := Except.ok.inj h
    have husual : Build.defaultTimeout.isPositive = true := by decide
    exact husual
  | true =>
    obtain ⟨text, -, h⟩ := bind_eq_ok.mp h
    obtain ⟨es, -, h⟩ := bind_eq_ok.mp h
    obtain ⟨s, hs, h⟩ := bind_eq_ok.mp h
    obtain rfl := Except.ok.inj h
    obtain ⟨generation, -, hs⟩ := bind_eq_ok.mp hs
    obtain ⟨build, hbuild, hs⟩ := bind_eq_ok.mp hs
    obtain ⟨naming, -, hs⟩ := bind_eq_ok.mp hs
    obtain ⟨file, -, hs⟩ := bind_eq_ok.mp hs
    obtain rfl := Except.ok.inj hs
    exact buildSettings_positive hbuild

/-- A library that reads no text. -/
def unable : Loader := fun _ => .error .malformed

/-- A library that reads one text. -/
def reads (text : Text) (es : Entries) : Loader :=
  fun s => if s = text then .ok (.mapping es) else .error .malformed

lemma entriesOf_reads {text : Text} (h : Text.trim text ≠ []) (name : Text) (es : Entries) :
    entriesOf (reads text es) name text = .ok es := by
  rw [entriesOf, if_neg h, reads, if_pos rfl]

end TestWeaver.Proofs.SettingsRead
