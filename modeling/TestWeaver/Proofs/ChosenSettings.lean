import Mathlib.Data.List.Infix
import TestWeaver.Proofs.SettingValues

/-!
Which settings a configuration file sets.

Two things keep a file that holds a mapping from being read. An integer where a text is asked for
can have more digits than are written, and a timeout can be an integer beyond the range of floats.
Else each setting is what its value means, or the default where the value means nothing that fits,
but for the list of libraries: it is empty if its value is no list.
-/

namespace TestWeaver.Proofs.ChosenSettings

open Config Outcomes SettingsRead SettingValues
open Yaml (Value)

variable {v : Value} {e : Failure}

/-! ### One setting -/

/-- What the value means, or the default if it means nothing that fits. -/
def Chosen {α : Type} (Means : Value → α → Prop) (usual : α) (v : Value) (x : α) : Prop :=
  Means v x ∨ (∀ y, ¬ Means v y) ∧ x = usual

/-- A text that is not empty. -/
def Names (v : Value) (s : Text) : Prop := IsText v s ∧ s ≠ []

/-- An integer above zero. -/
def Counts (v : Value) (n : Int) : Prop := IsInteger v n ∧ 0 < n

/-- A number above zero. -/
def Lasts (v : Value) (x : Binary64) : Prop := IsNumber v x ∧ x.isPositive = true

/-- A text, perhaps an empty one, for a setting that has no default. -/
def Given (v : Value) (file : Option Text) : Prop := ∃ s, IsText v s ∧ file = some s

lemma Chosen.holds {α : Type} {Means : Value → α → Prop} {usual x : α} {P : α → Prop}
    (h : Chosen Means usual v x) (hmeans : ∀ y, Means v y → P y) (husual : P usual) : P x := by
  rcases h with h | ⟨-, rfl⟩
  · exact hmeans x h
  · exact husual

lemma textOr_ok {usual s : Text} (h : textOr usual v = .ok s) :
    ¬ TooLong v ∧ Chosen Names usual v s := by
  obtain ⟨o, ho, rfl⟩ := map_eq_ok.mp h
  obtain ⟨hshort, htext⟩ := asText_ok ho
  refine ⟨hshort, ?_⟩
  rcases o with _ | _ | ⟨c, s⟩
  · exact .inr ⟨fun t ht => (by cases (htext t).mp ht.1), rfl⟩
  · refine .inr ⟨fun t ht => ht.2 ?_, rfl⟩
    exact (Option.some.inj ((htext t).mp ht.1)).symm
  · exact .inl ⟨(htext _).mpr rfl, List.cons_ne_nil c s⟩

lemma textOr_error {usual : Text} (h : textOr usual v = .error e) : TooLong v ∧ OutOfRange e :=
  asText_error (map_eq_error.mp h)

lemma timeoutOr_ok {usual x : Binary64} (h : timeoutOr usual v = .ok x) :
    ¬ TooLarge v ∧ Chosen Lasts usual v x := by
  obtain ⟨o, ho, rfl⟩ := map_eq_ok.mp h
  obtain ⟨hsmall, hnumber⟩ := asNumber_ok ho
  refine ⟨hsmall, ?_⟩
  rcases o with _ | x
  · exact .inr ⟨fun y hy => (by cases (hnumber y).mp hy.1), rfl⟩
  · dsimp only
    split
    · next hpos => exact .inl ⟨(hnumber x).mpr rfl, hpos⟩
    · next hpos =>
      refine .inr ⟨fun y hy => hpos ?_, rfl⟩
      obtain rfl := Option.some.inj ((hnumber y).mp hy.1)
      exact hy.2

lemma timeoutOr_error {usual : Binary64} (h : timeoutOr usual v = .error e) :
    TooLarge v ∧ OutOfRange e :=
  asNumber_error (map_eq_error.mp h)

lemma positiveOr_chosen (usual : Int) (v : Value) :
    Chosen Counts usual v (positiveOr usual v) := by
  unfold positiveOr
  split
  · next n hn =>
    split
    · next hpos => exact .inl ⟨asInteger_eq_some.mp hn, hpos⟩
    · next hpos =>
      refine .inr ⟨fun m hm => hpos ?_, rfl⟩
      obtain rfl := Option.some.inj (hn.symm.trans (asInteger_eq_some.mpr hm.1))
      exact hm.2
  · next hnone =>
    refine .inr ⟨fun m hm => ?_, rfl⟩
    cases hnone.symm.trans (asInteger_eq_some.mpr hm.1)

/-- A setting that is read in one step. -/
lemma getD_chosen {α : Type} {Means : Value → α → Prop} {o : Option α}
    (h : ∀ x, o = some x ↔ Means v x) (usual : α) : Chosen Means usual v (o.getD usual) := by
  rcases o with _ | x
  · exact .inr ⟨fun y hy => (by cases (h y).mpr hy), rfl⟩
  · exact .inl ((h x).mp rfl)

lemma logFile_chosen {o : Option Text} (h : asText v = .ok o) : Chosen Given none v o := by
  obtain ⟨-, htext⟩ := asText_ok h
  rcases o with _ | s
  · refine .inr ⟨fun f hf => ?_, rfl⟩
    obtain ⟨s, hs, -⟩ := hf
    cases (htext s).mp hs
  · exact .inl ⟨s, (htext s).mpr rfl, rfl⟩

/-! ### The whole file -/

/-- The value of a key in a part of the file. -/
def setting (es : Entries) (part key : String) : Value := get (asEntries (get es part)) key

/-- Settings that are texts. -/
def textSettings : List (String × String) :=
  [("generation", "test_framework"), ("generation", "mocking_framework"),
    ("resolver", "test_suffix"), ("log", "file")]

/-- No integer of the file is out of range where it stands. -/
structure InRange (es : Entries) : Prop where
  texts : ∀ k ∈ textSettings, ¬ TooLong (setting es k.1 k.2)
  timeout : ¬ TooLarge (setting es "build" "timeout")
  libraries : ∀ vs, setting es "resolver" "standard_prefixes" = .sequence vs →
    ∀ v ∈ vs, ¬ TooLong v

/-- The settings that hold without a file. -/
def usual : Sections := {}

/-- Each setting but the list of libraries is what its value means, or its default. -/
structure Settled (es : Entries) (s : Sections) : Prop where
  testFramework : Chosen Names usual.generation.testFramework
    (setting es "generation" "test_framework") s.generation.testFramework
  mockingFramework : Chosen Names usual.generation.mockingFramework
    (setting es "generation" "mocking_framework") s.generation.mockingFramework
  coverageTarget : Chosen IsInteger usual.generation.coverageTarget
    (setting es "generation" "coverage_target") s.generation.coverageTarget
  edgeCases : Chosen IsTruth usual.generation.edgeCases
    (setting es "generation" "include_edge_cases") s.generation.edgeCases
  dependencies : Chosen IsTruth usual.generation.dependencies
    (setting es "generation" "include_dependencies") s.generation.dependencies
  timeout : Chosen Lasts usual.build.timeout (setting es "build" "timeout") s.build.timeout
  summaryLines : Chosen Counts usual.build.summaryLines
    (setting es "build" "summary_lines") s.build.summaryLines
  summaryChars : Chosen Counts usual.build.summaryChars
    (setting es "build" "summary_fallback_chars") s.build.summaryChars
  suffix : Chosen Names usual.naming.suffix
    (setting es "resolver" "test_suffix") s.naming.suffix
  logFile : Chosen Given usual.logFile (setting es "log" "file") s.logFile

/-- The value of the list of libraries, if there is one. -/
def librariesValue (es : Entries) : Option Value :=
  Value.lookup "standard_prefixes".toList (asEntries (get es "resolver"))

/-- The list of libraries is what its value means, or its default. -/
def LibrariesSettled (es : Entries) (libraries : List Text) : Prop :=
  match librariesValue es with
  | none => libraries = usual.naming.libraries
  | some v => Chosen IsList usual.naming.libraries v libraries

/-- If there is a list of libraries, it is a list. -/
def ListsLibraries (es : Entries) : Prop := ∀ v ∈ librariesValue es, ∃ ss, IsList v ss

/-- Limits are above zero, and tests have a suffix. -/
structure Bounded (s : Sections) : Prop where
  timeout : s.build.timeout.isPositive = true
  summaryLines : 0 < s.build.summaryLines
  summaryChars : 0 < s.build.summaryChars
  suffix : s.naming.suffix ≠ []

lemma Settled.bounded {es : Entries} {s : Sections} (h : Settled es s) : Bounded s where
  timeout := h.timeout.holds (fun _ hx => hx.2) (by decide)
  summaryLines := h.summaryLines.holds (fun _ hn => hn.2) (by decide)
  summaryChars := h.summaryChars.holds (fun _ hn => hn.2) (by decide)
  suffix := h.suffix.holds (fun _ hs => hs.2) (by decide)

variable {es : Entries}

/-- Reading the list of libraries alone. -/
def readLibraries (es : Entries) : Except Failure (List Text) :=
  match librariesValue es with
  | none => .ok usual.naming.libraries
  | some v => asTexts v

lemma naming_eq (es : Entries) :
    Naming.ofEntries (asEntries (get es "resolver")) =
      textOr usual.naming.suffix (setting es "resolver" "test_suffix") >>= fun suffix =>
        readLibraries es >>= fun libraries => .ok ⟨suffix, libraries⟩ := by
  unfold Naming.ofEntries readLibraries librariesValue
  cases Value.lookup "standard_prefixes".toList (asEntries (get es "resolver")) <;> rfl

lemma libraries_ok {ss : List Text} (h : readLibraries es = .ok ss) :
    (∀ vs, setting es "resolver" "standard_prefixes" = .sequence vs → ∀ v ∈ vs, ¬ TooLong v) ∧
      (LibrariesSettled es ss ↔ ListsLibraries es) ∧ (¬ ListsLibraries es → ss = []) := by
  have hvalue : setting es "resolver" "standard_prefixes" = (librariesValue es).getD .null := rfl
  rw [readLibraries] at h
  rw [hvalue, LibrariesSettled, ListsLibraries]
  rcases hv : librariesValue es with _ | v
  · rw [hv] at h
    obtain rfl := Except.ok.inj h
    simp
  rw [hv] at h
  obtain ⟨hshort, hlist⟩ := asTexts_ok h
  have hlists : (∀ w ∈ some v, ∃ ts, IsList w ts) ↔ ∃ ts, IsList v ts := by simp
  rw [hlists]
  rcases hlist with hlist | ⟨hnone, rfl⟩
  · exact ⟨hshort, iff_of_true (.inl hlist) ⟨ss, hlist⟩, fun hn => absurd ⟨ss, hlist⟩ hn⟩
  · have husual : ([] : List Text) ≠ usual.naming.libraries := by decide
    refine ⟨hshort, iff_of_false ?_ (fun ⟨ts, hts⟩ => hnone ts hts), fun _ => rfl⟩
    rintro (hts | ⟨-, hsame⟩)
    · exact hnone [] hts
    · exact husual hsame

lemma libraries_error (h : readLibraries es = .error e) :
    (∃ vs, setting es "resolver" "standard_prefixes" = .sequence vs ∧ ∃ v ∈ vs, TooLong v) ∧
      OutOfRange e := by
  have hvalue : setting es "resolver" "standard_prefixes" = (librariesValue es).getD .null := rfl
  rw [readLibraries] at h
  rw [hvalue]
  rcases hv : librariesValue es with _ | v
  · rw [hv] at h
    cases h
  · rw [hv] at h
    exact asTexts_error h

lemma sections_ok {s : Sections} (h : Sections.ofEntries es = .ok s) :
    InRange es ∧ Settled es s ∧ (LibrariesSettled es s.naming.libraries ↔ ListsLibraries es) ∧
      (¬ ListsLibraries es → s.naming.libraries = []) := by
  obtain ⟨generation, hgeneration, h⟩ := bind_eq_ok.mp h
  obtain ⟨build, hbuild, h⟩ := bind_eq_ok.mp h
  obtain ⟨naming, hnaming, h⟩ := bind_eq_ok.mp h
  obtain ⟨file, hfile, h⟩ := bind_eq_ok.mp h
  obtain rfl := Except.ok.inj h
  obtain ⟨testFramework, htest, h⟩ := bind_eq_ok.mp hgeneration
  obtain ⟨mockingFramework, hmocking, h⟩ := bind_eq_ok.mp h
  obtain rfl := Except.ok.inj h
  obtain ⟨timeout, htimeout, h⟩ := bind_eq_ok.mp hbuild
  obtain rfl := Except.ok.inj h
  rw [naming_eq] at hnaming
  obtain ⟨suffix, hsuffix, h⟩ := bind_eq_ok.mp hnaming
  obtain ⟨libraries, hlibraries, h⟩ := bind_eq_ok.mp h
  obtain rfl := Except.ok.inj h
  obtain ⟨htestShort, htest⟩ := textOr_ok htest
  obtain ⟨hmockingShort, hmocking⟩ := textOr_ok hmocking
  obtain ⟨htimeoutSmall, htimeout⟩ := timeoutOr_ok htimeout
  obtain ⟨hsuffixShort, hsuffix⟩ := textOr_ok hsuffix
  obtain ⟨hlibrariesShort, hlibraries⟩ := libraries_ok hlibraries
  refine ⟨⟨?_, htimeoutSmall, hlibrariesShort⟩, ?_, hlibraries⟩
  · simp only [textSettings, List.forall_mem_cons]
    exact ⟨htestShort, hmockingShort, hsuffixShort, (asText_ok hfile).1, nofun⟩
  · exact {
      testFramework := htest
      mockingFramework := hmocking
      coverageTarget := getD_chosen (fun _ => asInteger_eq_some) _
      edgeCases := getD_chosen (fun _ => asBool_eq_some) _
      dependencies := getD_chosen (fun _ => asBool_eq_some) _
      timeout := htimeout
      summaryLines := positiveOr_chosen _ _
      summaryChars := positiveOr_chosen _ _
      suffix := hsuffix
      logFile := logFile_chosen hfile }

lemma sections_error (h : Sections.ofEntries es = .error e) : ¬ InRange es ∧ OutOfRange e := by
  have htext : ∀ k ∈ textSettings, TooLong (setting es k.1 k.2) → ¬ InRange es :=
    fun k hk hlong hrange => hrange.texts k hk hlong
  rcases bind_eq_error.mp h with h | ⟨generation, -, h⟩
  · rcases bind_eq_error.mp h with h | ⟨testFramework, -, h⟩
    · obtain ⟨hlong, he⟩ := textOr_error h
      exact ⟨htext ("generation", "test_framework") (by decide) hlong, he⟩
    · rcases bind_eq_error.mp h with h | ⟨mockingFramework, -, h⟩
      · obtain ⟨hlong, he⟩ := textOr_error h
        exact ⟨htext ("generation", "mocking_framework") (by decide) hlong, he⟩
      · cases h
  rcases bind_eq_error.mp h with h | ⟨build, -, h⟩
  · rcases bind_eq_error.mp h with h | ⟨timeout, -, h⟩
    · obtain ⟨hlarge, he⟩ := timeoutOr_error h
      exact ⟨fun hrange => hrange.timeout hlarge, he⟩
    · cases h
  rcases bind_eq_error.mp h with h | ⟨naming, -, h⟩
  · rw [naming_eq] at h
    rcases bind_eq_error.mp h with h | ⟨suffix, -, h⟩
    · obtain ⟨hlong, he⟩ := textOr_error h
      exact ⟨htext ("resolver", "test_suffix") (by decide) hlong, he⟩
    · rcases bind_eq_error.mp h with h | ⟨libraries, -, h⟩
      · obtain ⟨⟨vs, hvs, v, hv, hlong⟩, he⟩ := libraries_error h
        exact ⟨fun hrange => hrange.libraries vs hvs v hv hlong, he⟩
      · cases h
  rcases bind_eq_error.mp h with h | ⟨file, -, h⟩
  · obtain ⟨hlong, he⟩ := asText_error h
    exact ⟨htext ("log", "file") (by decide) hlong, he⟩
  · cases h

/-! ### Reading the file -/

variable {load : Loader} {t : FileTree} {p root : Path}

/-- The file for a path is there, in the directory `root`, and a mapping is read from it. -/
def Holds (load : Loader) (t : FileTree) (p root : Path) (es : Entries) : Prop :=
  ∃ file text, Configured t p file root text ∧ entriesOf load file.name text = .ok es

lemma read_of_holds (h : Holds load t p root es) :
    Config.read load t p =
      (Sections.ofEntries es).map fun s => { root := root, sections := s } := by
  obtain ⟨file, text, hset, hes⟩ := h
  rw [read_of_configured hset, hes]
  rfl

/-- **What a file that holds a mapping sets**, whatever library reads it and whatever the mapping
is. It is read unless an integer in it is out of range where it stands. Each setting is then what
its value means or, if it means nothing that fits, the default, and the limits are above zero. The
list of libraries keeps to this as long as it is a list, else it is empty. -/
theorem read_mapping (h : Holds load t p root es) :
    ((∃ c, Config.read load t p = .ok c) ↔ InRange es) ∧
      (∀ e, Config.read load t p = .error e → OutOfRange e) ∧
      ∀ c, Config.read load t p = .ok c →
        c.root = root ∧ Settled es c.sections ∧ Bounded c.sections ∧
          (LibrariesSettled es c.sections.naming.libraries ↔ ListsLibraries es) ∧
          (¬ ListsLibraries es → c.sections.naming.libraries = []) := by
  rw [read_of_holds h]
  rcases hs : Sections.ofEntries es with e | s
  · obtain ⟨hrange, he⟩ := sections_error hs
    refine ⟨iff_of_false (fun ⟨c, hc⟩ => ?_) hrange, fun e' he' => ?_, fun c hc => ?_⟩
    · cases hc
    · obtain rfl := Except.error.inj he'
      exact he
    · cases hc
  · obtain ⟨hrange, hsettled, hlibraries⟩ := sections_ok hs
    refine ⟨iff_of_true ⟨_, rfl⟩ hrange, nofun, fun c hc => ?_⟩
    obtain rfl := Except.ok.inj hc
    exact ⟨rfl, hsettled, hsettled.bounded, hlibraries⟩

/-- A workspace that has only a configuration file. -/
def configured (config : Text) : FileTree where
  root := .dir (.cons Failure.configFile (.file (Utf8.encode config) false) .nil)
  here := []

/-- Of these values only the second item of the list fits. -/
theorem read_mapping_invalid :
    let text := "build:\n  timeout: -5\nresolver:\n  test_suffix: ''\n".toList ++
      "  standard_prefixes: [~, 5]\nlog: [file]\n".toList
    let es : Entries := [
      (.text "build".toList, .mapping [(.text "timeout".toList, .int (-5))]),
      (.text "resolver".toList, .mapping [(.text "test_suffix".toList, .text []),
        (.text "standard_prefixes".toList, .sequence [.null, .int 5])]),
      (.text "log".toList, .sequence [.text "file".toList])]
    Holds (reads text es) (configured text) ⟨.none, []⟩ ⟨.slash, []⟩ es ∧
      ∃ c, Config.read (reads text es) (configured text) ⟨.none, []⟩ = .ok c ∧
        Settled es c.sections ∧ c.sections = { naming := { libraries := [['5']] } } := by
  intro text es
  have hes : entriesOf (reads text es) Failure.configFile text = .ok es :=
    entriesOf_reads (by decide +kernel) _ _
  have h : Holds (reads text es) (configured text) ⟨.none, []⟩ ⟨.slash, []⟩ es :=
    ⟨⟨.slash, [Failure.configFile]⟩, text, ⟨by decide +kernel, by decide +kernel,
      by decide +kernel, by decide +kernel⟩, hes⟩
  have hsections : Sections.ofEntries es = .ok { naming := { libraries := [['5']] } } := by
    decide +kernel
  have hread : Config.read (reads text es) (configured text) ⟨.none, []⟩ =
      .ok { root := ⟨.slash, []⟩, sections := { naming := { libraries := [['5']] } } } := by
    rw [read_of_holds h, hsections]
    rfl
  obtain ⟨-, -, hall⟩ := read_mapping h
  exact ⟨h, _, hread, (hall _ hread).2.1, rfl⟩

/-- A file with a timeout that is too large for a float is not read, and a number in the place of
the list of libraries empties it. -/
theorem read_mapping_outOfRange :
    let huge := "build:\n  timeout: 1".toList ++ List.replicate 309 '0' ++ ['\n']
    let scalar := "resolver:\n  standard_prefixes: 5\n".toList
    Config.read
        (reads huge [(.text "build".toList,
          .mapping [(.text "timeout".toList, .int (.ofNat (Nat.pow 10 309)))])])
        (configured huge) ⟨.none, []⟩ =
      .error (.overflow "int too large to convert to float".toList) ∧
    Config.read
        (reads scalar [(.text "resolver".toList,
          .mapping [(.text "standard_prefixes".toList, .int 5)])])
        (configured scalar) ⟨.none, []⟩ =
      .ok { root := ⟨.slash, []⟩, sections := { naming := { libraries := [] } } } := by
  decide +kernel

end TestWeaver.Proofs.ChosenSettings
