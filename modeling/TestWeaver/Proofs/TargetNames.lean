import TestWeaver.Proofs.ImportStatement
import TestWeaver.Proofs.RowText
import TestWeaver.Proofs.RunStates

/-!
Names of targets, and what one can do to a command line.

A name is read from left to right, with a star only at its very end. Told by its segments: behind at
most one star that is taken off, what stands between the dots are identifiers. So nothing in a name
means anything to a shell but the dollar and that star, and it cannot be taken for an option. A
command for a target holds it in one place.
-/

namespace TestWeaver.Proofs.TargetNames

open Build Text RowText RunStates

/-! ### The grammar -/

def Digit (c : Char) : Prop := '0' ≤ c ∧ c ≤ '9'

/-- ASCII letters and digits, the underscore and the dollar. -/
def NameChar (c : Char) : Prop :=
  'A' ≤ c ∧ c ≤ 'Z' ∨ 'a' ≤ c ∧ c ≤ 'z' ∨ Digit c ∨ c = '_' ∨ c = '$'

instance : DecidablePred Digit := fun c => by unfold Digit; infer_instance

instance : DecidablePred NameChar := fun c => by unfold NameChar; infer_instance

structure Identifier (p : Text) : Prop where
  nonempty : p ≠ []
  chars : ∀ c ∈ p, NameChar c
  first : ∀ c ∈ p.head?, ¬ Digit c

/-- The name without one star at its end. -/
def withoutStar (name : Text) : Text := if name.getLast? = some '*' then name.dropLast else name

/-- A name of a target: short enough, and identifiers between its dots. -/
structure WellFormed (name : Text) : Prop where
  short : name.length ≤ 256
  segments : ∀ p ∈ splitAt '.' (withoutStar name), Identifier p

/-! ### Characters -/

lemma eq_iff_toNat {c d : Char} : c = d ↔ c.toNat = d.toNat :=
  ⟨congrArg Char.toNat, fun h => Char.toNat_inj.mp h⟩

lemma digit_iff {c : Char} : Digit c ↔ 48 ≤ c.toNat ∧ c.toNat ≤ 57 := Iff.rfl

lemma nameChar_iff {c : Char} : NameChar c ↔
    65 ≤ c.toNat ∧ c.toNat ≤ 90 ∨ 97 ≤ c.toNat ∧ c.toNat ≤ 122 ∨
      48 ≤ c.toNat ∧ c.toNat ≤ 57 ∨ c.toNat = 95 ∨ c.toNat = 36 := by
  rw [NameChar, Digit, eq_iff_toNat (d := '_'), eq_iff_toNat (d := '$')]
  rfl

lemma isSegmentStart_iff {c : Char} : isSegmentStart c = true ↔ NameChar c ∧ ¬ Digit c := by
  have hupper : c.isUpper = true ↔ 65 ≤ c.toNat ∧ c.toNat ≤ 90 := decide_eq_true_iff
  have hlower : c.isLower = true ↔ 97 ≤ c.toNat ∧ c.toNat ≤ 122 := by
    rw [show c.isLower = (decide (97 ≤ c.toNat) && decide (c.toNat ≤ 122)) from rfl,
      Bool.and_eq_true, decide_eq_true_iff, decide_eq_true_iff]
  have halpha : c.isAlpha = true ↔
      65 ≤ c.toNat ∧ c.toNat ≤ 90 ∨ 97 ≤ c.toNat ∧ c.toNat ≤ 122 := by
    rw [show c.isAlpha = (c.isUpper || c.isLower) from rfl, Bool.or_eq_true, hupper, hlower]
  rw [isSegmentStart, nameChar_iff, digit_iff, Bool.or_eq_true, Bool.or_eq_true, halpha,
    decide_eq_true_iff, decide_eq_true_iff, eq_iff_toNat (d := '_'), eq_iff_toNat (d := '$'),
    show '_'.toNat = 95 from rfl, show '$'.toNat = 36 from rfl]
  omega

lemma isSegmentChar_iff {c : Char} : isSegmentChar c = true ↔ NameChar c := by
  have hdigit : Digit c → NameChar c := fun h => .inr (.inr (.inl h))
  have hisDigit : c.isDigit = true ↔ Digit c := by
    rw [digit_iff, Char.isDigit_iff_toNat]
    rfl
  rw [isSegmentChar, Bool.or_eq_true, isSegmentStart_iff, hisDigit]
  by_cases hd : Digit c
  · exact ⟨fun _ => hdigit hd, fun _ => .inr hd⟩
  · exact ⟨fun h => (h.resolve_right hd).1, fun h => .inl ⟨h, hd⟩⟩

lemma not_blank_of_nameChar {c : Char} (h : NameChar c) : isBlank c = false := by
  rw [nameChar_iff] at h
  have hn : c.toNat < 0x80 := by omega
  simp only [isBlank, hn, if_true, Bool.or_eq_false_iff, Bool.and_eq_false_iff, beq_eq_false_iff_ne,
    decide_eq_false_iff_not]
  omega

/-! ### Reading a name -/

/-- The pieces of a text that begins inside a segment, or in front of one. -/
def Segments (inSegment : Bool) : List Text → Prop
  | [] => False
  | p :: ps => (∀ c ∈ p, NameChar c) ∧ (inSegment = false → Identifier p) ∧ ∀ q ∈ ps, Identifier q

lemma segments_false {ps : List Text} (h : ps ≠ []) :
    Segments false ps ↔ ∀ p ∈ ps, Identifier p := by
  obtain ⟨p, ps, rfl⟩ := List.exists_cons_of_ne_nil h
  rw [Segments, List.forall_mem_cons]
  exact ⟨fun ⟨_, hp, hps⟩ => ⟨hp rfl, hps⟩, fun ⟨hp, hps⟩ => ⟨hp.chars, fun _ => hp, hps⟩⟩

lemma segments_nil_cons {b : Bool} (ps : List Text) :
    Segments b ([] :: ps) ↔ b = true ∧ ∀ q ∈ ps, Identifier q := by
  have hempty : ¬ Identifier [] := fun h => h.nonempty rfl
  cases b <;> simp [Segments, hempty]

lemma segments_cons_cons {b : Bool} {c : Char} (p : Text) (ps : List Text) :
    Segments b ((c :: p) :: ps) ↔
      NameChar c ∧ (b = false → ¬ Digit c) ∧ Segments true (p :: ps) := by
  have hfirst : (∀ d ∈ c :: p, NameChar d) →
      (Identifier (c :: p) ↔ ¬ Digit c) := fun hchars =>
    ⟨fun h => h.first c rfl, fun h => ⟨by simp, hchars, fun d hd => by
      obtain rfl : c = d := by simpa using hd
      exact h⟩⟩
  constructor
  · rintro ⟨hchars, hp, hps⟩
    obtain ⟨hc, hrest⟩ := List.forall_mem_cons.mp hchars
    exact ⟨hc, fun hb => (hfirst hchars).mp (hp hb), hrest, nofun, hps⟩
  · rintro ⟨hc, hdigit, hrest, -, hps⟩
    have hchars := List.forall_mem_cons.mpr ⟨hc, hrest⟩
    exact ⟨hchars, fun hb => (hfirst hchars).mpr (hdigit hb), hps⟩

lemma withoutStar_cons {c : Char} {s : Text} (h : ¬ (c = '*' ∧ s = [])) :
    withoutStar (c :: s) = c :: withoutStar s := by
  cases s with
  | nil =>
    have hc : c ≠ '*' := by simpa using h
    simp [withoutStar, hc]
  | cons d s =>
    rw [withoutStar, withoutStar, List.getLast?_cons_cons, List.dropLast_cons_of_ne_nil (by simp)]
    split <;> rfl

/-- What is left of a name is read on as its pieces say. -/
lemma isTargetFrom_iff (b : Bool) (s : Text) :
    isTargetFrom b s = true ↔ Segments b (splitAt '.' (withoutStar s)) := by
  induction s generalizing b with
  | nil =>
    have hnil : splitAt '.' (withoutStar []) = [[]] := rfl
    rw [hnil, segments_nil_cons]
    simp [isTargetFrom]
  | cons c s ih =>
    by_cases hstar : c = '*' ∧ s = []
    · obtain ⟨rfl, rfl⟩ := hstar
      have hstar : splitAt '.' (withoutStar ['*']) = [[]] := rfl
      rw [hstar, segments_nil_cons]
      have hbegin : isTargetFrom b ['*'] = b := by cases b <;> decide
      simp [hbegin]
    rw [withoutStar_cons hstar]
    by_cases hdot : c = '.'
    · subst hdot
      rw [splitAt_cons_self, segments_nil_cons, ← segments_false (splitAt_ne_nil _ _), ← ih]
      have hchar : isSegmentChar '.' = false := by decide
      have hstart : isSegmentStart '.' = false := by decide
      cases b <;> simp [isTargetFrom, hchar, hstart]
    · obtain ⟨p, ps, hs, hcs⟩ := splitAt_cons_of_ne hdot (withoutStar s)
      rw [hcs, segments_cons_cons, ← hs, ← ih, ← isSegmentChar_iff]
      cases b with
      | false => simp [isTargetFrom, isSegmentStart_iff, isSegmentChar_iff, and_assoc]
      | true =>
        have hend : (c = '*' && s = []) = false := by simpa using hstar
        simp [isTargetFrom, hdot, hend]

lemma isTarget_iff {name : Text} : isTarget name = true ↔ WellFormed name := by
  rw [isTarget, Bool.and_eq_true, isTargetFrom_iff, segments_false (splitAt_ne_nil _ _),
    decide_eq_true_iff]
  exact ⟨fun ⟨hlength, hpieces⟩ => ⟨hlength, hpieces⟩, fun h => ⟨h.short, h.segments⟩⟩

/-! ### What a name can do -/

/-- Characters that shells read in a way of their own. -/
def shellMarks : Text := "|&;<>()$`\\\"'*?[]#~=%!\x7b\x7d^".toList

/-- To a shell only the dollar and a star at the end of the target mean anything, and the target is
one word of a command line, and no option. -/
structure Harmless (target : Text) : Prop where
  word : target ≠ [] ∧ ∀ c ∈ target, isBlank c = false
  marks : ∀ c ∈ target, c ∈ shellMarks → c = '$' ∨ c = '*'
  star : '*' ∉ target.dropLast
  option : target.head? ≠ some '-'

/-- The command lines for a target, which stands in one place of them. -/
inductive Narrowed (target : Text) : Tool → List Text → Prop
  | gradle (command : Text) : Narrowed target .gradle
      [command, "test".toList, "--tests".toList, target, "--info".toList]
  | maven (command : Text) : Narrowed target .maven
      [command, "test".toList, "-Dtest=".toList ++ target]

lemma eq_dollar_of_shellMark : ∀ c ∈ shellMarks, NameChar c → c = '$' := by
  have hall : shellMarks.all (fun c => decide (NameChar c → c = '$')) = true := by decide
  exact fun c hc => of_decide_eq_true (List.all_eq_true.mp hall c hc)

lemma eq_withoutStar_or (name : Text) :
    name = withoutStar name ∨ name = withoutStar name ++ ['*'] := by
  rw [withoutStar]
  split
  · next hlast => exact .inr (List.dropLast_append_getLast? '*' hlast).symm
  · exact .inl rfl

namespace WellFormed

variable {name : Text} (h : WellFormed name)

include h

lemma chars_withoutStar : ∀ c ∈ withoutStar name, NameChar c ∨ c = '.' := by
  intro c hc
  by_cases hdot : c = '.'
  · exact .inr hdot
  · rw [← joinWith_splitAt '.' (withoutStar name), mem_joinWith hdot] at hc
    obtain ⟨p, hp, hcp⟩ := hc
    exact .inl ((h.segments p hp).chars c hcp)

lemma chars : ∀ c ∈ name, NameChar c ∨ c = '.' ∨ c = '*' := by
  intro c hc
  have hmem : c ∈ withoutStar name ∨ c = '*' := by
    rcases eq_withoutStar_or name with heq | heq
    · exact .inl (heq ▸ hc)
    · rw [heq] at hc
      simpa using hc
  rcases hmem with hc | rfl
  · exact (h.chars_withoutStar c hc).imp_right .inl
  · exact .inr (.inr rfl)

lemma star : '*' ∉ name.dropLast := by
  have hno : '*' ∉ withoutStar name := fun hstar =>
    absurd (h.chars_withoutStar '*' hstar) (by decide)
  rcases eq_withoutStar_or name with heq | heq
  · exact fun hstar => hno (heq ▸ List.mem_of_mem_dropLast hstar)
  · rw [heq, List.dropLast_concat]
    exact hno

/-- A name begins as its first segment does. -/
lemma head : ∃ c s, name = c :: s ∧ NameChar c := by
  rcases hs : splitAt '.' (withoutStar name) with _ | ⟨p, ps⟩
  · exact absurd hs (splitAt_ne_nil _ _)
  have hp : Identifier p := h.segments p (by simp [hs])
  obtain ⟨c, q, rfl⟩ := List.exists_cons_of_ne_nil hp.nonempty
  have hc : NameChar c := hp.chars c (List.mem_cons_self ..)
  obtain ⟨s, hjoin⟩ := exists_joinWith_cons '.' (c :: q) ps
  rw [← hs, joinWith_splitAt] at hjoin
  rcases eq_withoutStar_or name with heq | heq
  · exact ⟨c, q ++ s, heq.trans hjoin, hc⟩
  · exact ⟨c, q ++ s ++ ['*'], by rw [heq, hjoin]; simp, hc⟩

lemma harmless : Harmless name := by
  obtain ⟨c, s, hname, hc⟩ := h.head
  refine ⟨⟨by simp [hname], fun d hd => ?_⟩, fun d hd hmark => ?_, h.star, ?_⟩
  · rcases h.chars d hd with hd | rfl | rfl
    · exact not_blank_of_nameChar hd
    · decide
    · decide
  · rcases h.chars d hd with hd | rfl | rfl
    · exact .inl (eq_dollar_of_shellMark d hmark hd)
    · exact absurd hmark (by decide)
    · exact .inr rfl
  · rw [hname]
    rintro ⟨⟩
    exact absurd hc (by decide)

end WellFormed

/-! ### The command -/

variable {t : FileTree} {root : Path} {windows : Bool} {tool : Tool} {target : Text}

lemma exists_wrapper_of_known (h : tool ≠ .unknown) : ∃ w, tool.wrapper? = some w := by
  cases tool with
  | gradle => exact ⟨_, rfl⟩
  | maven => exact ⟨_, rfl⟩
  | unknown => exact absurd rfl h

lemma exists_narrowed (h : tool ≠ .unknown) (command target : Text) :
    ∃ args, arguments tool (some target) = .ok args ∧ Narrowed target tool (command :: args) := by
  cases tool with
  | gradle => exact ⟨_, rfl, .gradle command⟩
  | maven => exact ⟨_, rfl, .maven command⟩
  | unknown => exact absurd rfl h

lemma Narrowed.length {argv : List Text} (h : Narrowed target tool argv) :
    argv.length = if tool = .gradle then 5 else 3 := by
  cases h <;> rfl

lemma invocation_of_wrong (h : isTarget target = false) (timeout : Binary64) :
    invocation t windows root tool (some target) timeout = .error (.invalidTarget target) := by
  simp [invocation, checkTarget, h, bind, Except.bind]

lemma invocation_of_right (h : isTarget target = true) (timeout : Binary64) :
    invocation t windows root tool (some target) timeout =
      (command t windows root tool).bind fun c =>
        (arguments tool (some target)).map fun args => ⟨c, args, root.toText, timeout⟩ := by
  simp [invocation, checkTarget, h, bind, Except.bind, pure, Except.pure, Except.map]

/-- **The target of a command**: targets are the well-formed names, and no other text gets as far as
a command line. The command for a target is the one for all tests, unless its wrapper scripts cannot
be looked for, and it holds the target, which can do no harm there, in one place. -/
theorem invocation_target (t : FileTree) (windows : Bool) (root : Path) {tool : Tool}
    (htool : tool ≠ .unknown) (target : Text) (timeout : Binary64) :
    (isTarget target = true ↔ WellFormed target) ∧
      (¬ WellFormed target → invocation t windows root tool (some target) timeout =
        .error (.invalidTarget target)) ∧
      (WellFormed target →
        (∃ w e, tool.wrapper? = some w ∧ WrapperTrouble t root w e ∧
          invocation t windows root tool (some target) timeout = .error (.files e)) ∨
        ∃ i, invocation t windows root tool (some target) timeout = .ok i ∧
          command t windows root tool = .ok i.command ∧ i.dir = root.toText ∧
          i.timeout = timeout ∧ Narrowed target tool i.argv ∧
          i.argv.length = (if tool = .gradle then 5 else 3) ∧ Harmless target) := by
  refine ⟨isTarget_iff, fun h => ?_, fun h => ?_⟩
  · exact invocation_of_wrong (by simpa using isTarget_iff.not.mpr h) timeout
  obtain ⟨w, hw⟩ := exists_wrapper_of_known htool
  have hright : invocation t windows root tool (some target) timeout =
      (command t windows root tool).bind fun c =>
        (arguments tool (some target)).map fun args => ⟨c, args, root.toText, timeout⟩ :=
    invocation_of_right (isTarget_iff.mpr h) timeout
  have hcases : (∃ e, WrapperTrouble t root w e) ∨ ∃ c, command t windows root tool = .ok c :=
    command_cases hw
  rcases hcases with ⟨e, he⟩ | ⟨c, hc⟩
  · refine .inl ⟨w, e, hw, he, ?_⟩
    rw [hright, command_of_trouble hw he]
    rfl
  · obtain ⟨args, hargs, hnarrowed⟩ := exists_narrowed htool c target
    refine .inr ⟨⟨c, args, root.toText, timeout⟩, ?_, hc, rfl, rfl, hnarrowed, hnarrowed.length,
      h.harmless⟩
    rw [hright, hc, hargs]
    rfl

theorem invocation_target_star :
    Tool.maven ≠ .unknown ∧ WellFormed "com.a$b.C_1*".toList ∧
      ∃ i, invocation project false ⟨.none, []⟩ .maven (some "com.a$b.C_1*".toList)
          defaultTimeout = .ok i ∧
        i.argv = ["mvn".toList, "test".toList, "-Dtest=com.a$b.C_1*".toList] ∧
        Harmless "com.a$b.C_1*".toList := by
  have htool : Tool.maven ≠ .unknown := by decide
  obtain ⟨hiff, -, hright⟩ :=
    invocation_target project false ⟨.none, []⟩ htool "com.a$b.C_1*".toList defaultTimeout
  have hname : WellFormed "com.a$b.C_1*".toList := hiff.mp (by decide)
  refine ⟨htool, hname, ?_⟩
  have hcommand : command project false ⟨.none, []⟩ .maven = .ok "mvn".toList := by decide +kernel
  rcases hright hname with ⟨w, e, hw, he, -⟩ | ⟨i, hi, hc, -, -, hargv, -, hharmless⟩
  · rw [command_of_trouble hw he] at hcommand
    cases hcommand
  · refine ⟨i, hi, ?_, hharmless⟩
    have hmvn : i.command = "mvn".toList := Except.ok.inj (hc.symm.trans hcommand)
    obtain ⟨c, args, dir, timeout⟩ := i
    cases hargv
    rw [← hmvn]
    rfl

/-- Below a root whose name is too long nothing can be looked for, so a right name gets no
command. -/
theorem invocation_target_long :
    isTarget "FooTest".toList = true ∧
      invocation (treeOf .nil) false ⟨.none, [List.replicate 256 'x']⟩ .gradle
        (some "FooTest".toList) defaultTimeout =
      .error (.files (.refused .nameTooLong
        (List.replicate 256 'x' ++ "/gradlew".toList))) := by
  decide +kernel

end TestWeaver.Proofs.TargetNames
