import TestWeaver.Proofs.MergedBraces
import TestWeaver.Proofs.ScanReference
import TestWeaver.Source.Unit

/-!
The first type of a text, as the scan finds it and as the unit names it.

The scan looks for a type behind comments and behind the annotations of a line, and the unit looks
at the lines as they are. A line that declares a type as it stands is found by both. So they agree
unless the scan finds the type behind an annotation: then the unit takes its name from the first
line below that has none, if there is one.
-/

namespace TestWeaver.Proofs.FirstType

open Source Text ImportStatement MergedBraces ScanMoves ScanStream ScanReference

/-- The line at which the scan finds a type. -/
def foundOn? (source : Text) : Option Text :=
  (((lines source).zip (trace .initial 1 (lines source))).find? fun p =>
    p.2.1.phase ≠ .seekingUnit).map Prod.fst

/-- The name of the type that is declared behind the annotations of a line. -/
def nameOn (l : Text) : Option Text := declaredType? (dropAnnotations l)

/-- The unit has the name that is declared on the line at which the scan finds a type, and there is
no unit where the scan finds none. -/
def NamesFound (source : Text) : Prop :=
  (unit? source).map CompilationUnit.name = (foundOn? source).bind nameOn

instance : DecidablePred NamesFound := fun _ => inferInstanceAs (Decidable (_ = _))

/-! ### The scan -/

/-- Whether the scan finds a type on the line. -/
def opensType (l : Text) : Bool := !isCommentOrBlank l && declaresType (dropAnnotations l)

lemma step_initial (l : Text) (n : Int) :
    (step .initial l n).1 = if opensType l then between else .initial := by
  have hm := step_move .initial l n
  revert hm
  generalize (step .initial l n).1 = s', (step .initial l n).2 = e
  intro hm
  cases hm with
  | comment hc => simp [opensType, hc]
  | type hc hp ht => simp [opensType, hc, ht, between, ScanState.initial]
  | before hc hp ht => simp [opensType, hc, ht]
  | _ => simp_all [ScanState.initial]

lemma foundOn?_eq (source : Text) : foundOn? source = (lines source).find? opensType := by
  have hrun : ∀ (ls : List Text) (n : Int), ((ls.zip (trace .initial n ls)).find? fun p =>
      p.2.1.phase ≠ .seekingUnit).map Prod.fst = ls.find? opensType := by
    intro ls
    induction ls with
    | nil => exact fun n => rfl
    | cons l ls ih =>
      intro n
      have hstep := step_initial l n
      rcases hl : opensType l with _ | _
      · rw [hl, if_neg Bool.false_ne_true] at hstep
        have hphase : (step .initial l n).1.phase = .seekingUnit := by rw [hstep]; rfl
        rw [trace, List.zip_cons_cons, List.find?_cons_of_neg (by simp [hphase]),
          List.find?_cons_of_neg (by simp [hl]), hstep]
        exact ih (n + 1)
      · rw [hl, if_pos rfl] at hstep
        simp [trace, hstep, hl, between]
  exact hrun _ 1

/-- The scan finds members below the first declaration of a type. -/
lemma exists_declaration {rows : List Row} (hcode : ∀ r ∈ rows, isCommentOrBlank r.1 = false)
    {m : Member} (hm : m ∈ completed .initial rows) :
    ∃ above r below, rows = above ++ r :: below ∧ declaresType (dropAnnotations r.1) = true ∧
      m ∈ membersIn below := by
  induction rows with
  | nil => cases hm
  | cons r rows ih =>
    obtain ⟨hc, hrest⟩ := List.forall_mem_cons.mp hcode
    rw [completed_initial hc] at hm
    split at hm
    · next ht =>
      rw [completed_eq_membersIn rows hrest] at hm
      exact ⟨[], r, rows, rfl, ht, hm⟩
    · obtain ⟨above, q, below, rfl, hq⟩ := ih hrest hm
      exact ⟨r :: above, q, below, rfl, hq⟩

lemma codeRows_code (source : Text) : ∀ r ∈ codeRows source, isCommentOrBlank r.1 = false := by
  intro r hr
  simpa using (List.mem_filter.mp hr).2

/-- Where there are members the scan has found a type. -/
lemma foundOn?_of_members {source : Text} (h : members source ≠ []) : foundOn? source ≠ none := by
  obtain ⟨m, hm⟩ := List.exists_mem_of_ne_nil _ h
  rw [members_eq_completed] at hm
  obtain ⟨above, r, below, hrows, ht, -⟩ := exists_declaration (codeRows_code source) hm
  have hr : r ∈ codeRows source := by simp [hrows]
  have hline : r.1 ∈ lines source := List.fst_mem_of_mem_zipIdx (List.mem_filter.mp hr).1
  rw [foundOn?_eq]
  intro hnone
  have hopens : opensType r.1 = true := by simp [opensType, codeRows_code source r hr, ht]
  exact List.find?_eq_none.mp hnone r.1 hline hopens

/-! ### Declarations as they stand -/

/-- A declaration begins with a modifier or a keyword. -/
lemma trimStart_of_declaredType? {l n : Text} (h : declaredType? l = some n) :
    ∃ c s, trimStart l = c :: s ∧ isWordChar c = true := by
  have hword : ∀ w ∈ typeModifiers ++ typeKeywords, w.head?.any isWordChar = true := by decide
  have hstart : ∃ w ∈ typeModifiers ++ typeKeywords, ∃ r, trimStart l = w ++ r := by
    obtain ⟨q, hq, -⟩ := Option.bind_eq_some_iff.mp h
    rw [modifiers] at hq
    rcases hlen : (trimStart l).length with _ | k
    · rw [List.length_eq_zero_iff.mp hlen] at hq
      cases hq
    rw [hlen, modifiersIn] at hq
    split at hq
    · obtain ⟨hw, hr⟩ := afterAny?_eq_some hq
      exact ⟨q.1, List.mem_append_right _ hw, q.2, hr⟩
    · next m t hm =>
      obtain ⟨hw, hr⟩ := afterAny?_eq_some hm
      exact ⟨m, List.mem_append_left _ hw, t, hr⟩
  obtain ⟨w, hw, r, hr⟩ := hstart
  have hchar := hword w hw
  rcases w with _ | ⟨c, t⟩
  · cases hchar
  · exact ⟨c, t ++ r, hr, hchar⟩

lemma dropAnnotations_of_plain {l : Text} (h : startsAnnotation l = false) :
    dropAnnotations l = l := by
  have hnone : afterAnnotation? (trimStart l) = none := by
    rw [afterAnnotation?.eq_def]
    split
    · next s hs => simp [ startsAnnotation, hs] at h
    · rfl
  rw [dropAnnotations, hnone]

/-- A line that begins with neither a star nor a slash is no comment. -/
lemma code_of_head {l s : Text} {c : Char} (hs : trimStart l = c :: s) (hb : isBlank c = false)
    (hstar : c ≠ '*') (hslash : c ≠ '/') : isCommentOrBlank l = false := by
  obtain ⟨b, hblanks, htrim⟩ := exists_trimEnd (trimStart l)
  rw [isCommentOrBlank, trim]
  rw [hs] at htrim ⊢
  rcases ht : trimEnd (c :: s) with _ | ⟨d, t⟩
  · rw [ht, List.nil_append] at htrim
    rw [hblanks c (htrim ▸ List.mem_cons_self ..)] at hb
    cases hb
  · rw [ht] at htrim
    obtain ⟨rfl, -⟩ := List.cons.inj htrim
    split <;> simp_all

/-- A line that declares a type as it stands has no annotation in front and is no comment. -/
lemma plain_of_declaredType? {l n : Text} (h : declaredType? l = some n) :
    startsAnnotation l = false ∧ opensType l = true := by
  obtain ⟨c, s, hs, hc⟩ := trimStart_of_declaredType? h
  have hne : ∀ d, isWordChar d = false → c ≠ d := by
    rintro d hd rfl
    rw [hc] at hd
    cases hd
  have hplain : startsAnnotation l = false := by
    simpa [ startsAnnotation, hs] using hne '@' (by decide)
  have hcode : isCommentOrBlank l = false :=
    code_of_head hs (not_blank_of_wordChar hc) (hne '*' (by decide)) (hne '/' (by decide))
  refine ⟨hplain, ?_⟩
  rw [opensType, hcode, dropAnnotations_of_plain hplain, declaresType, h]
  rfl

lemma declaredType?_ne_nil {l n : Text} (h : declaredType? l = some n) : n ≠ [] := by
  obtain ⟨q, -, h⟩ := Option.bind_eq_some_iff.mp h
  obtain ⟨s, -, h⟩ := Option.bind_eq_some_iff.mp h
  obtain ⟨⟨w, r⟩, hw, hn⟩ := Option.bind_eq_some_iff.mp h
  obtain rfl : w = n := Option.some.inj hn
  rw [word?] at hw
  split at hw
  · cases hw
  · obtain ⟨rfl, -⟩ := Prod.mk.inj (Option.some.inj hw)
    exact List.cons_ne_nil _ _

/-! ### The unit -/

/-- The unit is named on the first line that declares a type as it stands. -/
lemma unit?_name (source : Text) : (unit? source).map CompilationUnit.name =
    ((lines source).find? declaresType).bind declaredType? := by
  have hfirst : ∀ ls : List Text,
      ls.findSome? declaredType? = (ls.find? declaresType).bind declaredType? := by
    intro ls
    induction ls with
    | nil => rfl
    | cons l ls ih =>
      rcases hl : declaredType? l with _ | n
      · rw [List.findSome?_cons, hl, List.find?_cons_of_neg (by simp [declaresType, hl]), ih]
      · rw [List.findSome?_cons, hl, List.find?_cons_of_pos (by simp [declaresType, hl]),
          Option.bind_some, hl]
  rw [← hfirst, unit?, typeName]
  rcases hn : (lines source).findSome? declaredType? with _ | n
  · rfl
  · obtain ⟨l, -, hl⟩ := List.exists_of_findSome?_eq_some hn
    obtain ⟨c, w, rfl⟩ := List.exists_cons_of_ne_nil (declaredType?_ne_nil hl)
    rfl

/-- A line that is found without an annotation in front is the first declaration as it stands. -/
lemma find?_declaresType {ls : List Text} {l : Text} (h : ls.find? opensType = some l)
    (hplain : startsAnnotation l = false) : ls.find? declaresType = some l := by
  obtain ⟨hl, as, bs, hls, has⟩ := List.find?_eq_some_iff_append.mp h
  have hdeclares : declaresType l = true := by
    rw [opensType, dropAnnotations_of_plain hplain] at hl
    exact (Bool.and_eq_true_iff.mp hl).2
  refine List.find?_eq_some_iff_append.mpr ⟨hdeclares, as, bs, hls, fun a ha => ?_⟩
  rcases hd : declaredType? a with _ | n
  · simp [declaresType, hd]
  · have hopens := has a ha
    rw [(plain_of_declaredType? hd).2] at hopens
    cases hopens

/-- **Scan and unit**: where the scan finds no type there is no unit, and no member is found
without a type. The unit has the name that the scan finds just where no annotation stands in front
of the type, or the first line that declares one as it stands repeats its name. -/
theorem namesFound_iff (source : Text) :
    (foundOn? source = none → unit? source = none) ∧
    (members source ≠ [] → foundOn? source ≠ none) ∧
    (NamesFound source ↔ ∀ l ∈ foundOn? source, startsAnnotation l = false ∨
      ∃ l' ∈ (lines source).find? declaresType, declaredType? l' = nameOn l) := by
  have hname := unit?_name source
  have hnone : foundOn? source = none → (lines source).find? declaresType = none := by
    rw [foundOn?_eq]
    intro h
    refine List.find?_eq_none.mpr fun l hl hdeclares => List.find?_eq_none.mp h l hl ?_
    obtain ⟨n, hn⟩ := Option.isSome_iff_exists.mp hdeclares
    exact (plain_of_declaredType? hn).2
  refine ⟨fun h => ?_, foundOn?_of_members, ?_⟩
  · rw [hnone h] at hname
    exact Option.map_eq_none_iff.mp hname
  rw [NamesFound, hname]
  rcases hfound : foundOn? source with _ | l
  · simp [hnone hfound]
  have hopens : (lines source).find? opensType = some l := by rw [← foundOn?_eq, hfound]
  have hl : opensType l = true := List.find?_some hopens
  obtain ⟨n, hn⟩ := Option.isSome_iff_exists.mp (Bool.and_eq_true_iff.mp hl).2
  have hn : nameOn l = some n := hn
  simp only [Option.mem_some_iff, forall_eq', Option.bind_some, hn]
  rcases hplain : startsAnnotation l with _ | _
  · -- the unit is named on the same line
    have hunit : declaredType? l = some n := by
      rw [← hn, nameOn, dropAnnotations_of_plain hplain]
    simp [find?_declaresType hopens hplain, hunit]
  · rw [or_iff_right (by simp)]
    exact Option.bind_eq_some_iff

/-- Annotations on lines of their own are read alike. -/
theorem namesFound_plain :
    let source := "@Component\npublic class Registry \x7b\n    void run() \x7b\x7d\n\x7d".toList
    NamesFound source ∧ (unit? source).map CompilationUnit.name = some "Registry".toList := by
  intro source
  have hfound : foundOn? source = some "public class Registry \x7b".toList := by decide +kernel
  have hnames : NamesFound source := by
    refine (namesFound_iff source).2.2.mpr fun l hl => .inl ?_
    obtain rfl := Option.some.inj (hfound.symm.trans hl)
    decide +kernel
  refine ⟨hnames, ?_⟩
  rw [hnames, hfound]
  decide +kernel

/-- A type behind an annotation has members, but the text no unit. -/
theorem namesFound_annotated :
    let source := "@Component public class Registry \x7b\n    void run() \x7b\x7d\n\x7d".toList
    ¬ NamesFound source ∧ (foundOn? source).bind nameOn = some "Registry".toList ∧
      members source ≠ [] ∧ unit? source = none := by
  intro source
  exact ⟨by decide +kernel, by decide +kernel, by decide +kernel, by decide +kernel⟩

end TestWeaver.Proofs.FirstType
