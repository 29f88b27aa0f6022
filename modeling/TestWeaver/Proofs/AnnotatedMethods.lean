import TestWeaver.Proofs.LeadingAnnotations
import TestWeaver.Proofs.TestSearch

/-!
The test methods of a class, as the search finds them.

A line that starts with the test annotation arms the search and is looked at no further; the next
line that declares a `void` method answers it. So an annotation in front of its method, on the same
line, goes to a method below, and one behind another annotation is not seen at all. Since no method
can answer twice, the search finds the annotated methods just where each of them answers its own
annotation.
-/

namespace TestWeaver.Proofs.AnnotatedMethods

open Source Text ImportStatement HeaderText LeadingAnnotations

/-! ### Classes -/

/-- The annotation is that of tests, perhaps with a further name behind a dot. -/
def isTest (a : Annotation) : Bool := a.name.takeWhile isWordChar = "Test".toList

/-- A line with annotations and nothing else. -/
structure AnnotationLine where
  indent : Text
  annotations : List Annotation

namespace AnnotationLine

def text (l : AnnotationLine) : Text := l.indent ++ texts l.annotations

structure Spelled (l : AnnotationLine) : Prop where
  indent : Blanks l.indent
  nonempty : l.annotations ≠ []
  annotations : ∀ a ∈ l.annotations, a.Spelled

end AnnotationLine

/-- A name, not only of word characters. -/
def Unbroken (n : Text) : Prop := n ≠ [] ∧ ∀ c ∈ n, isBlank c = false ∧ c ≠ '('

instance : DecidablePred Unbroken := fun n =>
  @instDecidableAnd (n ≠ []) _ inferInstance (List.decidableBAll _ n)

/-- The header of a `void` method up to its parenthesis, with whatever follows on the line. -/
inductive VoidHeader (name : Text) : Text → Prop
  | mk {b₁ b₂ rest : Text} (h₁ : Blanks b₁) (hne : b₁ ≠ []) (hname : Unbroken name)
      (h₂ : Blanks b₂) : VoidHeader name ("void".toList ++ (b₁ ++ (name ++ (b₂ ++ '(' :: rest))))

/-- A header with an access modifier or without. Annotations may stand behind the modifier. -/
inductive Declared (name : Text) : List Annotation → Text → Prop
  | plain {s : Text} (h : VoidHeader name s) : Declared name [] s
  | access {m b s : Text} {as : List Annotation} (hm : m ∈ accessModifiers) (hb : Blanks b)
      (hne : b ≠ []) (h : VoidHeader name s) : Declared name as (m ++ (b ++ (texts as ++ s)))

/-- A method as it is written down: annotations on lines above it, perhaps some in front of it and
behind its access modifier, and the lines from its header down to the next method. -/
structure Method where
  above : List AnnotationLine
  indent : Text
  front : List Annotation
  behind : List Annotation
  header : Text
  name : Text
  body : List Text

namespace Method

def row (m : Method) : Text := m.indent ++ (texts m.front ++ m.header)

def rows (m : Method) : List Text := m.above.map AnnotationLine.text ++ m.row :: m.body

def annotations (m : Method) : List Annotation :=
  m.above.flatMap AnnotationLine.annotations ++ (m.front ++ m.behind)

def annotated (m : Method) : Bool := m.annotations.any isTest

structure Spelled (m : Method) : Prop where
  above : ∀ l ∈ m.above, l.Spelled
  indent : Blanks m.indent
  front : ∀ a ∈ m.front, a.Spelled
  apart : ∀ a ∈ m.front.getLast?, a.Apart
  header : Declared m.name m.behind m.header
  body : ∀ l ∈ m.body, annotatesTest l = false

/-- The annotation begins a line above the method, and the line of the method begins with its
header. -/
structure Plain (m : Method) : Prop where
  above : ∃ l ∈ m.above, ∃ a ∈ l.annotations.head?, isTest a = true
  front : m.front = []
  behind : m.behind = []
  name : Word m.name

end Method

/-! ### What lines mean to the search -/

/-- A line is a mark if it starts with the test annotation, or else declares a `void` method. -/
inductive Mark where
  | test
  | method (name : Text)
deriving DecidableEq

def mark? (l : Text) : Option Mark :=
  if annotatesTest l then some .test else (testMethod? l).map .method

def marks (ls : List Text) : List Mark := ls.filterMap mark?

/-- The methods that answer, the search being armed or not. -/
def answers : Bool → List Mark → List Text
  | _, [] => []
  | _, .test :: ms => answers true ms
  | true, .method n :: ms => n :: answers false ms
  | false, .method _ :: ms => answers false ms

/-- The method answers its own annotation: of the marks behind the last test annotation that one of
its lines starts with, in the method or below, the first has its name. -/
def Method.Answered (m : Method) (below : List Method) : Prop :=
  ∃ earlier later, marks m.rows = earlier ++ .test :: later ∧ .test ∉ later ∧
    (later ++ marks (below.flatMap Method.rows)).head? = some (.method m.name)

lemma marks_cons (l : Text) (ls : List Text) : marks (l :: ls) = (mark? l).toList ++ marks ls := by
  rw [marks, List.filterMap_cons, marks]
  cases mark? l <;> rfl

lemma marks_append (ls ms : List Text) : marks (ls ++ ms) = marks ls ++ marks ms :=
  List.filterMap_append ..

lemma testMethodsIn_eq (armed : Bool) (ls : List Text) :
    testMethodsIn armed ls = answers armed (marks ls) := by
  induction ls generalizing armed with
  | nil => cases armed <;> rfl
  | cons l ls ih =>
    rw [TestSearch.testMethodsIn_cons, ih, marks_cons, mark?]
    cases annotatesTest l <;> cases testMethod? l <;> cases armed <;> rfl

/-- Methods that nothing asks for are passed over. -/
lemma answers_methods (names : List Text) (ms : List Mark) :
    answers false (names.map .method ++ ms) = answers false ms := by
  induction names with
  | nil => rfl
  | cons n names ih => exact ih

lemma answers_tests {armed : Bool} (k : ℕ) (ms : List Mark) :
    answers armed (List.replicate k .test ++ ms) = answers (armed || 0 < k) ms := by
  induction k generalizing armed with
  | zero => simp
  | succ k ih =>
    rw [List.replicate_succ, List.cons_append]
    cases armed <;> simp [answers, ih]

/-! ### The marks of a method -/

/-- Behind the at sign stands a word. -/
lemma annotatesTest_at {b : Text} (hb : Blanks b) (s : Text) :
    annotatesTest (b ++ '@' :: s) = decide (s.takeWhile isWordChar = "Test".toList) := by
  have htrim : trimStart (b ++ '@' :: s) = '@' :: s := by
    rw [trimStart_append hb, trimStart_of_head (by decide)]
  have hat : after? "@Test".toList ('@' :: s) = after? "Test".toList s := rfl
  have hword : ∀ c ∈ "Test".toList, isWordChar c = true := List.all_eq_true.mp (by decide)
  rw [annotatesTest, htrim, hat]
  rcases hr : after? "Test".toList s with _ | r
  · -- the word begins otherwise
    refine (decide_eq_false fun htake => ?_).symm
    rw [← List.takeWhile_append_dropWhile (p := isWordChar) (l := s), htake, after?_append] at hr
    cases hr
  · rw [eq_append_of_after? hr, List.takeWhile_append_of_pos hword]
    rcases r with _ | ⟨c, r⟩
    · simp
    · cases hc : isWordChar c <;> simp [hc]

lemma testMethod?_at {b : Text} (hb : Blanks b) (s : Text) :
    testMethod? (b ++ '@' :: s) = none := by
  have htrim : trimStart (b ++ '@' :: s) = '@' :: s := by
    rw [trimStart_append hb, trimStart_of_head (by decide)]
  rw [testMethod?, htrim]
  rfl

/-- What stands behind the name of an annotation is no part of it. -/
lemma behind_name {a : Annotation} (ha : a.Spelled) {as : List Annotation} {s : Text}
    (hs : as = [] → a.Apart ∨ s = []) :
    ∀ c ∈ (parentheses a.arguments ++ (a.space ++ (texts as ++ s))).head?,
      isWordChar c = false := by
  intro c hc
  rcases hargs : a.arguments with _ | i
  · rw [hargs, parentheses, List.nil_append] at hc
    rcases hspace : a.space with _ | ⟨d, b⟩
    · rw [hspace, List.nil_append] at hc
      rcases as with _ | ⟨a', as⟩
      · rcases hs rfl with happart | rfl
        · exact absurd hspace (happart hargs)
        · cases hc
      · obtain rfl : '@' = c := Option.some.inj hc
        decide
    · rw [hspace] at hc
      obtain rfl : d = c := Option.some.inj hc
      have hblank : isBlank d = true := ha.space d (by simp [hspace])
      by_contra hword
      rw [not_blank_of_wordChar (by simpa using hword)] at hblank
      cases hblank
  · rw [hargs] at hc
    obtain rfl : '(' = c := Option.some.inj hc
    decide

/-- A line that starts with an annotation is a mark if this is a test annotation. -/
lemma mark?_annotations {b : Text} (hb : Blanks b) {a : Annotation} (ha : a.Spelled)
    {as : List Annotation} {s : Text} (hs : as = [] → a.Apart ∨ s = []) :
    mark? (b ++ (texts (a :: as) ++ s)) = if isTest a then some .test else none := by
  have htext : texts (a :: as) ++ s = '@' :: (a.name ++
      (parentheses a.arguments ++ (a.space ++ (texts as ++ s)))) := by
    simp [texts, Annotation.text]
  have hstop := behind_name ha hs
  revert hstop htext
  generalize parentheses a.arguments ++ (a.space ++ (texts as ++ s)) = r
  intro htext hstop
  have htake : (a.name ++ r).takeWhile isWordChar = a.name.takeWhile isWordChar := by
    have hr : r.takeWhile isWordChar = [] := by
      rcases r with _ | ⟨c, r⟩
      · rfl
      · simp [hstop c rfl]
    rw [List.takeWhile_append]
    split
    · next hlen => rw [hr, List.append_nil, (List.takeWhile_prefix _).eq_of_length hlen]
    · rfl
  rw [htext, mark?, annotatesTest_at hb, testMethod?_at hb, htake]
  rfl

/-- Lines of annotations are nothing but test annotations to the search. -/
lemma marks_above {ls : List AnnotationLine} (hls : ∀ l ∈ ls, l.Spelled) :
    ∃ k, marks (ls.map AnnotationLine.text) = List.replicate k .test ∧
      (0 < k ↔ ∃ l ∈ ls, ∃ a ∈ l.annotations.head?, isTest a = true) := by
  induction ls with
  | nil => exact ⟨0, rfl, by simp⟩
  | cons l ls ih =>
    obtain ⟨hl, hls⟩ := List.forall_mem_cons.mp hls
    obtain ⟨k, hk, hiff⟩ := ih hls
    obtain ⟨a, as, has⟩ := List.exists_cons_of_ne_nil hl.nonempty
    have hmark : mark? l.text = if isTest a then some .test else none := by
      have hread : mark? (l.indent ++ (texts (a :: as) ++ [])) =
          if isTest a then some .test else none :=
        mark?_annotations hl.indent (hl.annotations a (by simp [has])) fun _ => .inr rfl
      rwa [List.append_nil, ← has] at hread
    rw [List.map_cons, marks_cons, hmark, hk]
    simp only [List.mem_cons, exists_eq_or_imp, has, List.head?_cons, Option.mem_some_iff,
      exists_eq_left', ← hiff]
    rcases isTest a with _ | _
    · exact ⟨k, rfl, by simp⟩
    · exact ⟨k + 1, rfl, by simp⟩

/-- Lines that start with no test annotation declare methods or nothing. -/
lemma marks_bare {ls : List Text} (h : ∀ l ∈ ls, annotatesTest l = false) :
    ∃ names : List Text, marks ls = names.map .method := by
  refine ⟨ls.filterMap testMethod?, ?_⟩
  rw [marks, List.map_filterMap]
  refine List.filterMap_congr fun l hl => ?_
  rw [mark?, h l hl, if_neg Bool.false_ne_true]

lemma declared_head {name s : Text} {as : List Annotation} (h : Declared name as s) :
    ∃ c r, s = c :: r ∧ isBlank c = false ∧ c ≠ '@' := by
  cases h with
  | plain h =>
    cases h
    exact ⟨'v', _, rfl, by decide, by decide⟩
  | @access m b s as hm hb hne h =>
    have hfirst : ∀ m ∈ accessModifiers, m.head? = some 'p' := by decide
    obtain ⟨r, rfl⟩ := List.head?_eq_some_iff.mp (hfirst m hm)
    exact ⟨'p', _, rfl, by decide, by decide⟩

/-- A line that begins with the header of its method starts with no annotation. -/
lemma annotatesTest_declared {b name s : Text} {as : List Annotation} (hb : Blanks b)
    (h : Declared name as s) : annotatesTest (b ++ s) = false := by
  obtain ⟨c, r, rfl, hc, hat⟩ := declared_head h
  have hnone : after? "@Test".toList (c :: r) = none := if_neg (Ne.symm hat)
  rw [annotatesTest, trimStart_append hb, trimStart_of_head hc, hnone]

lemma afterKeyword?_void {name b s : Text} (hb : Blanks b) (hname : Word name)
    (h : VoidHeader name s) :
    ∃ b' rest, Blanks b' ∧ afterKeyword? "void" (b ++ s) = some (name ++ (b' ++ '(' :: rest)) := by
  cases h with
  | @mk b₁ b₂ rest h₁ hne _ h₂ =>
    refine ⟨b₂, rest, h₂, ?_⟩
    obtain ⟨c, n, rfl⟩ := List.exists_cons_of_ne_nil hname.1
    have hc : isBlank c = false := not_blank_of_wordChar (hname.2 c (List.mem_cons_self ..))
    have hvoid : ∀ x, trimStart ("void".toList ++ x) = "void".toList ++ x := fun x =>
      trimStart_of_head (by decide)
    rw [afterKeyword?, trimStart_append hb, hvoid, after?_append, Option.bind_some,
      afterBlanks?_append h₁ hne, List.cons_append, trimStart_of_head hc]

/-- A header without annotations declares its method. -/
lemma testMethod?_declared {b name s : Text} (hb : Blanks b) (hname : Word name)
    (h : Declared name [] s) : testMethod? (b ++ s) = some name := by
  have hread : ∃ b' rest, Blanks b' ∧
      afterKeyword? "void" (((afterAny? accessModifiers s).map Prod.snd).getD s) =
        some (name ++ (b' ++ '(' :: rest)) := by
    cases h with
    | plain h =>
      have hnone : afterAny? accessModifiers s = none := by
        cases h
        rfl
      rw [hnone]
      exact afterKeyword?_void (b := []) (fun c hc => by cases hc) hname h
    | @access m b' s _ hm hb' hne h =>
      have hsome : afterAny? accessModifiers (m ++ (b' ++ s)) = some (m, b' ++ s) := by
        simp only [accessModifiers, List.map_cons, List.map_nil, List.mem_cons, List.not_mem_nil,
          or_false] at hm
        rcases hm with rfl | rfl | rfl <;> rfl
      rw [show texts [] ++ s = s from rfl, hsome]
      exact afterKeyword?_void hb' hname h
  obtain ⟨c, r, hs, hc, -⟩ := declared_head h
  obtain ⟨b', rest, hb', hread⟩ := hread
  obtain ⟨hword, hopen⟩ := word?_append hname hb' rest
  have htrim : trimStart (b ++ s) = s := by rw [trimStart_append hb, hs, trimStart_of_head hc]
  simp only [testMethod?, htrim, hread, hword, hopen, Option.bind_eq_bind, Option.bind_some,
    Option.pure_def]

lemma annotated_of_above {m : Method}
    (h : ∃ l ∈ m.above, ∃ a ∈ l.annotations.head?, isTest a = true) : m.annotated = true := by
  obtain ⟨l, hl, a, ha, htest⟩ := h
  have hmem : a ∈ m.above.flatMap AnnotationLine.annotations :=
    List.mem_flatMap.mpr ⟨l, hl, List.mem_of_mem_head? ha⟩
  exact List.any_eq_true.mpr ⟨a, List.mem_append_left _ hmem, htest⟩

/-- The lines of a method are some test annotations and then methods. Where it is written down
plainly there is an annotation, and the first of the methods is itself. -/
lemma exists_marks {m : Method} (hm : m.Spelled) : ∃ (k : ℕ) (names : List Text),
    marks m.rows = List.replicate k .test ++ names.map .method ∧ (0 < k → m.annotated = true) ∧
      (m.Plain → 0 < k ∧ names.head? = some m.name) := by
  obtain ⟨k, hk, hiff⟩ := marks_above hm.above
  obtain ⟨names, hnames⟩ := marks_bare hm.body
  have habove : 0 < k → m.annotated = true := fun h => annotated_of_above (hiff.mp h)
  have hrows : marks m.rows =
      List.replicate k .test ++ ((mark? m.row).toList ++ names.map .method) := by
    rw [Method.rows, marks_append, hk, marks_cons, hnames]
  rcases hfront : m.front with _ | ⟨a, as⟩
  · have hbare : annotatesTest m.row = false := by
      rw [Method.row, hfront]
      exact annotatesTest_declared hm.indent hm.header
    have hrow : mark? m.row = (testMethod? m.row).map .method := by
      rw [mark?, hbare, if_neg Bool.false_ne_true]
    refine ⟨k, (testMethod? m.row).toList ++ names, ?_, habove, fun h => ⟨hiff.mpr h.above, ?_⟩⟩
    · rw [hrows, hrow, List.map_append]
      cases testMethod? m.row <;> rfl
    · have hdeclared : Declared m.name [] m.header := h.behind ▸ hm.header
      have hread : testMethod? m.row = some m.name := by
        rw [Method.row, hfront]
        exact testMethod?_declared hm.indent h.name hdeclared
      rw [hread]
      rfl
  · have hrow : mark? m.row = if isTest a then some .test else none := by
      rw [Method.row, hfront]
      refine mark?_annotations hm.indent (hm.front a (by simp [hfront])) fun has => .inl ?_
      exact hm.apart a (by simp [hfront, has])
    have hplain : ¬ m.Plain := fun h => by
      rw [h.front] at hfront
      cases hfront
    rcases htest : isTest a with _ | _
    · rw [hrow, htest] at hrows
      exact ⟨k, names, hrows, habove, fun h => absurd h hplain⟩
    · rw [hrow, htest] at hrows
      refine ⟨k + 1, names, ?_, fun _ => ?_, fun h => absurd h hplain⟩
      · rw [hrows, List.replicate_succ', List.append_assoc]
        rfl
      · exact List.any_eq_true.mpr ⟨a, by simp [Method.annotations, hfront], htest⟩

/-! ### Answers -/

variable {m : Method} {ms : List Method} {k : ℕ} {names : List Text} {rest : List Mark}

lemma answers_map (armed : Bool) : answers armed (names.map .method ++ rest) =
    if armed then
      match names with
      | [] => answers true rest
      | n :: _ => n :: answers false rest
    else answers false rest := by
  cases armed with
  | false => exact answers_methods names rest
  | true =>
    cases names with
    | nil => rfl
    | cons n names => exact congrArg (n :: ·) (answers_methods names rest)

/-- The marks behind the last annotation of a method are those of the methods it declares. -/
lemma answered_iff (h : marks m.rows = List.replicate k .test ++ names.map .method)
    (below : List Method) : m.Answered below ↔
      0 < k ∧ (names.map Mark.method ++ marks (below.flatMap Method.rows)).head? =
        some (.method m.name) := by
  have hfree : .test ∉ names.map Mark.method := by simp
  rw [Method.Answered, h]
  constructor
  · rintro ⟨earlier, later, hsplit, hlater, hhead⟩
    rcases List.append_eq_append_iff.mp hsplit with ⟨z, -, hz⟩ | ⟨z, hk, hz⟩
    · exact absurd (by simp [hz]) hfree
    · rcases z with _ | ⟨t, z⟩
      · exact absurd (by rw [← List.nil_append (names.map _), ← hz]; simp) hfree
      obtain ⟨rfl, rfl⟩ := List.cons.inj hz
      have hz : z = [] := by
        refine List.eq_nil_iff_forall_not_mem.mpr fun t ht => hlater ?_
        obtain rfl : t = .test := List.eq_of_mem_replicate (n := k) (by simp [hk, ht])
        exact List.mem_append_left _ ht
      subst hz
      have hpos : 0 < (List.replicate k Mark.test).length := by simp [hk]
      exact ⟨by simpa using hpos, hhead⟩
  · rintro ⟨hk, hhead⟩
    obtain ⟨k, rfl⟩ : ∃ j, k = j + 1 := ⟨k - 1, by omega⟩
    exact ⟨List.replicate k .test, names.map .method, by simp [List.replicate_succ'], hfree, hhead⟩

/-- The names of the annotated methods. -/
def annotatedNames (ms : List Method) : List Text := (ms.filter Method.annotated).map Method.name

/-- Every annotated method answers its own annotation. -/
def EachAnswered : List Method → Prop
  | [] => True
  | m :: ms => (m.annotated = true → m.Answered ms) ∧ EachAnswered ms

lemma annotatedNames_cons (m : Method) (ms : List Method) : annotatedNames (m :: ms) =
    (if m.annotated then [m.name] else []) ++ annotatedNames ms := by
  rw [annotatedNames, List.filter_cons, annotatedNames]
  split <;> rfl

/-- What the search comes to on marks, an annotation with an owner being still open above them or
none: it has one answer at most for that annotation and for each method that has to be found, and
they are these methods just where the owner stands first and `P` holds. -/
structure Yields (ms : List Mark) (expected : List Text) (P : Prop) : Prop where
  bound : ∀ armed, (answers armed ms).length ≤ armed.toNat + expected.length
  eq_iff : ∀ owner : Option Text, answers owner.isSome ms = owner.toList ++ expected ↔
    (∀ n ∈ owner, ms.head? = some (.method n)) ∧ P

namespace Yields

variable {later : List Mark} {expected : List Text} {P : Prop}

/-- Of the methods that an open annotation meets the first one answers. -/
lemma methods (h : Yields rest expected P) (names : List Text) :
    Yields (names.map .method ++ rest) expected P := by
  have hnone : answers false rest = expected ↔ P := by simpa using h.eq_iff none
  refine ⟨fun armed => ?_, fun owner => ?_⟩
  · rw [answers_map]
    cases armed with
    | false => exact h.bound false
    | true =>
      cases names with
      | nil => exact h.bound true
      | cons n names =>
        have hrest := h.bound false
        simp only [if_true, List.length_cons, Bool.toNat_true, Bool.toNat_false] at hrest ⊢
        omega
  · rw [answers_map]
    rcases owner with _ | n
    · simpa using hnone
    · rcases names with _ | ⟨n', names⟩
      · exact h.eq_iff (some n)
      · simp [hnone]

/-- One answer is too few for two annotations. -/
lemma ne_append (h : Yields later expected P) {armed : Bool} {names : List Text}
    (hlt : armed.toNat < names.length) : answers armed later ≠ names ++ expected := by
  intro heq
  have hlength := h.bound armed
  rw [heq, List.length_append] at hlength
  omega

/-- A method that has to be found answers its own annotation, and no annotation may be open above
it. -/
lemma tests (h : Yields later expected P) {annotated : Bool} (hk : 0 < k → annotated = true)
    (name : Text) :
    Yields (List.replicate k .test ++ later) ((if annotated then [name] else []) ++ expected)
      ((annotated = true → 0 < k ∧ later.head? = some (.method name)) ∧ P) := by
  refine ⟨fun armed => ?_, fun owner => ?_⟩
  · rw [answers_tests, List.length_append]
    refine (h.bound (armed || 0 < k)).trans ?_
    by_cases hpos : 0 < k
    · simp [hpos, hk hpos]
    · simp [hpos]
  rw [answers_tests]
  rcases k with _ | k
  · cases annotated with
    | false => simpa using h.eq_iff owner
    | true =>
      refine iff_of_false ?_ fun hright => absurd (hright.2.1 rfl).1 (lt_irrefl 0)
      rw [← List.append_assoc]
      exact h.ne_append (by cases owner <;> simp)
  · obtain rfl : annotated = true := hk (Nat.succ_pos k)
    cases owner with
    | none => simpa using h.eq_iff (some name)
    | some n =>
      refine iff_of_false ?_ fun hright => absurd (hright.1 n rfl) (by simp [List.replicate_succ])
      rw [← List.append_assoc]
      exact h.ne_append (by simp)

end Yields

/-- The search finds the annotated methods just where each of them answers its own annotation. -/
lemma yields_rows (hms : ∀ m ∈ ms, m.Spelled) :
    Yields (marks (ms.flatMap Method.rows)) (annotatedNames ms) (EachAnswered ms) := by
  induction ms with
  | nil =>
    refine ⟨fun armed => by cases armed <;> exact Nat.zero_le _, fun owner => ?_⟩
    cases owner <;> simp [marks, answers, annotatedNames, EachAnswered]
  | cons m ms ih =>
    obtain ⟨hm, hms⟩ := List.forall_mem_cons.mp hms
    obtain ⟨k, names, hmarks, hannotated, -⟩ := exists_marks hm
    rw [List.flatMap_cons, marks_append, hmarks, List.append_assoc, annotatedNames_cons,
      EachAnswered, answered_iff hmarks]
    exact ((ih hms).methods names).tests hannotated m.name

lemma eachAnswered_of_plain (hms : ∀ m ∈ ms, m.Spelled)
    (hplain : ∀ m ∈ ms, m.annotated = true → m.Plain) : EachAnswered ms := by
  induction ms with
  | nil => trivial
  | cons m ms ih =>
    obtain ⟨hm, hms⟩ := List.forall_mem_cons.mp hms
    obtain ⟨hfirst, hplain⟩ := List.forall_mem_cons.mp hplain
    obtain ⟨k, names, hmarks, -, hself⟩ := exists_marks hm
    refine ⟨fun hannotated => ?_, ih hms hplain⟩
    obtain ⟨hk, hname⟩ := hself (hfirst hannotated)
    obtain ⟨rest, rfl⟩ := List.head?_eq_some_iff.mp hname
    exact (answered_iff hmarks ms).mpr ⟨hk, rfl⟩

/-- **The test methods of a class** are its annotated methods, in their order, where these are
written down plainly. Else this is so just where each annotated method answers its own
annotation. -/
theorem testMethods_iff {source : Text} {head : List Text} {ms : List Method}
    (hhead : ∀ l ∈ head, annotatesTest l = false) (hms : ∀ m ∈ ms, m.Spelled)
    (hlines : lines source = head ++ ms.flatMap Method.rows) :
    ((∀ m ∈ ms, m.annotated = true → m.Plain) → testMethods source = annotatedNames ms) ∧
      (testMethods source = annotatedNames ms ↔ EachAnswered ms) := by
  obtain ⟨names, hnames⟩ := marks_bare hhead
  have hsearch : testMethods source = answers false (marks (ms.flatMap Method.rows)) := by
    rw [testMethods, hlines, testMethodsIn_eq, marks_append, hnames, answers_methods]
  have hiff : testMethods source = annotatedNames ms ↔ EachAnswered ms := by
    rw [hsearch]
    simpa using (yields_rows hms).eq_iff none
  exact ⟨fun hplain => hiff.mpr (eachAnswered_of_plain hms hplain), hiff⟩

lemma voidHeader {n rest : Text} (hn : Unbroken n) :
    VoidHeader n ("void ".toList ++ (n ++ '(' :: rest)) :=
  @VoidHeader.mk n [' '] [] rest (by decide) (by decide) hn (by decide)

/-- Annotations above their methods, with another one in between, and a method that has another
annotation in front. -/
theorem testMethods_above :
    let test : AnnotationLine := ⟨"  ".toList, [⟨"Test".toList, none, []⟩]⟩
    let title : AnnotationLine := ⟨"  ".toList, [⟨"Title".toList, some "\"c ()\"".toList, []⟩]⟩
    let a : Method := ⟨[test], "  ".toList, [], [], "void a() \x7b".toList, "a".toList,
      ["  \x7d".toList]⟩
    let b : Method := ⟨[], "  ".toList, [⟨"Slow".toList, none, [' ']⟩], [],
      "void b() \x7b\x7d".toList, "b".toList, []⟩
    let c : Method := ⟨[test, title], "  ".toList, [], [], "public void c() \x7b\x7d".toList,
      "c".toList, ["\x7d".toList]⟩
    let source := "class T \x7b\n  @Test\n  void a() \x7b\n  \x7d\n  ".toList ++
      "@Slow void b() \x7b\x7d\n  @Test\n  @Title(\"c ()\")\n  ".toList ++
      "public void c() \x7b\x7d\n\x7d".toList
    lines source = ["class T \x7b".toList] ++ [a, b, c].flatMap Method.rows ∧
      (∀ m ∈ [a, b, c], m.Spelled) ∧ (∀ m ∈ [a, b, c], m.annotated = true → m.Plain) ∧
      testMethods source = ["a".toList, "c".toList] := by
  intro test title a b c source
  have hlines : lines source = ["class T \x7b".toList] ++ [a, b, c].flatMap Method.rows := by
    decide +kernel
  have htest : test.Spelled := ⟨by decide, by decide, by decide⟩
  have htitle : title.Spelled := ⟨by decide, by decide, by decide⟩
  have hpublic : Declared "c".toList [] ("public".toList ++ ([' '] ++ (texts [] ++
      "void c() \x7b\x7d".toList))) :=
    .access (by decide) (by decide) (by decide) (voidHeader (by decide))
  have ha : a.Spelled := ⟨List.forall_mem_singleton.mpr htest, by decide, by decide, by decide,
    .plain (voidHeader (by decide)), by decide⟩
  have hb : b.Spelled := ⟨by simp [b], by decide, by decide, by decide,
    .plain (voidHeader (by decide)), by decide⟩
  have hc : c.Spelled := ⟨List.forall_mem_cons.mpr ⟨htest, List.forall_mem_singleton.mpr htitle⟩,
    by decide, by decide, by decide, hpublic, by decide⟩
  have hspelled : ∀ m ∈ [a, b, c], m.Spelled :=
    List.forall_mem_cons.mpr ⟨ha, List.forall_mem_cons.mpr ⟨hb, List.forall_mem_singleton.mpr hc⟩⟩
  have habove : ∃ d ∈ test.annotations.head?, isTest d = true := ⟨_, rfl, by decide⟩
  have hplain : ∀ m ∈ [a, b, c], m.annotated = true → m.Plain := by
    refine List.forall_mem_cons.mpr ⟨fun _ => ?_, List.forall_mem_cons.mpr ⟨fun h => ?_,
      List.forall_mem_singleton.mpr fun _ => ?_⟩⟩
    · exact ⟨⟨test, List.mem_cons_self, habove⟩, rfl, rfl, by decide⟩
    · exact absurd h (by decide)
    · exact ⟨⟨test, List.mem_cons_self, habove⟩, rfl, rfl, by decide⟩
  exact ⟨hlines, hspelled, hplain, (testMethods_iff (by decide) hspelled hlines).1 hplain⟩

/-- A method with the annotation in front of it is not found. -/
theorem testMethods_front :
    let m : Method := ⟨[], "  ".toList, [⟨"Test".toList, none, [' ']⟩], [],
      "void a() \x7b\x7d".toList, "a".toList, ["\x7d".toList]⟩
    let source := "class T \x7b\n  @Test void a() \x7b\x7d\n\x7d".toList
    m.Spelled ∧ lines source = ["class T \x7b".toList] ++ [m].flatMap Method.rows ∧
      annotatedNames [m] = ["a".toList] ∧ testMethods source = [] := by
  intro m source
  exact ⟨⟨by simp [m], by decide, by decide, by decide,
    .plain (voidHeader (by decide)), by decide⟩, by decide +kernel, by decide,
    by decide +kernel⟩

end TestWeaver.Proofs.AnnotatedMethods
