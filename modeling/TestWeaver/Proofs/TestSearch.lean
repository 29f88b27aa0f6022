import TestWeaver.Proofs.LineText
import TestWeaver.Proofs.MergedBraces
import TestWeaver.Source.TestMethod

/-!
The search for test methods, on texts that are put together.

What the search does with a line depends on the line only up to the blanks in front of it and the
closing braces behind it. Between two lines it keeps nothing but whether it is armed, so the methods
of two pieces are those of each on its own where every annotation of the first is answered in it.
-/

namespace TestWeaver.Proofs.TestSearch

open Source Text RowText ImportStatement LineText MergedBraces

/-! ### Blanks in front of a line -/

lemma annotatesTest_blank {c : Char} (hc : isBlank c = true) (l : Text) :
    annotatesTest (c :: l) = annotatesTest l := by
  rw [annotatesTest, annotatesTest, trimStart_cons_of_blank hc]

lemma testMethod?_blank {c : Char} (hc : isBlank c = true) (l : Text) :
    testMethod? (c :: l) = testMethod? l := by
  rw [testMethod?, testMethod?, trimStart_cons_of_blank hc]

/-- An annotation line holds the mark of a test. -/
lemma mark_infix_of_annotates {l : Text} (h : annotatesTest l = true) : testMark <:+: l := by
  obtain ⟨b, -, hl⟩ := exists_blanks l
  rw [annotatesTest] at h
  rcases hr : after? "@Test".toList (trimStart l) with _ | r
  · rw [hr] at h
    cases h
  · exact ⟨b, r, by rw [List.append_assoc, ← eq_append_of_after? hr, ← hl]⟩

/-! ### Closing braces behind a line -/

lemma closers_head {u : Text} (hu : Closers u) : ∀ c ∈ u.head?, isWordChar c = false := by
  intro c hc
  rcases hu c (List.mem_of_mem_head? hc) with h | rfl
  · rcases hw : isWordChar c with _ | _
    · rfl
    · rw [not_blank_of_wordChar hw] at h
      cases h
  · decide

lemma trimStart_append_of_ne_nil {l : Text} (h : trimStart l ≠ []) (u : Text) :
    trimStart (l ++ u) = trimStart l ++ u := by
  rw [trimStart, List.dropWhile_append, if_neg (by simpa [trimStart] using h)]
  rfl

/-- Closing braces neither make an annotation nor unmake one. -/
lemma annotatesTest_closers (l : Text) {u : Text} (hu : Closers u) :
    annotatesTest (l ++ u) = annotatesTest l := by
  by_cases hl : trimStart l = []
  · -- a blank line: what is behind it does not start with an at sign
    have hfalse : annotatesTest l = false := by rw [annotatesTest, hl]; rfl
    rw [hfalse]
    by_contra h
    have hmark := mark_infix_of_annotates (by simpa using h)
    have hat : '@' ∈ l ++ u := hmark.subset (by decide)
    rcases List.mem_append.mp hat with hat | hat
    · exact absurd (blanks_of_trimStart hl _ hat) (by decide)
    · exact closers_not_mem hu (by decide) (by decide) hat
  · rw [annotatesTest, annotatesTest, trimStart_append_of_ne_nil hl]
    rcases hr : after? "@Test".toList (trimStart l) with _ | r
    · rcases hru : after? "@Test".toList (trimStart l ++ u) with _ | q
      · rfl
      · obtain ⟨z, hz, -⟩ := after?_of_append (closers_not_mem_mark hu) hru
        rw [hr] at hz
        cases hz
    · have hru : after? "@Test".toList (trimStart l ++ u) = some (r ++ u) := by
        rw [eq_append_of_after? hr, List.append_assoc, after?_append]
      rw [hru]
      rcases r with _ | ⟨c, r⟩
      · rcases u with _ | ⟨c, u⟩
        · rfl
        · simp [closers_head hu c rfl]
      · rfl

/-! ### The parameters of a method -/

section Parenthesis

variable (p r : Text)

lemma trimStart_paren : trimStart (p ++ '(' :: r) = trimStart p ++ '(' :: r := by
  by_cases hp : trimStart p = []
  · rw [trimStart_append (blanks_of_trimStart hp), hp, trimStart_cons_of_not_blank (by decide)]
    rfl
  · exact trimStart_append_of_ne_nil hp _

lemma after?_paren {mark : Text} (hm : '(' ∉ mark) :
    after? mark (p ++ '(' :: r) = (after? mark p).map (· ++ '(' :: r) := by
  induction mark generalizing p with
  | nil => simp
  | cons c mark ih =>
    obtain ⟨hc, hm⟩ := List.ne_and_not_mem_of_not_mem_cons hm
    cases p with
    | nil => simp [after?, Ne.symm hc]
    | cons d p =>
      rw [List.cons_append, after?, after?]
      split
      · exact ih p hm
      · rfl

lemma afterAny?_paren {marks : List Text} (hm : ∀ m ∈ marks, '(' ∉ m) :
    afterAny? marks (p ++ '(' :: r) =
      (afterAny? marks p).map fun q => (q.1, q.2 ++ '(' :: r) := by
  induction marks with
  | nil => rfl
  | cons m marks ih =>
    obtain ⟨hfirst, hrest⟩ := List.forall_mem_cons.mp hm
    have ih := ih hrest
    simp only [afterAny?, List.findSome?_cons, after?_paren p r hfirst] at ih ⊢
    cases after? m p with
    | none => exact ih
    | some s => rfl

lemma afterBlanks?_paren :
    afterBlanks? (p ++ '(' :: r) = (afterBlanks? p).map (· ++ '(' :: r) := by
  cases p with
  | nil => rfl
  | cons c p =>
    rw [List.cons_append, afterBlanks?, afterBlanks?, trimStart_paren]
    split <;> rfl

lemma afterKeyword?_paren {keyword : String} (hk : '(' ∉ keyword.toList) :
    afterKeyword? keyword (p ++ '(' :: r) = (afterKeyword? keyword p).map (· ++ '(' :: r) := by
  rw [afterKeyword?, afterKeyword?, trimStart_paren, after?_paren _ _ hk]
  cases after? keyword.toList (trimStart p) with
  | none => rfl
  | some s => exact afterBlanks?_paren s r

lemma word?_paren :
    word? (p ++ '(' :: r) = (word? p).map fun q => (q.1, q.2 ++ '(' :: r) := by
  have hstop : isWordChar '(' = false := by decide
  have htake : (p ++ '(' :: r).takeWhile isWordChar = p.takeWhile isWordChar := by
    rw [List.takeWhile_append, List.takeWhile_cons_of_neg (by simp [hstop])]
    split
    · next h => rw [List.append_nil, (List.takeWhile_prefix _).eq_of_length h]
    · rfl
  have hdrop : (p ++ '(' :: r).dropWhile isWordChar = p.dropWhile isWordChar ++ '(' :: r := by
    rw [List.dropWhile_append, List.dropWhile_cons_of_neg (by simp [hstop])]
    split
    · next h => rw [List.isEmpty_iff.mp h]; rfl
    · rfl
  rw [word?, word?, htake, hdrop]
  cases p.takeWhile isWordChar <;> rfl

/-- The text behind an access modifier, if there is one. -/
lemma afterAccess_paren :
    ((afterAny? accessModifiers (p ++ '(' :: r)).map Prod.snd).getD (p ++ '(' :: r) =
      ((afterAny? accessModifiers p).map Prod.snd).getD p ++ '(' :: r := by
  have hm : ∀ m ∈ accessModifiers, '(' ∉ m := by decide
  rw [afterAny?_paren p r hm]
  cases afterAny? accessModifiers p <;> rfl

/-- What stands behind a parenthesis does not matter. -/
lemma testMethod?_paren (q : Text) : testMethod? (p ++ '(' :: r) = testMethod? (p ++ '(' :: q) := by
  have hvoid : '(' ∉ "void".toList := by decide
  simp only [testMethod?, trimStart_paren, afterAccess_paren, afterKeyword?_paren _ _ hvoid]
  cases afterKeyword? "void" (((afterAny? accessModifiers (trimStart p)).map Prod.snd).getD
      (trimStart p)) with
  | none => rfl
  | some s =>
    simp only [Option.map_some, Option.bind_eq_bind, Option.bind_some, word?_paren]
    cases word? s with
    | none => rfl
    | some w =>
      simp only [Option.map_some, Option.bind_some, trimStart_paren]
      cases trimStart w.2 with
      | nil => rfl
      | cons c t =>
        simp only [List.cons_append, after?]
        split <;> rfl

end Parenthesis

lemma paren_mem_of_testMethod? {l n : Text} (h : testMethod? l = some n) : '(' ∈ l := by
  have htrim : ∀ s : Text, trimStart s <:+ s := fun s => List.dropWhile_suffix _
  rw [testMethod?] at h
  obtain ⟨s, hs, h⟩ := Option.bind_eq_some_iff.mp h
  obtain ⟨⟨name, t⟩, ht, h⟩ := Option.bind_eq_some_iff.mp h
  obtain ⟨r, hr, -⟩ := Option.bind_eq_some_iff.mp h
  obtain ⟨b₁, b₂, -, -, -, hvoid⟩ := afterKeyword?_eq_some hs
  have haccess : ((afterAny? accessModifiers (trimStart l)).map Prod.snd).getD (trimStart l) <:+
      trimStart l := by
    rcases hq : afterAny? accessModifiers (trimStart l) with _ | q
    · exact List.suffix_rfl
    · exact ⟨q.1, (afterAny?_eq_some hq).2.symm⟩
  have hparen : '(' ∈ trimStart t := by
    rw [eq_append_of_after? hr]
    exact List.mem_append_left _ (List.mem_singleton_self _)
  have hname : '(' ∈ s := by
    rw [append_of_word? ht]
    exact List.mem_append_right _ ((htrim t).subset hparen)
  refine (htrim l).subset (haccess.subset ?_)
  rw [hvoid]
  simp only [List.mem_append]
  exact .inr (.inr (.inr hname))

lemma testMethod?_closers (l : Text) {u : Text} (hu : Closers u) :
    testMethod? (l ++ u) = testMethod? l := by
  by_cases hl : '(' ∈ l
  · obtain ⟨p, r, rfl⟩ := List.append_of_mem hl
    rw [List.append_assoc, List.cons_append]
    exact testMethod?_paren p (r ++ u) r
  · have hnone : ∀ s : Text, '(' ∉ s → testMethod? s = none := by
      intro s hs
      rcases h : testMethod? s with _ | n
      · rfl
      · exact absurd (paren_mem_of_testMethod? h) hs
    have hlu : '(' ∉ l ++ u := by
      rw [List.mem_append, not_or]
      exact ⟨hl, closers_not_mem hu (by decide) (by decide)⟩
    rw [hnone l hl, hnone _ hlu]

/-! ### The search -/

/-- Whether the search is armed behind the lines. -/
def armedAfter (armed : Bool) : List Text → Bool
  | [] => armed
  | l :: ls => armedAfter (annotatesTest l || armed && (testMethod? l).isNone) ls

/-- Every test annotation has a method on a later line. -/
def Answered : List Text → Prop
  | [] => True
  | l :: ls => (annotatesTest l = true → ∃ m ∈ ls, (testMethod? m).isSome = true) ∧ Answered ls

instance decidableAnswered : DecidablePred Answered
  | [] => inferInstanceAs (Decidable True)
  | l :: ls =>
    have := decidableAnswered ls
    inferInstanceAs (Decidable ((annotatesTest l = true →
      ∃ m ∈ ls, (testMethod? m).isSome = true) ∧ Answered ls))

variable {armed : Bool} {ls ms : List Text}

/-- One line adds its method if the search is armed and the line no annotation. -/
lemma testMethodsIn_cons (armed : Bool) (l : Text) (ls : List Text) :
    testMethodsIn armed (l :: ls) =
      (if armed && !annotatesTest l then (testMethod? l).toList else []) ++
        testMethodsIn (annotatesTest l || armed && (testMethod? l).isNone) ls := by
  rw [testMethodsIn]
  cases annotatesTest l
  · cases armed
    · rfl
    · cases testMethod? l <;> rfl
  · cases armed <;> rfl

/-- **Lines put together**: the second part is searched on from where the first has left off. -/
theorem testMethodsIn_append (armed : Bool) (ls ms : List Text) :
    testMethodsIn armed (ls ++ ms) =
      testMethodsIn armed ls ++ testMethodsIn (armedAfter armed ls) ms := by
  induction ls generalizing armed with
  | nil => rfl
  | cons l ls ih =>
    rw [List.cons_append, testMethodsIn_cons, testMethodsIn_cons, ih, armedAfter,
      List.append_assoc]

lemma armedAfter_append (armed : Bool) (ls ms : List Text) :
    armedAfter armed (ls ++ ms) = armedAfter (armedAfter armed ls) ms := by
  induction ls generalizing armed with
  | nil => rfl
  | cons l ls ih => exact ih _

/-- An armed search that meets a method ends disarmed, if no later annotation is left open. -/
lemma armedAfter_of_answered (h : Answered ls)
    (harmed : armed = true → ∃ m ∈ ls, (testMethod? m).isSome = true) :
    armedAfter armed ls = false := by
  induction ls generalizing armed with
  | nil =>
    cases armed with
    | false => rfl
    | true =>
      obtain ⟨m, hm, -⟩ := harmed rfl
      cases hm
  | cons l ls ih =>
    obtain ⟨hl, hls⟩ := h
    refine ih hls fun hnext => ?_
    rcases Bool.or_eq_true_iff.mp hnext with hann | harm
    · exact hl hann
    · obtain ⟨ha, hnone⟩ := Bool.and_eq_true_iff.mp harm
      obtain ⟨m, hm, hsome⟩ := harmed ha
      rcases List.mem_cons.mp hm with rfl | hm
      · rw [Option.isNone_iff_eq_none.mp hnone] at hsome
        cases hsome
      · exact ⟨m, hm, hsome⟩

/-- Lines without annotations leave a disarmed search as it is. -/
lemma search_quiet (h : ∀ l ∈ ls, annotatesTest l = false) :
    testMethodsIn false ls = [] ∧ armedAfter false ls = false := by
  induction ls with
  | nil => exact ⟨rfl, rfl⟩
  | cons l ls ih =>
    obtain ⟨hl, hls⟩ := List.forall_mem_cons.mp h
    rw [testMethodsIn_cons, armedAfter, hl]
    exact ih hls

/-- Empty lines leave the search as it is. -/
lemma search_empty (h : ∀ l ∈ ls, l = []) (armed : Bool) :
    testMethodsIn armed ls = [] ∧ armedAfter armed ls = armed := by
  induction ls with
  | nil => exact ⟨rfl, rfl⟩
  | cons l ls ih =>
    obtain ⟨rfl, hls⟩ := List.forall_mem_cons.mp h
    have hann : annotatesTest [] = false := rfl
    have hnone : testMethod? [] = none := rfl
    rw [testMethodsIn_cons, armedAfter, hann, hnone]
    simpa using ih hls

/-! ### Texts -/

/-- Rows put together are searched one part after the other. -/
lemma testMethodsIn_unrows_append (armed : Bool) (above below : List Text) :
    testMethodsIn armed (lines (unrows (above ++ below))) =
      testMethodsIn armed (lines (unrows above)) ++
        testMethodsIn (armedAfter armed (lines (unrows above))) (lines (unrows below)) := by
  obtain ⟨gap, hgap, hlines⟩ := lines_unrows_append above below
  obtain ⟨hmethods, harmed⟩ := search_empty hgap (armedAfter armed (lines (unrows above)))
  rw [hlines, testMethodsIn_append, testMethodsIn_append, armedAfter_append, hmethods, harmed,
    List.append_nil]

/-- Blanks in front of a text do not matter. -/
lemma testMethodsIn_blanks {b : Text} (hb : Blanks b) (armed : Bool) (s : Text) :
    testMethodsIn armed (lines (b ++ s)) = testMethodsIn armed (lines s) := by
  induction b with
  | nil => rfl
  | cons c b ih =>
    obtain ⟨hc, hb⟩ := List.forall_mem_cons.mp hb
    rw [← ih hb, List.cons_append]
    rcases lines_cases c (b ++ s) with ⟨-, hs⟩ | ⟨-, -, hs⟩ | ⟨-, hs⟩
    · rw [hs]
    · rw [hs, ← List.singleton_append, testMethodsIn_append]
      have hempty : ∀ l ∈ ([[]] : List Text), l = [] := by simp
      obtain ⟨hmethods, harmed⟩ := search_empty hempty armed
      rw [hmethods, harmed, List.nil_append]
    · rw [hs]
      cases lines (b ++ s) with
      | nil =>
        have hann : annotatesTest [] = false := rfl
        have hnone : testMethod? [] = none := rfl
        rw [consLine, testMethodsIn_cons, annotatesTest_blank hc, testMethod?_blank hc, hann, hnone]
        cases armed <;> rfl
      | cons l ls =>
        rw [consLine, testMethodsIn_cons, testMethodsIn_cons, annotatesTest_blank hc,
          testMethod?_blank hc]

/-- The second lines are the first ones with closing braces behind the last. -/
inductive ClosedBy : List Text → List Text → Prop
  | nil {ms : List Text} (h : ∀ m ∈ ms, Closers m) : ClosedBy [] ms
  | last (l : Text) {u : Text} {ms : List Text} (hu : Closers u) (h : ∀ m ∈ ms, Closers m) :
      ClosedBy [l] ((l ++ u) :: ms)
  | cons (l : Text) {ls ms : List Text} (h : ClosedBy ls ms) : ClosedBy (l :: ls) (l :: ms)

lemma ClosedBy.consLine (h : ClosedBy ls ms) (c : Char) :
    ClosedBy (consLine c ls) (consLine c ms) := by
  cases h with
  | nil h =>
    cases ms with
    | nil => exact .last [c] (u := []) (by simp [Closers]) h
    | cons m ms =>
      obtain ⟨hm, hms⟩ := List.forall_mem_cons.mp h
      exact .last [c] hm hms
  | last l hu h => exact .last (c :: l) hu h
  | cons l h => exact .cons (c :: l) h

lemma closers_lines {u : Text} (hu : Closers u) : ∀ m ∈ lines u, Closers m :=
  fun _ hm c hc => hu c ((infix_of_mem_lines hm).subset hc)

lemma closedBy_lines (s : Text) {u : Text} (hu : Closers u) :
    ClosedBy (lines s) (lines (s ++ u)) := by
  induction s with
  | nil => exact .nil (closers_lines hu)
  | cons c s ih =>
    rw [List.cons_append]
    rcases lines_cases c s with ⟨hj, hs⟩ | ⟨hb, hj, hs⟩ | ⟨hb, hs⟩
    · have hne : s ≠ [] := by
        rintro rfl
        cases hj.2
      have hju : Joined c (s ++ u) := ⟨hj.1, by rw [List.head?_append_of_ne_nil s hne, hj.2]⟩
      rw [hs, lines_of_joined hju]
      exact ih
    · rcases lines_cases c (s ++ u) with ⟨hju, hsu⟩ | ⟨-, -, hsu⟩ | ⟨hb', -⟩
      · -- a carriage return at the end of the text, and a newline behind it
        have hnil : s = [] := by
          by_contra hne
          exact hj ⟨hju.1, by rw [← List.head?_append_of_ne_nil s hne, hju.2]⟩
        subst hnil
        obtain ⟨v, rfl⟩ := List.head?_eq_some_iff.mp hju.2
        rw [hs, hsu, List.nil_append, lines_newline]
        exact .cons [] (.nil (closers_lines (List.forall_mem_cons.mp hu).2))
      · rw [hs, hsu]
        exact .cons [] ih
      · rw [hb] at hb'
        cases hb'
    · rw [hs, lines_of_not_break hb]
      exact ih.consLine c

lemma closers_quiet {u : Text} (hu : Closers u) : annotatesTest u = false ∧ testMethod? u = none :=
  ⟨annotatesTest_closers [] hu, testMethod?_closers [] hu⟩

lemma search_closers (h : ∀ m ∈ ms, Closers m) (armed : Bool) : testMethodsIn armed ms = [] := by
  induction ms generalizing armed with
  | nil => rfl
  | cons m ms ih =>
    obtain ⟨hm, hms⟩ := List.forall_mem_cons.mp h
    obtain ⟨hann, hnone⟩ := closers_quiet hm
    rw [testMethodsIn_cons, hann, hnone, ih hms]
    cases armed <;> rfl

/-- Closing braces behind the lines do not matter. -/
lemma testMethodsIn_closedBy (h : ClosedBy ls ms) (armed : Bool) :
    testMethodsIn armed ms = testMethodsIn armed ls := by
  induction h generalizing armed with
  | nil h => exact search_closers h armed
  | last l hu h =>
    rw [testMethodsIn_cons, testMethodsIn_cons, annotatesTest_closers l hu,
      testMethod?_closers l hu, search_closers h]
    rfl
  | cons l h ih => rw [testMethodsIn_cons, testMethodsIn_cons, ih]

end TestWeaver.Proofs.TestSearch
