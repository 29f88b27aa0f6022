import TestWeaver.Proofs.FirstType

/-!
The text of a method header, and that each part of it can be read in one way only.

An angle bracket is closed at the nearest place that lets the rest be read. Behind a result type
come a name and an opening parenthesis, so what is read as a type has all the closing brackets in
front of the first parenthesis: their number, `anglesAhead`, tells at which of them the type ends.
With `typed?_eq_some_iff` and `modifiers_of_modified` no later proof opens the readers.
-/

namespace TestWeaver.Proofs.HeaderText

open Source Text ImportStatement

/-! ### The grammar -/

/-- Text inside angle brackets. -/
def NoParens (s : Text) : Prop := ∀ c ∈ s, c ≠ '(' ∧ c ≠ ')'

instance : DecidablePred NoParens := fun s => List.decidableBAll _ s

/-- A name without dots. -/
def Word (n : Text) : Prop := n ≠ [] ∧ ∀ c ∈ n, isWordChar c = true

instance : DecidablePred Word := fun n =>
  @instDecidableAnd (n ≠ []) _ inferInstance (List.decidableBAll _ n)

lemma noParens_append {a b : Text} : NoParens (a ++ b) ↔ NoParens a ∧ NoParens b :=
  List.forall_mem_append

lemma noParens_cons {c : Char} {s : Text} :
    NoParens (c :: s) ↔ (c ≠ '(' ∧ c ≠ ')') ∧ NoParens s := List.forall_mem_cons

/-- Modifiers in front of a text, with blanks behind each of them. -/
inductive Modified : List Text → Text → Text → Prop
  | nil (s : Text) : Modified [] s s
  | cons {m b s r : Text} {ms : List Text} (hm : m ∈ memberModifiers) (hb : Blanks b)
      (hne : b ≠ []) (h : Modified ms s r) : Modified (m :: ms) (m ++ (b ++ s)) r

def angled : Option Text → Text
  | none => []
  | some i => '<' :: (i ++ ['>'])

def marks : ℕ → Text
  | 0 => []
  | n + 1 => '[' :: ']' :: marks n

/-- A result type: a name, perhaps with arguments, and marks of arrays. -/
structure ResultType where
  base : Text
  arguments : Option Text
  dimensions : ℕ
deriving DecidableEq

namespace ResultType

def text (t : ResultType) : Text := t.base ++ (angled t.arguments ++ marks t.dimensions)

/-- The type is one that can be read. -/
structure Legible (t : ResultType) : Prop where
  base : Dotted t.base
  arguments : ∀ i ∈ t.arguments, NoParens i

end ResultType

/-- The part of a header behind the result type. The parameters end at the first closing
parenthesis. -/
inductive Named (name parameters : Text) : Text → Prop
  | mk {b₁ b₂ rest : Text} (h₁ : Blanks b₁) (hne : b₁ ≠ []) (hn : Word name) (h₂ : Blanks b₂)
      (hp : ')' ∉ parameters) :
      Named name parameters (b₁ ++ (name ++ (b₂ ++ '(' :: (parameters ++ ')' :: rest))))

/-! ### In front of the first parenthesis -/

/-- The part of a text in front of its first opening parenthesis. -/
def ahead (s : Text) : Text := s.takeWhile (· ≠ '(')

def anglesAhead (s : Text) : ℕ := (ahead s).count '>'

lemma ahead_paren (s : Text) : ahead ('(' :: s) = [] := by simp [ahead]

lemma ahead_append {x : Text} (h : '(' ∉ x) (s : Text) : ahead (x ++ s) = x ++ ahead s := by
  refine List.takeWhile_append_of_pos fun c hc => decide_eq_true ?_
  rintro rfl
  exact h hc

lemma anglesAhead_append {x : Text} (h : '(' ∉ x) (s : Text) :
    anglesAhead (x ++ s) = x.count '>' + anglesAhead s := by
  rw [anglesAhead, ahead_append h, List.count_append, anglesAhead]

lemma anglesAhead_cons_angle (s : Text) : anglesAhead ('>' :: s) = anglesAhead s + 1 := by
  simp [anglesAhead, ahead]

lemma NoParens.paren {s : Text} (h : NoParens s) : '(' ∉ s := fun hs => (h _ hs).1 rfl

lemma ne_of_class {p : Char → Bool} {c d : Char} (hc : p c = true) (hd : p d = false) : c ≠ d := by
  rintro rfl
  rw [hc] at hd
  cases hd

lemma not_mem_of_class {p : Char → Bool} {s : Text} (h : ∀ c ∈ s, p c = true) {d : Char}
    (hd : p d = false) : d ∉ s := fun hmem => ne_of_class (h d hmem) hd rfl

lemma noParens_of_class {p : Char → Bool} {s : Text} (h : ∀ c ∈ s, p c = true)
    (hopen : p '(' = false) (hclose : p ')' = false) : NoParens s := fun c hc =>
  ⟨ne_of_class (h c hc) hopen, ne_of_class (h c hc) hclose⟩

lemma blanks_not_mem {b : Text} (h : Blanks b) {c : Char} (hc : isBlank c = false) : c ∉ b :=
  not_mem_of_class h hc

lemma dotted_not_mem {n : Text} (h : Dotted n) {c : Char} (hc : isDottedChar c = false) :
    c ∉ n := not_mem_of_class h.2 hc

lemma not_dotted_of_blank {c : Char} (h : isBlank c = true) : isDottedChar c = false := by
  by_contra hd
  have := not_blank_of_dottedChar (by simpa using hd)
  rw [h] at this
  cases this

lemma Word.dotted {n : Text} (h : Word n) : Dotted n :=
  ⟨h.1, fun c hc => by rw [isDottedChar, h.2 c hc, Bool.true_or]⟩

lemma mem_marks {n : ℕ} {c : Char} (h : c ∈ marks n) : c = '[' ∨ c = ']' := by
  induction n with
  | zero => cases h
  | succ n ih =>
    simp only [marks, List.mem_cons] at h
    rcases h with rfl | rfl | h
    · exact Or.inl rfl
    · exact Or.inr rfl
    · exact ih h

lemma marks_not_mem {n : ℕ} {c : Char} (h : c ≠ '[' ∧ c ≠ ']') : c ∉ marks n := by
  intro hc
  rcases mem_marks hc with rfl | rfl
  · exact h.1 rfl
  · exact h.2 rfl

/-- In front of its parenthesis there is only the name, with blanks around it. -/
lemma Named.ahead {name parameters s : Text} (h : Named name parameters s) :
    ∃ b₁ b₂, Blanks b₁ ∧ Word name ∧ Blanks b₂ ∧ ahead s = b₁ ++ (name ++ b₂) := by
  cases h with
  | @mk b₁ b₂ rest h₁ hne hn h₂ hp =>
    refine ⟨b₁, b₂, h₁, hn, h₂, ?_⟩
    rw [ahead_append (blanks_not_mem h₁ (by decide)),
      ahead_append (dotted_not_mem hn.dotted (by decide)),
      ahead_append (blanks_not_mem h₂ (by decide)), ahead_paren, List.append_nil]

lemma Named.not_mem_ahead {name parameters s : Text} (h : Named name parameters s) {c : Char}
    (hb : isBlank c = false) (hd : isDottedChar c = false) : c ∉ HeaderText.ahead s := by
  obtain ⟨b₁, b₂, h₁, hn, h₂, hs⟩ := h.ahead
  rw [hs, List.mem_append, List.mem_append, not_or, not_or]
  exact ⟨blanks_not_mem h₁ hb, dotted_not_mem hn.dotted hd, blanks_not_mem h₂ hb⟩

lemma anglesAhead_named {name parameters s : Text} (h : Named name parameters s) :
    anglesAhead s = 0 :=
  List.count_eq_zero.mpr (h.not_mem_ahead (by decide) (by decide))

lemma ResultType.Legible.paren {t : ResultType} (h : t.Legible) : '(' ∉ t.text := by
  have hmarks : '(' ∉ marks t.dimensions := marks_not_mem (by decide)
  have hbase : '(' ∉ t.base := dotted_not_mem h.base (by decide)
  rw [ResultType.text, List.mem_append, List.mem_append, not_or, not_or]
  refine ⟨hbase, ?_, hmarks⟩
  rcases hi : t.arguments with _ | i
  · simp [angled]
  · have := (h.arguments i hi).paren
    simp [angled, this]

lemma anglesAhead_text {t : ResultType} (h : t.Legible) {name parameters s : Text}
    (hs : Named name parameters s) : anglesAhead (t.text ++ s) = t.text.count '>' := by
  rw [anglesAhead_append h.paren, anglesAhead_named hs, Nat.add_zero]

/-- Only arguments have brackets. -/
lemma ResultType.count_text {t : ResultType} (ht : Dotted t.base) :
    t.text.count '>' = (angled t.arguments).count '>' := by
  rw [ResultType.text, List.count_append, List.count_append,
    List.count_eq_zero.mpr (dotted_not_mem ht (by decide)),
    List.count_eq_zero.mpr (marks_not_mem (by decide)), Nat.zero_add, Nat.add_zero]

/-! ### Angle brackets -/

/-- A bracket that can be closed in front of `r`, and at no place nearer. -/
def Nearest {α : Type} (k : Text → Text → Option α) (s : Text) (a : α) : Prop :=
  ∃ i r, s = i ++ '>' :: r ∧ NoParens i ∧ k i r = some a ∧
    ∀ i' z, i = i' ++ '>' :: z → k i' (z ++ '>' :: r) = none

lemma nearest_cons {α : Type} {k : Text → Text → Option α} {c : Char} {s : Text} {a : α} :
    Nearest k (c :: s) a ↔ c = '>' ∧ k [] s = some a ∨
      (c ≠ '(' ∧ c ≠ ')') ∧ (c = '>' → k [] s = none) ∧ Nearest (fun i r => k (c :: i) r) s a := by
  constructor
  · rintro ⟨i, r, hs, hi, hk, hnear⟩
    rcases i with _ | ⟨d, i⟩
    · obtain ⟨rfl, rfl⟩ := List.cons.inj hs
      exact Or.inl ⟨rfl, hk⟩
    · obtain ⟨rfl, rfl⟩ := List.cons.inj hs
      obtain ⟨hc, hi⟩ := List.forall_mem_cons.mp hi
      refine Or.inr ⟨hc, ?_, i, r, rfl, hi, hk, fun i' z hz => hnear (c :: i') z (by rw [hz]; rfl)⟩
      rintro rfl
      exact hnear [] i rfl
  · rintro (⟨rfl, hk⟩ | ⟨hc, hfirst, i, r, rfl, hi, hk, hnear⟩)
    · exact ⟨[], s, rfl, fun d hd => absurd hd List.not_mem_nil, hk,
        fun i' z hz => by simp at hz⟩
    · refine ⟨c :: i, r, rfl, List.forall_mem_cons.mpr ⟨hc, hi⟩, hk, fun i' z hz => ?_⟩
      rcases i' with _ | ⟨d, i'⟩
      · obtain ⟨rfl, rfl⟩ := List.cons.inj hz
        exact hfirst rfl
      · obtain ⟨rfl, hrest⟩ := List.cons.inj hz
        exact hnear i' z hrest

/-- Brackets are closed at the nearest place at which the rest can be read. -/
lemma closeAngle_eq_some_iff {α : Type} {k : Text → Text → Option α} {s : Text} {a : α} :
    closeAngle k s = some a ↔ Nearest k s a := by
  induction s generalizing k with
  | nil => simp [closeAngle, Nearest]
  | cons c s ih =>
    rw [nearest_cons, ← ih, closeAngle]
    by_cases hp : c = '(' ∨ c = ')'
    · rcases hp with rfl | rfl
      · simp
      · simp
    · obtain ⟨hopen, hclose⟩ := not_or.mp hp
      by_cases hc : c = '>'
      · subst hc
        rcases hk : k [] s with _ | b
        · simp
        · simp
      · simp [hopen, hclose, hc]

/-! ### The result type -/

lemma arrayMarks_eq (s : Text) :
    ∃ n, (arrayMarks s).1 = marks n ∧ s = marks n ++ (arrayMarks s).2 := by
  fun_induction arrayMarks s with
  | case1 s ih =>
    obtain ⟨n, hn, hs⟩ := ih
    exact ⟨n + 1, by rw [hn, marks], by rw [marks, List.cons_append, List.cons_append, ← hs]⟩
  | case2 s h => exact ⟨0, rfl, rfl⟩

lemma arrayMarks_append (n : ℕ) {s : Text} (h : s.head? ≠ some '[') :
    arrayMarks (marks n ++ s) = (marks n, s) := by
  induction n with
  | zero =>
    rw [marks, List.nil_append]
    unfold arrayMarks
    split
    · exact absurd rfl h
    · rfl
  | succ n ih => rw [marks, List.cons_append, List.cons_append, arrayMarks, ih]

/-- The name at the start of a text is as long as it can be. -/
lemma word?_eq_some_iff {s w r : Text} :
    word? s = some (w, r) ↔ Word w ∧ s = w ++ r ∧ ∀ c ∈ r.head?, isWordChar c = false := by
  constructor
  · intro h
    unfold word? at h
    split at h
    · cases h
    · next c u hu =>
      obtain ⟨rfl, rfl⟩ := Prod.mk.inj (Option.some.inj h)
      refine ⟨⟨List.cons_ne_nil c u, fun d hd => ?_⟩, ?_, fun d hd => ?_⟩
      · rw [← hu] at hd
        exact List.mem_takeWhile_imp hd
      · rw [← hu, List.takeWhile_append_dropWhile]
      · have hstop := List.head?_dropWhile_not isWordChar s
        rw [Option.mem_def.mp hd] at hstop
        simpa using hstop
  · rintro ⟨⟨hne, hw⟩, rfl, hr⟩
    have hstop : r.takeWhile isWordChar = [] ∧ r.dropWhile isWordChar = r := by
      rcases r with _ | ⟨c, r⟩
      · simp
      · simp [hr c rfl]
    have htake : (w ++ r).takeWhile isWordChar = w := by
      rw [List.takeWhile_append_of_pos hw, hstop.1, List.append_nil]
    have hdrop : (w ++ r).dropWhile isWordChar = r := by
      rw [List.dropWhile_append_of_pos hw, hstop.2]
    obtain ⟨c, u, rfl⟩ := List.exists_cons_of_ne_nil hne
    simp only [word?, htake, hdrop]

/-- A text is cut at the first occurrence of a character. -/
lemma cut?_char_iff {c : Char} {s a b : Text} :
    cut? [c] s = some (a, b) ↔ c ∉ a ∧ s = a ++ c :: b := by
  induction s generalizing a with
  | nil => simp [cut?, after?]
  | cons d s ih =>
    by_cases hd : c = d
    · subst hd
      have hcut : cut? [c] (c :: s) = some ([], s) := by simp [cut?, after?]
      rw [hcut]
      rcases a with _ | ⟨e, a⟩
      · simp
      · refine iff_of_false (by simp) ?_
        rintro ⟨hc, hs⟩
        exact hc (by rw [(List.cons.inj hs).1]; exact List.mem_cons_self ..)
    · have hcut : cut? [c] (d :: s) = (cut? [c] s).map fun p => (d :: p.1, p.2) := by
        simp [cut?, after?, hd]
      rw [hcut, Option.map_eq_some_iff]
      constructor
      · rintro ⟨⟨a', b'⟩, hread, heq⟩
        obtain ⟨rfl, rfl⟩ := Prod.mk.inj heq
        obtain ⟨hc, rfl⟩ := ih.mp hread
        exact ⟨by simp [hd, hc], rfl⟩
      · rintro ⟨hc, hs⟩
        rcases a with _ | ⟨e, a⟩
        · exact absurd (List.cons.inj hs).1.symm hd
        · obtain ⟨rfl, rfl⟩ := List.cons.inj hs
          obtain ⟨-, hc⟩ := List.ne_and_not_mem_of_not_mem_cons hc
          exact ⟨(a, b), ih.mpr ⟨hc, rfl⟩, rfl⟩

/-- Where a name ends: blanks and a parenthesis. -/
lemma paren_head {b : Text} (hb : Blanks b) (t : Text) :
    ∀ c r, b ++ '(' :: t = c :: r → isDottedChar c = false := by
  intro c r h
  rcases b with _ | ⟨d, b⟩
  · obtain ⟨rfl, -⟩ := List.cons.inj h
    decide
  · obtain ⟨rfl, -⟩ := List.cons.inj h
    exact not_dotted_of_blank (hb d (List.mem_cons_self ..))

/-- A name ends in front of its parenthesis, and blanks may stand between them. -/
lemma word?_append {n b : Text} (hn : Word n) (hb : Blanks b) (t : Text) :
    word? (n ++ (b ++ '(' :: t)) = some (n, b ++ '(' :: t) ∧
      after? ['('] (trimStart (b ++ '(' :: t)) = some t := by
  constructor
  · refine word?_eq_some_iff.mpr ⟨hn, rfl, fun c hc => ?_⟩
    obtain ⟨r, hr⟩ := List.head?_eq_some_iff.mp hc
    have hstop := paren_head hb t c r hr
    rw [isDottedChar, Bool.or_eq_false_iff] at hstop
    exact hstop.1
  · rw [trimStart_append hb, trimStart_of_head (by decide)]
    exact after?_append ['('] t

/-- What follows a result type is read as the grammar says. -/
lemma named?_eq_some_iff {ms : List Text} {ty s : Text} {h : Header} :
    named? ms ty s = some h ↔
      ∃ name parameters, Named name parameters s ∧ h = ⟨ms, ty, name, parameters⟩ := by
  constructor
  · intro hread
    obtain ⟨s₁, h₁, hread₁⟩ := Option.bind_eq_some_iff.mp hread
    obtain ⟨⟨name, s₂⟩, h₂, hread₂⟩ := Option.bind_eq_some_iff.mp hread₁
    obtain ⟨s₃, h₃, hread₃⟩ := Option.bind_eq_some_iff.mp hread₂
    obtain ⟨⟨parameters, rest⟩, h₄, hheader⟩ := Option.bind_eq_some_iff.mp hread₃
    obtain ⟨b₁, hb₁, hne, rfl⟩ := afterBlanks?_eq_some h₁
    obtain ⟨hname, rfl, -⟩ := word?_eq_some_iff.mp h₂
    obtain ⟨b₂, hb₂, hs₂⟩ := exists_blanks s₂
    obtain ⟨hp, rfl⟩ := cut?_char_iff.mp h₄
    refine ⟨name, parameters, ?_, (Option.some.inj hheader).symm⟩
    rw [hs₂, eq_append_of_after? h₃]
    exact .mk hb₁ hne hname hb₂ hp
  · rintro ⟨name, parameters, hs, rfl⟩
    cases hs with
    | @mk b₁ b₂ rest h₁ hne hn h₂ hp =>
      have hname : trimStart (name ++ (b₂ ++ '(' :: (parameters ++ ')' :: rest))) =
          name ++ (b₂ ++ '(' :: (parameters ++ ')' :: rest)) := by
        obtain ⟨c, n, rfl⟩ := List.exists_cons_of_ne_nil hn.1
        exact trimStart_of_head (not_blank_of_wordChar (hn.2 c (List.mem_cons_self ..)))
      obtain ⟨hword, hopen⟩ := word?_append hn h₂ (parameters ++ ')' :: rest)
      have hclose : cut? [')'] (parameters ++ ')' :: rest) = some (parameters, rest) :=
        cut?_char_iff.mpr ⟨hp, rfl⟩
      simp only [named?, afterBlanks?_append h₁ hne, hname, hword, hopen, hclose,
        Option.bind_eq_bind, Option.bind_some, Option.pure_def]

lemma Named.head {name parameters s : Text} (h : Named name parameters s) :
    ∃ c r, s = c :: r ∧ isBlank c = true := by
  cases h with
  | @mk b₁ b₂ rest h₁ hne hn h₂ hp =>
    obtain ⟨c, b, rfl⟩ := List.exists_cons_of_ne_nil hne
    exact ⟨c, _, rfl, h₁ c (List.mem_cons_self ..)⟩

/-- What follows the name of a type is no part of the name. -/
lemma angled_head {i : Option Text} {n : ℕ} {name parameters s : Text}
    (h : Named name parameters s) :
    ∀ c r, angled i ++ (marks n ++ s) = c :: r → isDottedChar c = false := by
  intro c r hs
  rcases i with _ | i
  · rcases n with _ | n
    · obtain ⟨d, t, rfl, hd⟩ := h.head
      obtain ⟨rfl, -⟩ := List.cons.inj hs
      exact not_dotted_of_blank hd
    · obtain ⟨rfl, -⟩ := List.cons.inj hs
      decide
  · obtain ⟨rfl, -⟩ := List.cons.inj hs
    decide

lemma marks_head {n : ℕ} {name parameters s : Text} (h : Named name parameters s) :
    (marks n ++ s).head? ≠ some '<' ∧ s.head? ≠ some '[' := by
  obtain ⟨d, t, rfl, hd⟩ := h.head
  have hne : ∀ e, isBlank e = false → d ≠ e := fun e he => ne_of_class hd he
  refine ⟨?_, by simpa using hne '[' (by decide)⟩
  rcases n with _ | n
  · simpa [marks] using hne '<' (by decide)
  · simp [marks]

/-- Nothing that stands in front of a closing bracket is read as a type. -/
lemma named?_of_angle {ms : List Text} {ty s : Text} (h : 0 < anglesAhead s) :
    named? ms ty (arrayMarks s).2 = none := by
  by_contra hread
  obtain ⟨h', hsome⟩ := Option.ne_none_iff_exists'.mp hread
  obtain ⟨name, parameters, hnamed, -⟩ := named?_eq_some_iff.mp hsome
  obtain ⟨n, -, hs⟩ := arrayMarks_eq s
  have hopen : '(' ∉ marks n := marks_not_mem (by decide)
  have hangle : (marks n).count '>' = 0 := List.count_eq_zero.mpr (marks_not_mem (by decide))
  rw [hs, anglesAhead_append hopen, hangle, anglesAhead_named hnamed] at h
  omega

/-- What is read behind the arguments of a type completes it. -/
lemma named?_arrayMarks (arguments : Option Text) {ms : List Text} {base r : Text} {h : Header}
    (hbase : Dotted base) (harguments : ∀ i ∈ arguments, NoParens i)
    (hread : named? ms (base ++ (angled arguments ++ (arrayMarks r).1)) (arrayMarks r).2 = some h) :
    ∃ t : ResultType, t.Legible ∧ ∃ name parameters tail, Named name parameters tail ∧
      base ++ (angled arguments ++ r) = t.text ++ tail ∧ h = ⟨ms, t.text, name, parameters⟩ := by
  obtain ⟨name, parameters, hnamed, rfl⟩ := named?_eq_some_iff.mp hread
  obtain ⟨n, hn, hr⟩ := arrayMarks_eq r
  refine ⟨⟨base, arguments, n⟩, ⟨hbase, harguments⟩, name, parameters, _, hnamed, ?_, ?_⟩
  · conv => lhs; rw [hr]
    simp [ResultType.text]
  · rw [hn, ResultType.text]

/-- What is read as a type with a name behind it is one. -/
lemma typed?_eq_some {ms : List Text} {s : Text} {h : Header} (hread : typed? ms s = some h) :
    ∃ t : ResultType, t.Legible ∧ ∃ name parameters tail, Named name parameters tail ∧
      s = t.text ++ tail ∧ h = ⟨ms, t.text, name, parameters⟩ := by
  obtain ⟨⟨base, r⟩, hdotted, hrest⟩ := Option.bind_eq_some_iff.mp hread
  obtain ⟨hbase, rfl⟩ := dotted?_eq_some hdotted
  dsimp only at hrest
  split at hrest
  · obtain ⟨i, r, rfl, hi, hk, -⟩ := closeAngle_eq_some_iff.mp hrest
    have htype : base ++ '<' :: i ++ '>' :: (arrayMarks r).1 =
        base ++ (angled (some i) ++ (arrayMarks r).1) := by simp [angled]
    dsimp only at hk
    rw [htype] at hk
    simpa [angled] using named?_arrayMarks (some i) hbase (by simpa using hi) hk
  · have hbare := named?_arrayMarks none hbase (by simp) hrest
    simpa [angled] using hbare

/-- A type with a name behind it is read. -/
lemma typed?_text {t : ResultType} (ht : t.Legible) {name parameters tail : Text}
    (hnamed : Named name parameters tail) (ms : List Text) :
    typed? ms (t.text ++ tail) = some ⟨ms, t.text, name, parameters⟩ := by
  obtain ⟨base, arguments, n⟩ := t
  obtain ⟨hangle, hmark⟩ := marks_head (n := n) hnamed
  have hbase : dotted? (base ++ (angled arguments ++ (marks n ++ tail))) =
      some (base, angled arguments ++ (marks n ++ tail)) :=
    dotted?_append ht.base (angled_head hnamed)
  have hs : ResultType.text ⟨base, arguments, n⟩ ++ tail =
      base ++ (angled arguments ++ (marks n ++ tail)) := by simp [ResultType.text]
  rw [hs, typed?, hbase, Option.bind_eq_bind, Option.bind_some]
  rcases arguments with _ | i
  · rw [angled, List.nil_append]
    dsimp only
    split
    · next r hr => exact absurd (by rw [hr]; rfl) hangle
    · rw [arrayMarks_append n hmark]
      exact named?_eq_some_iff.mpr ⟨name, parameters, hnamed, by simp [ResultType.text, angled]⟩
  · have hi : NoParens i := ht.arguments i rfl
    have hopen : angled (some i) ++ (marks n ++ tail) =
        '<' :: (i ++ '>' :: (marks n ++ tail)) := by simp [angled]
    rw [hopen]
    refine closeAngle_eq_some_iff.mpr ⟨i, marks n ++ tail, rfl, hi, ?_, fun i' z hz => ?_⟩
    · dsimp only
      rw [arrayMarks_append n hmark]
      exact named?_eq_some_iff.mpr ⟨name, parameters, hnamed, by simp [ResultType.text, angled]⟩
    · -- the bracket that closes the arguments still follows
      refine named?_of_angle ?_
      have hz' : '(' ∉ z := fun hmem => hi.paren (by simp [hz, hmem])
      rw [anglesAhead_append hz', anglesAhead_cons_angle]
      omega

/-- **A header is read from its result type on** just where it is one, and in one way only. -/
theorem typed?_eq_some_iff {ms : List Text} {s : Text} {h : Header} :
    typed? ms s = some h ↔ ∃ t : ResultType, t.Legible ∧ ∃ name parameters tail,
      Named name parameters tail ∧ s = t.text ++ tail ∧ h = ⟨ms, t.text, name, parameters⟩ := by
  refine ⟨typed?_eq_some, ?_⟩
  rintro ⟨t, ht, name, parameters, tail, hnamed, rfl, rfl⟩
  exact typed?_text ht hnamed ms

/-! ### Modifiers -/

/-- A text at whose start no modifier is read. -/
structure Plain (r : Text) : Prop where
  head : trimStart r = r
  unmodified : ∀ m ∈ memberModifiers, ∀ b x, Blanks b → b ≠ [] → r ≠ m ++ (b ++ x)

lemma dotted_of_modifier : ∀ m ∈ memberModifiers, Dotted m := by
  have h : ∀ m ∈ memberModifiers, m ≠ [] ∧ m.all isDottedChar = true := by decide
  exact fun m hm => ⟨(h m hm).1, List.all_eq_true.mp (h m hm).2⟩

/-- No modifier begins with another one. -/
lemma modifiers_prefixFree : ∀ m ∈ memberModifiers, ∀ m' ∈ memberModifiers, m <+: m' → m = m' := by
  decide

lemma afterAny?_modifier {m : Text} (hm : m ∈ memberModifiers) (x : Text) :
    afterAny? memberModifiers (m ++ x) = some (m, x) := by
  rcases hq : afterAny? memberModifiers (m ++ x) with _ | ⟨m', x'⟩
  · have hnone := List.findSome?_eq_none_iff.mp hq m hm
    rw [after?_append] at hnone
    cases hnone
  · obtain ⟨hm', hx⟩ := afterAny?_eq_some hq
    have hprefix : m <+: m' ∨ m' <+: m :=
      List.prefix_or_prefix_of_prefix (List.prefix_append m x) ⟨x', hx.symm⟩
    obtain rfl : m = m' := hprefix.elim (modifiers_prefixFree m hm m' hm')
      fun h => (modifiers_prefixFree m' hm' m hm h).symm
    rw [List.append_cancel_left hx]

namespace Modified

variable {ms : List Text} {s r : Text}

lemma mem (h : Modified ms s r) : ∀ m ∈ ms, m ∈ memberModifiers := by
  induction h with
  | nil s => exact fun m hm => absurd hm List.not_mem_nil
  | cons hm hb hne h ih => exact List.forall_mem_cons.mpr ⟨hm, ih⟩

lemma suffix (h : Modified ms s r) : r <:+ s := by
  induction h with
  | nil s => exact List.suffix_refl s
  | @cons m b s r ms hm hb hne h ih =>
    exact ih.trans ((List.suffix_append b s).trans (List.suffix_append m (b ++ s)))

lemma head (h : Modified ms s r) : s = r ∨ ∃ c t, s = c :: t ∧ isDottedChar c = true := by
  cases h with
  | nil s => exact .inl rfl
  | @cons m b s r ms hm hb hne h =>
    have hdotted := dotted_of_modifier m hm
    obtain ⟨c, t, rfl⟩ := List.exists_cons_of_ne_nil hdotted.1
    exact .inr ⟨c, _, rfl, hdotted.2 c (List.mem_cons_self ..)⟩

lemma trimStart_eq (h : Modified ms s r) (hr : trimStart r = r) : trimStart s = s := by
  rcases h.head with rfl | ⟨c, t, rfl, hc⟩
  · exact hr
  · exact trimStart_of_head (not_blank_of_dottedChar hc)

/-- In front of modifiers there is no annotation. -/
lemma dropAnnotations_eq (h : Modified ms s r) (hr : trimStart r = r) (hne : r.head? ≠ some '@')
    {b : Text} (hb : Blanks b) : dropAnnotations (b ++ s) = b ++ s := by
  refine FirstType.dropAnnotations_of_plain ?_
  rw [ startsAnnotation, trimStart_append hb, h.trimStart_eq hr]
  rcases h.head with rfl | ⟨c, t, rfl, hc⟩
  · simpa using hne
  · simpa using ne_of_class hc (by decide : isDottedChar '@' = false)

lemma modifiersIn_eq (h : Modified ms s r) (hr : Plain r) {n : ℕ} (hn : s.length ≤ n) :
    modifiersIn memberModifiers n s = (ms, r) := by
  induction h generalizing n with
  | nil r =>
    rcases n with _ | n
    · rfl
    rw [modifiersIn]
    split
    · rfl
    · next m x hx =>
      obtain ⟨hm, hs⟩ := afterAny?_eq_some hx
      split
      · rfl
      · next t ht =>
        obtain ⟨b, hb, hne, rfl⟩ := afterBlanks?_eq_some ht
        exact absurd hs (hr.unmodified m hm b t hb hne)
  | @cons m b s r ms hm hb hne h ih =>
    have hlen : 0 < b.length := List.length_pos_iff.mpr hne
    simp only [List.length_append] at hn
    rcases n with _ | n
    · omega
    rw [modifiersIn, afterAny?_modifier hm]
    dsimp only
    rw [afterBlanks?_append hb hne, h.trimStart_eq hr.head]
    dsimp only
    rw [ih hr (by omega)]

end Modified

/-- What is read as modifiers are modifiers. -/
lemma modified_modifiersIn (n : ℕ) (s : Text) :
    Modified (modifiersIn memberModifiers n s).1 s (modifiersIn memberModifiers n s).2 := by
  induction n generalizing s with
  | zero => exact .nil s
  | succ n ih =>
    rw [modifiersIn]
    split
    · exact .nil s
    · next m x hx =>
      obtain ⟨hm, rfl⟩ := afterAny?_eq_some hx
      split
      · exact .nil _
      · next t ht =>
        obtain ⟨b, hb, hne, rfl⟩ := afterBlanks?_eq_some ht
        exact .cons hm hb hne (ih t)

lemma modifiers_of_modified {ms : List Text} {s r : Text} (h : Modified ms s r) (hr : Plain r) :
    modifiers memberModifiers s = (ms, r) := h.modifiersIn_eq hr le_rfl

/-! ### Headers -/

lemma text_head (t : ResultType) (ht : t.Legible) (tail : Text) :
    ∃ c r, t.text ++ tail = c :: r ∧ isDottedChar c = true := by
  obtain ⟨c, u, hbase⟩ := List.exists_cons_of_ne_nil ht.base.1
  exact ⟨c, u ++ (angled t.arguments ++ marks t.dimensions) ++ tail, by
    simp [ResultType.text, hbase], ht.base.2 c (by simp [hbase])⟩

/-- A type that is no modifier is not read as one. -/
lemma plain_text {t : ResultType} (ht : t.Legible) (hm : t.text ∉ memberModifiers)
    {name parameters tail : Text} (h : Named name parameters tail) : Plain (t.text ++ tail) := by
  have hs : t.text ++ tail = t.base ++ (angled t.arguments ++ (marks t.dimensions ++ tail)) := by
    simp [ResultType.text]
  refine ⟨?_, fun m hmem b x hb hne heq => hm ?_⟩
  · obtain ⟨c, r, hr, hc⟩ := text_head t ht tail
    rw [hr]
    exact trimStart_of_head (not_blank_of_dottedChar hc)
  · obtain ⟨c, b, rfl⟩ := List.exists_cons_of_ne_nil hne
    have hc : isBlank c = true := hb c (List.mem_cons_self ..)
    have hleft := dotted?_append ht.base (angled_head (i := t.arguments) (n := t.dimensions) h)
    have hright : dotted? (m ++ (c :: b ++ x)) = some (m, c :: b ++ x) := by
      refine dotted?_append (dotted_of_modifier m hmem) fun d u hd => ?_
      obtain ⟨rfl, -⟩ := List.cons.inj hd
      exact not_dotted_of_blank hc
    rw [← heq, hs, hleft] at hright
    obtain ⟨hbase, hrest⟩ := Prod.mk.inj (Option.some.inj hright)
    -- the blank stands right behind the name, so there is nothing else in the type
    have htext : t.text = t.base := by
      rw [ResultType.text]
      rcases hi : t.arguments with _ | i
      · rcases hn : t.dimensions with _ | n
        · simp [angled, marks]
        · rw [hi, hn] at hrest
          obtain ⟨rfl, -⟩ := List.cons.inj hrest
          exact absurd hc (by decide)
      · rw [hi] at hrest
        obtain ⟨rfl, -⟩ := List.cons.inj hrest
        exact absurd hc (by decide)
    rw [htext, hbase]
    exact hmem

/-- A header without type parameters is read from its type on. -/
lemma header?_text {t : ResultType} (ht : t.Legible) (hm : t.text ∉ memberModifiers)
    {name parameters tail : Text} (hnamed : Named name parameters tail) {b s : Text}
    {ms : List Text} (hb : Blanks b) (h : Modified ms s (t.text ++ tail)) :
    header? (dropAnnotations (b ++ s)) = some ⟨ms, t.text, name, parameters⟩ := by
  have hplain := plain_text ht hm hnamed
  obtain ⟨c, r, hr, hc⟩ := text_head t ht tail
  have hne : ∀ d, isDottedChar d = false → (t.text ++ tail).head? ≠ some d := by
    intro d hd
    simpa [hr] using ne_of_class hc hd
  rw [h.dropAnnotations_eq hplain.head (hne '@' (by decide)) hb, header?, trimStart_append hb,
    h.trimStart_eq hplain.head, modifiers_of_modified h hplain]
  dsimp only
  split
  · next u hu => exact absurd (by rw [hu]; rfl) (hne '<' (by decide))
  · exact typed?_text ht hnamed ms

/-- The type parameters of a header are closed at the nearest place that lets the rest be read. -/
lemma header?_angled {b s u : Text} {ms : List Text} (hb : Blanks b)
    (h : Modified ms s ('<' :: u)) : header? (dropAnnotations (b ++ s)) =
      closeAngle (fun _ t => typed? ms (trimStart t)) u := by
  have hplain : Plain ('<' :: u) := by
    refine ⟨trimStart_of_head (by decide), fun m hm b x hb hne heq => ?_⟩
    obtain ⟨c, m', rfl⟩ := List.exists_cons_of_ne_nil (dotted_of_modifier m hm).1
    have hc := (dotted_of_modifier _ hm).2 c (List.mem_cons_self ..)
    exact ne_of_class hc (by decide : isDottedChar '<' = false) (List.cons.inj heq).1.symm
  rw [h.dropAnnotations_eq hplain.head (by simp) hb]
  simp only [header?, trimStart_append hb, h.trimStart_eq hplain.head,
    modifiers_of_modified h hplain]

/-- What is read as a header has modifiers, a type and a name that can be written down again. -/
lemma header?_eq_some {line : Text} {h : Header} (hread : header? line = some h) :
    (∀ m ∈ h.modifiers, m ∈ memberModifiers) ∧ ∃ t : ResultType, t.Legible ∧
      h.resultType = t.text ∧ ∃ tail, Named h.name h.parameters tail := by
  have htyped : ∃ r, typed? (modifiers memberModifiers (trimStart line)).1 r = some h := by
    rw [header?] at hread
    split at hread
    · obtain ⟨i, r, -, -, hr, -⟩ := closeAngle_eq_some_iff.mp hread
      exact ⟨_, hr⟩
    · exact ⟨_, hread⟩
  obtain ⟨r, hr⟩ := htyped
  obtain ⟨t, ht, name, parameters, tail, hnamed, -, rfl⟩ := typed?_eq_some hr
  exact ⟨(modified_modifiersIn _ _).mem, t, ht, rfl, tail, hnamed⟩

/-- Trimming takes only blanks away. -/
lemma mem_trim_iff {c : Char} (hc : isBlank c = false) {s : Text} : c ∈ trim s ↔ c ∈ s := by
  obtain ⟨b, hb, hs⟩ := exists_blanks s
  obtain ⟨b', hb', hs'⟩ := MergedBraces.exists_trimEnd (trimStart s)
  conv => rhs; rw [hs, hs']
  rw [List.mem_append, List.mem_append, or_iff_right (blanks_not_mem hb hc),
    or_iff_left (blanks_not_mem hb' hc), trim]

/-- The header of a method: its type is not its own name, and no word that stands elsewhere. -/
structure DeclaresMethod (h : Header) : Prop where
  name : h.resultType ≠ h.name
  modifier : h.resultType ∉ memberModifiers
  keyword : h.resultType ∉ statementKeywords

lemma member?_eq_some_iff {line : Text} {n : Int} {m : Member} :
    member? line n = some m ↔ ∃ h, header? (dropAnnotations line) = some h ∧ DeclaresMethod h ∧
      m = ⟨h.name, h.modifiers, h.resultType, trim h.parameters, n, n⟩ := by
  constructor
  · intro hread
    unfold member? at hread
    split at hread
    · cases hread
    · next h hh =>
      split at hread
      · cases hread
      · next hname =>
        split at hread
        · cases hread
        · next hword =>
          simp only [Bool.or_eq_true, decide_eq_true_eq, not_or] at hword
          exact ⟨h, hh, ⟨hname, hword.1, hword.2⟩, (Option.some.inj hread).symm⟩
  · rintro ⟨h, hh, ⟨hname, hmodifier, hkeyword⟩, rfl⟩
    simp [member?, hh, hname, hmodifier, hkeyword]

end TestWeaver.Proofs.HeaderText
