import TestWeaver.Proofs.HeaderText

/-!
Method headers written on one line, and which of them are read back.

A header is read back unless its parameters hold a closing parenthesis, or its type parameters are
closed at the wrong bracket. They are closed at the nearest bracket that lets the rest be read:
what is left of them then begins like a type with arguments, and the closing bracket of these is
the last one of the result type. So the result type has arguments itself, and in the type
parameters a closing bracket is followed by a name and an opening one.
-/

namespace TestWeaver.Proofs.PrintedHeaders

open Source Text ImportStatement HeaderText

/-! ### Headers -/

/-- A method header up to its parameters. -/
structure MethodHeader where
  modifiers : List Text
  typeParameters : Option Text
  result : ResultType
  name : Text
  parameters : Text

/-- Characters that separate the parts of a header. -/
def delimiters : List Char := "()<>[]\x7b\x7d@,;".toList

/-- A name of any characters that do not separate. -/
def Token (w : Text) : Prop := w ≠ [] ∧ ∀ c ∈ w, isBlank c = false ∧ c ∉ delimiters

instance : DecidablePred Token := fun w =>
  @instDecidableAnd (w ≠ []) _ inferInstance (List.decidableBAll _ w)

/-- Type parameters: the first parenthesis, if there is one, opens the arguments of an
annotation. -/
inductive Clause : Text → Prop
  | bare {g : Text} (h : NoParens g) : Clause g
  | annotated {x v y : Text} (hx : NoParens x)
      (hv : ∀ c ∈ v, isBlank c = true ∨ isDottedChar c = true) :
      Clause (x ++ '@' :: (v ++ '(' :: y))

/-- Behind a closing bracket follow a name and an opening bracket. -/
def Qualified (g : Text) : Prop :=
  ∃ x b d y, g = x ++ '>' :: (b ++ (d ++ '<' :: y)) ∧ Blanks b ∧ Dotted d

lemma Qualified.opening {g : Text} (h : Qualified g) : '<' ∈ g.dropWhile (· ≠ '>') := by
  obtain ⟨x, b, d, y, rfl, -, -⟩ := h
  induction x with
  | nil => simp
  | cons c x ih =>
    by_cases hc : c = '>'
    · simp [hc]
    · simpa [hc] using ih

namespace MethodHeader

structure WellFormed (m : MethodHeader) : Prop where
  typeParameters : ∀ g ∈ m.typeParameters, Clause g
  base : Token m.result.base
  arguments : ∀ i ∈ m.result.arguments, NoParens i
  name : Token m.name
  method : DeclaresMethod ⟨m.modifiers, m.result.text, m.name, m.parameters⟩

/-- What stands behind the result type. -/
inductive Behind (m : MethodHeader) : Text → Prop
  | mk {b₁ b₂ rest : Text} (h₁ : Blanks b₁) (hne : b₁ ≠ []) (h₂ : Blanks b₂) :
      Behind m (b₁ ++ (m.name ++ (b₂ ++ '(' :: (m.parameters ++ ')' :: rest))))

/-- The lines on which the header stands, with blanks between its parts and anything behind it, be
it a clause of exceptions, a brace or a semicolon. -/
inductive Line (m : MethodHeader) : Text → Prop
  | bare {b s tail : Text} (hb : Blanks b) (hnone : m.typeParameters = none) (ht : m.Behind tail)
      (hs : Modified m.modifiers s (m.result.text ++ tail)) : Line m (b ++ s)
  | generic {b b' g s tail : Text} (hb : Blanks b) (hb' : Blanks b')
      (hsome : m.typeParameters = some g) (ht : m.Behind tail)
      (hs : Modified m.modifiers s ('<' :: (g ++ '>' :: (b' ++ (m.result.text ++ tail))))) :
      Line m (b ++ s)

/-- The method that the header declares. -/
def member (m : MethodHeader) (n : Int) : Member :=
  ⟨m.name, m.modifiers, m.result.text, trim m.parameters, n, n⟩

/-- The header can be read. -/
structure Readable (m : MethodHeader) : Prop where
  base : Dotted m.result.base
  name : Word m.name
  parameters : ')' ∉ m.parameters
  typeParameters : ∀ g ∈ m.typeParameters, NoParens g ∧
    (m.result.arguments = none ∨ ¬ Qualified g)

end MethodHeader

/-! ### Where type parameters are closed -/

/-- The number of brackets ahead tells two closing brackets apart. -/
lemma close_unique {i g r s : Text} (h : i ++ '>' :: r = g ++ '>' :: s) (hi : '(' ∉ i)
    (hg : '(' ∉ g) (hcount : anglesAhead r = anglesAhead s) : i = g ∧ r = s := by
  have hlonger : ∀ {i g r s z : Text}, g = i ++ z → '>' :: r = z ++ '>' :: s → '(' ∉ g →
      anglesAhead r = anglesAhead s → z = [] := by
    intro i g r s z hz hr hg hcount
    rcases z with _ | ⟨c, z⟩
    · rfl
    · have hz' : '(' ∉ z := fun hmem => hg (by simp [hz, hmem])
      have hrest : r = z ++ '>' :: s := (List.cons.inj hr).2
      rw [hrest, anglesAhead_append hz', anglesAhead_cons_angle] at hcount
      omega
  rcases List.append_eq_append_iff.mp h with ⟨z, hz, hr⟩ | ⟨z, hz, hr⟩
  · obtain rfl := hlonger hz hr hg hcount
    exact ⟨by simpa using hz.symm, (List.cons.inj hr).2⟩
  · obtain rfl := hlonger hz hr hi hcount.symm
    exact ⟨by simpa using hz, (List.cons.inj hr).2.symm⟩

/-- What is read behind blanks. -/
lemma typed?_trimStart {ms : List Text} {s : Text} {h : Header} :
    typed? ms (trimStart s) = some h ↔ ∃ (b : Text) (t : ResultType), Blanks b ∧ t.Legible ∧
      ∃ name parameters tail, Named name parameters tail ∧ s = b ++ (t.text ++ tail) ∧
        h = ⟨ms, t.text, name, parameters⟩ := by
  rw [typed?_eq_some_iff]
  constructor
  · rintro ⟨t, ht, name, parameters, tail, hnamed, hs, rfl⟩
    obtain ⟨b, hb, hsplit⟩ := exists_blanks s
    exact ⟨b, t, hb, ht, name, parameters, tail, hnamed, by rw [hsplit, hs], rfl⟩
  · rintro ⟨b, t, hb, ht, name, parameters, tail, hnamed, rfl, rfl⟩
    obtain ⟨c, r, hr, hc⟩ := text_head t ht tail
    refine ⟨t, ht, name, parameters, tail, hnamed, ?_, rfl⟩
    rw [trimStart_append hb, hr, trimStart_of_head (not_blank_of_dottedChar hc)]

lemma anglesAhead_behind {b : Text} (hb : Blanks b) {t : ResultType} (ht : t.Legible)
    {name parameters tail : Text} (hnamed : Named name parameters tail) :
    anglesAhead (b ++ (t.text ++ tail)) = t.text.count '>' := by
  rw [anglesAhead_append (blanks_not_mem hb (by decide)), anglesAhead_text ht hnamed,
    List.count_eq_zero.mpr (blanks_not_mem hb (by decide)), Nat.zero_add]

/-- A name stands in front of the parenthesis. -/
lemma marks_append_ne_paren {name parameters tail : Text} (h : Named name parameters tail) (n : ℕ)
    {b : Text} (hb : Blanks b) (r : Text) : marks n ++ tail ≠ b ++ '(' :: r := by
  intro heq
  obtain ⟨a₁, a₂, -, hname, -, hahead⟩ := h.ahead
  obtain ⟨c, v, rfl⟩ := List.exists_cons_of_ne_nil hname.1
  have hblank : c ∈ b := by
    have := congrArg ahead heq
    rw [ahead_append (marks_not_mem (by decide)), hahead,
      ahead_append (blanks_not_mem hb (by decide)), ahead_paren, List.append_nil] at this
    simp [← this]
  exact ne_of_class (hb c hblank) (not_blank_of_wordChar (hname.2 c (List.mem_cons_self ..))) rfl

/-- The end of a type with a name behind it is not a type with a name behind it. -/
lemma marks_append_ne {t : ResultType} (ht : Dotted t.base) (hnone : t.arguments = none)
    {name parameters tail : Text} (hnamed : Named name parameters tail) {b : Text} (hb : Blanks b)
    {name' parameters' tail' : Text} (hnamed' : Named name' parameters' tail') (k : ℕ) :
    b ++ (t.text ++ tail) ≠ marks k ++ tail' := by
  intro heq
  have htext : t.text ++ tail = t.base ++ (marks t.dimensions ++ tail) := by
    simp [ResultType.text, hnone, angled]
  obtain ⟨c, u, hbase⟩ := List.exists_cons_of_ne_nil ht.1
  have hc : isDottedChar c = true := ht.2 c (by rw [hbase]; exact List.mem_cons_self ..)
  have htrim : trimStart (marks k ++ tail') = t.base ++ (marks t.dimensions ++ tail) := by
    rw [← heq, trimStart_append hb, htext, hbase, List.cons_append,
      trimStart_of_head (not_blank_of_dottedChar hc)]
  rcases k with _ | k
  · cases hnamed' with
    | @mk b₁ b₂ rest h₁ hne hn h₂ hp =>
      obtain ⟨d, w, rfl⟩ := List.exists_cons_of_ne_nil hn.1
      have hd := not_blank_of_wordChar (hn.2 d (List.mem_cons_self ..))
      rw [marks, List.nil_append, trimStart_append h₁, List.cons_append, trimStart_of_head hd,
        ← List.cons_append] at htrim
      -- the name of the method would be that of the type, and the parenthesis come next
      have hread := dotted?_append hn.dotted (paren_head h₂ (parameters' ++ ')' :: rest))
      have hread' : dotted? (t.base ++ (marks t.dimensions ++ tail)) =
          some (t.base, marks t.dimensions ++ tail) :=
        dotted?_append ht (angled_head (i := none) hnamed)
      rw [htrim, hread'] at hread
      obtain ⟨-, hrest⟩ := Prod.mk.inj (Option.some.inj hread)
      exact marks_append_ne_paren hnamed t.dimensions h₂ _ hrest
  · rw [marks, List.cons_append, trimStart_of_head (by decide), hbase] at htrim
    exact ne_of_class hc (by decide : isDottedChar '[' = false) (List.cons.inj htrim).1.symm

/-- An opening bracket behind a name stands in front of any closing one. -/
lemma exists_opening {z b d s r : Text} (hb : Blanks b) (hd : Dotted d)
    (h : z ++ '>' :: s = b ++ (d ++ '<' :: r)) : ∃ y, z = b ++ (d ++ '<' :: y) := by
  have hclose : '>' ∉ b ++ (d ++ ['<']) := by
    have hb' : '>' ∉ b := blanks_not_mem hb (by decide)
    have hd' : '>' ∉ d := dotted_not_mem hd (by decide)
    simp [hb', hd']
  have hsplit : z ++ '>' :: s = (b ++ (d ++ ['<'])) ++ r := by simpa using h
  rcases List.append_eq_append_iff.mp hsplit with ⟨w, hw, hrest⟩ | ⟨w, hw, -⟩
  · rcases w with _ | ⟨c, w⟩
    · exact ⟨[], by simpa using hw.symm⟩
    · obtain ⟨rfl, -⟩ := List.cons.inj hrest
      exact absurd (by simp [hw]) hclose
  · exact ⟨w, by simp [hw]⟩

section Clause

variable {t : ResultType} (ht : t.Legible) {name parameters tail : Text}
  (hnamed : Named name parameters tail) {b : Text} (hb : Blanks b) (ms : List Text)

include ht hnamed hb

/-- The type parameters can be closed at the right bracket. -/
lemma typed?_clause : typed? ms (trimStart (b ++ (t.text ++ tail))) =
    some ⟨ms, t.text, name, parameters⟩ :=
  typed?_trimStart.mpr ⟨b, t, hb, ht, name, parameters, tail, hnamed, rfl, rfl⟩

/-- Where they can be closed at a nearer one, the result type has arguments, and behind the
bracket follow a name and an opening one. -/
lemma qualified_of_nearer {i z : Text} (hg : NoParens (i ++ '>' :: z))
    (h : typed? ms (trimStart (z ++ '>' :: (b ++ (t.text ++ tail)))) ≠ none) :
    t.arguments ≠ none ∧ Qualified (i ++ '>' :: z) := by
  obtain ⟨hd, hread⟩ := Option.ne_none_iff_exists'.mp h
  obtain ⟨b', t', hb', ht', name', parameters', tail', hnamed', hs, rfl⟩ :=
    typed?_trimStart.mp hread
  have hz : '(' ∉ z := fun hmem => hg.paren (by simp [hmem])
  have hcount : t'.text.count '>' = z.count '>' + (t.text.count '>' + 1) := by
    rw [← anglesAhead_behind hb' ht' hnamed', ← hs, anglesAhead_append hz, anglesAhead_cons_angle,
      anglesAhead_behind hb ht hnamed]
  obtain ⟨j, hj⟩ : ∃ j, t'.arguments = some j := by
    refine Option.ne_none_iff_exists'.mp fun hnone => ?_
    rw [ResultType.count_text ht'.base, hnone] at hcount
    simp [angled] at hcount
  have htext : b' ++ (t'.text ++ tail') =
      (b' ++ (t'.base ++ '<' :: j)) ++ '>' :: (marks t'.dimensions ++ tail') := by
    simp [ResultType.text, hj, angled]
  rw [htext] at hs
  have hfront : '(' ∉ b' ++ (t'.base ++ '<' :: j) := by
    have hj' := (ht'.arguments j hj).paren
    have hb₁ : '(' ∉ b' := blanks_not_mem hb' (by decide)
    have hbase : '(' ∉ t'.base := dotted_not_mem ht'.base (by decide)
    simp [hj', hb₁, hbase]
  constructor
  · intro hnone
    refine marks_append_ne ht.base hnone hnamed hb hnamed' t'.dimensions
      (close_unique hs hz hfront ?_).2
    rw [anglesAhead_behind hb ht hnamed, anglesAhead_append (marks_not_mem (by decide)),
      anglesAhead_named hnamed', ResultType.count_text ht.base, hnone, angled,
      List.count_eq_zero.mpr (marks_not_mem (by decide)), List.count_nil]
  · have hopen : z ++ '>' :: (b ++ (t.text ++ tail)) =
        b' ++ (t'.base ++ '<' :: (j ++ '>' :: (marks t'.dimensions ++ tail'))) := by
      simpa using hs
    obtain ⟨y, rfl⟩ := exists_opening hb' ht'.base hopen
    exact ⟨i, b', t'.base, y, rfl, hb', ht'.base⟩

/-- They are closed at the right bracket just where they cannot be closed at a nearer one. -/
lemma closeAngle_bare {g : Text} (hg : NoParens g) (h : t.arguments = none ∨ ¬ Qualified g) :
    closeAngle (fun _ u => typed? ms (trimStart u)) (g ++ '>' :: (b ++ (t.text ++ tail))) =
      some ⟨ms, t.text, name, parameters⟩ := by
  refine closeAngle_eq_some_iff.mpr
    ⟨g, _, rfl, hg, typed?_clause ht hnamed hb ms, fun i z hz => ?_⟩
  subst hz
  by_contra hread
  obtain ⟨harguments, hqualified⟩ := qualified_of_nearer ht hnamed hb ms hg hread
  exact h.elim harguments fun hnot => hnot hqualified

/-- If they are closed at the right bracket, they cannot be closed at a nearer one. -/
lemma not_qualified_of_closeAngle {g : Text} (hg : NoParens g) {h : Header}
    (hread : closeAngle (fun _ u => typed? ms (trimStart u))
      (g ++ '>' :: (b ++ (t.text ++ tail))) = some h) (htype : h.resultType = t.text) :
    t.arguments = none ∨ ¬ Qualified g := by
  obtain ⟨i, r, hs, hi, hk, hnear⟩ := closeAngle_eq_some_iff.mp hread
  have hcount : anglesAhead (b ++ (t.text ++ tail)) = anglesAhead r := by
    obtain ⟨b', t', hb', ht', name', parameters', tail', hnamed', rfl, rfl⟩ :=
      typed?_trimStart.mp hk
    have htype : t'.text = t.text := htype
    rw [anglesAhead_behind hb ht hnamed, anglesAhead_behind hb' ht' hnamed', htype]
  obtain ⟨rfl, rfl⟩ := close_unique hs hg.paren hi.paren hcount
  rcases hj : t.arguments with _ | j
  · exact .inl rfl
  right
  rintro ⟨x, b', d, y, rfl, hb', hd⟩
  -- at the nearer bracket a longer type is read
  let t' : ResultType := ⟨d, some (y ++ '>' :: (b ++ (t.base ++ '<' :: j))), t.dimensions⟩
  have ht' : t'.Legible := by
    refine ⟨hd, fun k hk => ?_⟩
    obtain rfl : y ++ '>' :: (b ++ (t.base ++ '<' :: j)) = k := Option.some.inj hk
    have hy : NoParens y := by
      simp only [noParens_append, noParens_cons] at hg
      exact hg.2.2.2.2.2
    have hbase : NoParens t.base := noParens_of_class ht.base.2 (by decide) (by decide)
    have hblank : NoParens b := noParens_of_class hb (by decide) (by decide)
    simp [noParens_append, noParens_cons, hy, hbase, hblank, ht.arguments j hj]
  have hlonger : b' ++ (d ++ '<' :: y) ++ '>' :: (b ++ (t.text ++ tail)) =
      b' ++ (t'.text ++ tail) := by
    simp [t', ResultType.text, angled, hj]
  have hsome := typed?_trimStart.mpr
    ⟨b', t', hb', ht', name, parameters, tail, hnamed, hlonger, (rfl : Header.mk ms _ _ _ = _)⟩
  exact Option.some_ne_none _ (hsome.symm.trans (hnear x (b' ++ (d ++ '<' :: y)) rfl))

end Clause

/-- A closing bracket stands behind the last at sign, or there is one behind the bracket. -/
lemma at_ne_angle {x v p q : Text} (hv : '>' ∉ v) (hq : '@' ∉ q) :
    x ++ '@' :: v ≠ p ++ '>' :: q := by
  intro h
  rcases List.append_eq_append_iff.mp h with ⟨w, -, hw⟩ | ⟨w, -, hw⟩
  · rcases w with _ | ⟨c, w⟩
    · exact absurd (List.cons.inj hw).1 (by decide)
    · exact hv (by rw [(List.cons.inj hw).2]; simp)
  · rcases w with _ | ⟨c, w⟩
    · exact absurd (List.cons.inj hw).1 (by decide)
    · exact hq (by rw [(List.cons.inj hw).2]; simp)

/-- Annotations with arguments are not understood. -/
lemma closeAngle_annotated {x v : Text} (hx : NoParens x)
    (hv : ∀ c ∈ v, isBlank c = true ∨ isDottedChar c = true) (ms : List Text) (s : Text) :
    closeAngle (fun _ u => typed? ms (trimStart u)) (x ++ '@' :: (v ++ '(' :: s)) = none := by
  by_contra hsome
  obtain ⟨h, hread⟩ := Option.ne_none_iff_exists'.mp hsome
  obtain ⟨i, r, hs, hi, hk, -⟩ := closeAngle_eq_some_iff.mp hread
  obtain ⟨b, t, hb, ht, name, parameters, tail, hnamed, rfl, rfl⟩ := typed?_trimStart.mp hk
  have hv' : ∀ c, isBlank c = false → isDottedChar c = false → c ∉ v := by
    intro c hc hd hmem
    rcases hv c hmem with h | h
    · rw [hc] at h
      cases h
    · rw [hd] at h
      cases h
  have hahead : x ++ '@' :: v = i ++ '>' :: (b ++ (t.text ++ ahead tail)) := by
    have hv₁ : '(' ∉ v := hv' '(' (by decide) (by decide)
    have hleft : '(' ∉ x ++ '@' :: v := by simp [hx.paren, hv₁]
    have hright : '(' ∉ i ++ '>' :: (b ++ t.text) := by
      have hb₁ : '(' ∉ b := blanks_not_mem hb (by decide)
      simp [hi.paren, hb₁, ht.paren]
    calc x ++ '@' :: v = ahead (x ++ '@' :: (v ++ '(' :: s)) := by
          rw [← List.cons_append, ← List.append_assoc, ahead_append hleft, ahead_paren,
            List.append_nil]
      _ = ahead (i ++ '>' :: (b ++ t.text) ++ tail) := by rw [hs]; simp
      _ = i ++ '>' :: (b ++ (t.text ++ ahead tail)) := by rw [ahead_append hright]; simp
  have hangle : '>' ∉ v := hv' '>' (by decide) (by decide)
  have htail : '@' ∉ ahead tail := hnamed.not_mem_ahead (by decide) (by decide)
  have hmarks : '@' ∉ marks t.dimensions := marks_not_mem (by decide)
  rcases hj : t.arguments with _ | j
  · have hb₁ : '@' ∉ b := blanks_not_mem hb (by decide)
    have hbase : '@' ∉ t.base := dotted_not_mem ht.base (by decide)
    refine at_ne_angle hangle ?_ hahead
    simp [ResultType.text, hj, angled, hb₁, hbase, hmarks, htail]
  · have htext : i ++ '>' :: (b ++ (t.text ++ ahead tail)) =
        (i ++ '>' :: (b ++ (t.base ++ '<' :: j))) ++ '>' :: (marks t.dimensions ++ ahead tail) := by
      simp [ResultType.text, hj, angled]
    exact at_ne_angle hangle (by simp [hmarks, htail]) (hahead.trans htext)

/-! ### Reading a header -/

lemma close_not_mem (s : Text) : ')' ∉ s.takeWhile (· ≠ ')') := by
  intro hmem
  have := List.mem_takeWhile_imp hmem
  simp at this

namespace MethodHeader

variable {m : MethodHeader}

/-- The parameters end at the first closing parenthesis. -/
lemma Behind.named {tail : Text} (h : m.Behind tail) (hn : Word m.name) :
    Named m.name (m.parameters.takeWhile (· ≠ ')')) tail := by
  cases h with
  | @mk b₁ b₂ rest h₁ hne h₂ =>
    obtain ⟨rest', hcut⟩ : ∃ rest', m.parameters ++ ')' :: rest =
        m.parameters.takeWhile (· ≠ ')') ++ ')' :: rest' := by
      have hsplit := List.takeWhile_append_dropWhile (p := (· ≠ ')')) (l := m.parameters)
      have hhead := List.head?_dropWhile_not (· ≠ ')') m.parameters
      rcases hrest : m.parameters.dropWhile (· ≠ ')') with _ | ⟨c, y⟩
      · rw [hrest, List.append_nil] at hsplit
        exact ⟨rest, by rw [hsplit]⟩
      · rw [hrest] at hsplit hhead
        obtain rfl : c = ')' := by simpa using hhead
        refine ⟨y ++ ')' :: rest, ?_⟩
        conv => lhs; rw [← hsplit]
        rw [List.append_assoc, List.cons_append]
    rw [hcut]
    exact .mk h₁ hne hn h₂ (close_not_mem m.parameters)

/-- A header whose type parameters are closed at the right bracket is read, with its parameters up
to the first closing parenthesis. -/
lemma member?_line (hm : m.WellFormed) {line : Text} (hl : m.Line line) (n : Int)
    (hbase : Dotted m.result.base) (hname : Word m.name)
    (hclause : ∀ g ∈ m.typeParameters, NoParens g ∧ (m.result.arguments = none ∨ ¬ Qualified g)) :
    member? line n = some ⟨m.name, m.modifiers, m.result.text,
      trim (m.parameters.takeWhile (· ≠ ')')), n, n⟩ := by
  have ht : m.result.Legible := ⟨hbase, hm.arguments⟩
  have hmethod : DeclaresMethod
      ⟨m.modifiers, m.result.text, m.name, m.parameters.takeWhile (· ≠ ')')⟩ :=
    ⟨hm.method.name, hm.method.modifier, hm.method.keyword⟩
  refine member?_eq_some_iff.mpr ⟨_, ?_, hmethod, rfl⟩
  cases hl with
  | bare hb hnone hbehind hs =>
    exact header?_text ht hm.method.modifier (hbehind.named hname) hb hs
  | @generic b b' g s tail hb hb' hsome hbehind hs =>
    obtain ⟨hg, hclosed⟩ := hclause g hsome
    rw [header?_angled hb hs]
    exact closeAngle_bare ht (hbehind.named hname) hb' m.modifiers hg hclosed

/-- The name of a type ends at its first bracket. -/
lemma takeWhile_text {t : ResultType} (h : ∀ c ∈ t.base, c ≠ '<' ∧ c ≠ '[') :
    t.text.takeWhile (fun c => c ≠ '<' && c ≠ '[') = t.base := by
  have hstop : (angled t.arguments ++ marks t.dimensions).takeWhile
      (fun c => c ≠ '<' && c ≠ '[') = [] := by
    rcases t.arguments with _ | i
    · rcases t.dimensions with _ | n
      · rfl
      · simp [angled, marks]
    · simp [angled]
  rw [ResultType.text, List.takeWhile_append_of_pos fun c hc => by simpa using h c hc, hstop,
    List.append_nil]

/-- Only word characters are read as the name of a method or a type. -/
lemma WellFormed.words (hm : m.WellFormed) {line : Text} {n : Int} {p : Text}
    (h : member? line n = some ⟨m.name, m.modifiers, m.result.text, p, n, n⟩) :
    Dotted m.result.base ∧ Word m.name := by
  obtain ⟨hd, hread, -, heq⟩ := member?_eq_some_iff.mp h
  obtain ⟨-, t, ht, htype, tail, hnamed⟩ := header?_eq_some hread
  simp only [Member.mk.injEq] at heq
  obtain ⟨hname, -, htext, -⟩ := heq
  constructor
  · have hbase : ∀ c ∈ m.result.base, c ≠ '<' ∧ c ≠ '[' := by
      intro c hc
      have hfree := (hm.base.2 c hc).2
      constructor
      · rintro rfl
        exact hfree (by decide)
      · rintro rfl
        exact hfree (by decide)
    have hbase' : ∀ c ∈ t.base, c ≠ '<' ∧ c ≠ '[' := fun c hc =>
      ⟨ne_of_class (ht.base.2 c hc) (by decide), ne_of_class (ht.base.2 c hc) (by decide)⟩
    rw [← takeWhile_text hbase, htext, htype, takeWhile_text hbase']
    exact ht.base
  · rw [hname]
    cases hnamed with
    | mk h₁ hne hn h₂ hp => exact hn

/-- The type parameters of a header that is read with the right type are closed at the right
bracket. -/
lemma WellFormed.closed (hm : m.WellFormed) {line : Text} (hl : m.Line line) {n : Int} {p : Text}
    (h : member? line n = some ⟨m.name, m.modifiers, m.result.text, p, n, n⟩) :
    ∀ g ∈ m.typeParameters, NoParens g ∧ (m.result.arguments = none ∨ ¬ Qualified g) := by
  intro g hg
  obtain ⟨hbase, hname⟩ := hm.words h
  obtain ⟨hd, hread, -, heq⟩ := member?_eq_some_iff.mp h
  cases hl with
  | bare hb hnone hbehind hs =>
    rw [hnone] at hg
    cases hg
  | @generic b b' g' s tail hb hb' hsome hbehind hs =>
    obtain rfl : g' = g := Option.some.inj (hsome.symm.trans hg)
    rw [header?_angled hb hs] at hread
    cases hm.typeParameters g' hsome with
    | bare hbare =>
      have htype : hd.resultType = m.result.text := (congrArg Member.resultType heq).symm
      exact ⟨hbare, not_qualified_of_closeAngle ⟨hbase, hm.arguments⟩ (hbehind.named hname) hb'
        m.modifiers hbare hread htype⟩
    | annotated hx hv =>
      rw [List.append_assoc, List.cons_append, List.append_assoc, List.cons_append,
        closeAngle_annotated hx hv] at hread
      cases hread

end MethodHeader

/-- **Which method headers are read back**: those whose names have word characters only, whose
parameters have no closing parenthesis, and whose type parameters have no parenthesis and are
closed at the right bracket. -/
theorem member?_line_iff {m : MethodHeader} (hm : m.WellFormed) {line : Text} (hl : m.Line line)
    (n : Int) : member? line n = some (m.member n) ↔ m.Readable := by
  constructor
  · intro h
    obtain ⟨hbase, hname⟩ := hm.words h
    have hclosed := hm.closed hl h
    refine ⟨hbase, hname, fun hmem => ?_, hclosed⟩
    rw [m.member?_line hm hl n hbase hname hclosed] at h
    have htrim := congrArg Member.parameters (Option.some.inj h)
    dsimp only [MethodHeader.member] at htrim
    have hcut : ')' ∈ trim (m.parameters.takeWhile (· ≠ ')')) := by
      rw [htrim, mem_trim_iff (by decide)]
      exact hmem
    exact close_not_mem m.parameters ((mem_trim_iff (by decide)).mp hcut)
  · intro h
    have hwhole : m.parameters.takeWhile (· ≠ ')') = m.parameters := by
      refine List.takeWhile_eq_self_iff.mpr fun c hc => decide_eq_true ?_
      rintro rfl
      exact h.parameters hc
    rw [m.member?_line hm hl n h.base h.name h.typeParameters, hwhole, MethodHeader.member]

/-- Type parameters that end with a bracket of their own are read, with everything around them. -/
theorem member?_line_bounded :
    let m : MethodHeader := ⟨["public".toList, "static".toList], some "T extends Rank<T>".toList,
      ⟨"util.List".toList, some "T".toList, 1⟩, "sort".toList, " List<T> items, int n ".toList⟩
    let line := ("  public static <T extends Rank<T>> util.List<T>[] sort" ++
      "( List<T> items, int n ) \x7b").toList
    m.WellFormed ∧ m.Line line ∧ m.Readable ∧ member? line 3 = some (m.member 3) := by
  intro m line
  have hclause : ∀ g ∈ m.typeParameters, NoParens g ∧ ¬ Qualified g := by
    intro g hg
    obtain rfl := Option.some.inj hg
    refine ⟨by decide +kernel, fun h => ?_⟩
    exact absurd h.opening (by decide +kernel)
  have harguments : ∀ i ∈ m.result.arguments, NoParens i := by
    intro i hi
    obtain rfl := Option.some.inj hi
    decide +kernel
  have hm : m.WellFormed :=
    { typeParameters := fun g hg => .bare (hclause g hg).1
      base := by decide +kernel
      arguments := harguments
      name := by decide +kernel
      method := ⟨by decide +kernel, by decide +kernel, by decide +kernel⟩ }
  have hl : m.Line line := by
    have hbehind : m.Behind
        ([' '] ++ (m.name ++ ([] ++ '(' :: (m.parameters ++ ')' :: " \x7b".toList)))) :=
      .mk (by decide) (by decide) (by decide)
    have hline : line = "  ".toList ++ ("public".toList ++ ([' '] ++ ("static".toList ++
        ([' '] ++ '<' :: ("T extends Rank<T>".toList ++ '>' :: ([' '] ++ (m.result.text ++
          ([' '] ++ (m.name ++ ([] ++ '(' :: (m.parameters ++ ')' :: " \x7b".toList))))))))))) := by
      decide +kernel
    rw [hline]
    exact .generic (by decide) (by decide) rfl hbehind (.cons (by decide) (by decide) (by decide)
      (.cons (by decide) (by decide) (by decide) (.nil _)))
  have hr : m.Readable :=
    { base := ⟨by decide, List.all_eq_true.mp (by decide +kernel)⟩
      name := by decide +kernel
      parameters := by decide +kernel
      typeParameters := fun g hg => ⟨(hclause g hg).1, .inr (hclause g hg).2⟩ }
  exact ⟨hm, hl, hr, (member?_line_iff hm hl 3).mpr hr⟩

/-- The parameters of an annotated parameter are cut. -/
theorem member?_line_annotated :
    let m : MethodHeader := ⟨[], none, ⟨"void".toList, none, 0⟩, "f".toList,
      "@Size(max = 3) String s".toList⟩
    let line := "void f(@Size(max = 3) String s) \x7b".toList
    m.WellFormed ∧ m.Line line ∧ member? line 1 ≠ some (m.member 1) ∧
      (member? line 1).map Member.parameters = some "@Size(max = 3".toList := by
  intro m line
  have hm : m.WellFormed :=
    { typeParameters := fun g hg => by cases hg
      base := by decide +kernel
      arguments := fun i hi => by cases hi
      name := by decide +kernel
      method := ⟨by decide +kernel, by decide +kernel, by decide +kernel⟩ }
  have hl : m.Line line := by
    have hbehind : m.Behind
        ([' '] ++ (m.name ++ ([] ++ '(' :: (m.parameters ++ ')' :: " \x7b".toList)))) :=
      .mk (by decide) (by decide) (by decide)
    have hline : line = [] ++ (m.result.text ++
        ([' '] ++ (m.name ++ ([] ++ '(' :: (m.parameters ++ ')' :: " \x7b".toList))))) := by
      decide +kernel
    rw [hline]
    exact .bare (by decide) rfl hbehind (.nil _)
  exact ⟨hm, hl, by decide +kernel, by decide +kernel⟩

example : (member? "<T extends A<X>.B<Y>> List<T> f() \x7b".toList 1).map Member.resultType =
    some ".B<Y>> List<T>".toList := by decide +kernel

end TestWeaver.Proofs.PrintedHeaders
