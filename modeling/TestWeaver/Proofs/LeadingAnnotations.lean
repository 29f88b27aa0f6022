import Mathlib.Data.List.DropRight
import TestWeaver.Proofs.HeaderText
import TestWeaver.Proofs.MergedMembers

/-!
Annotations in front of a declaration.

What a line declares is read behind the annotations that it starts with, so a line without them
declares the same. Its braces are counted on the whole line. Where those of the annotations are
balanced they say nothing about the depth, but a body is taken for open once a brace has been seen:
then a member ends on its header, though its body is still to come.
-/

namespace TestWeaver.Proofs.LeadingAnnotations

open Source Text ImportStatement HeaderText FirstType MergedBraces ScanMoves MergedMembers

/-! ### Annotations -/

/-- An annotation with the blanks behind it. -/
structure Annotation where
  name : Text
  arguments : Option Text
  space : Text
deriving DecidableEq

def parentheses : Option Text → Text
  | none => []
  | some i => '(' :: (i ++ [')'])

namespace Annotation

def text (a : Annotation) : Text := '@' :: (a.name ++ (parentheses a.arguments ++ a.space))

structure Spelled (a : Annotation) : Prop where
  name : Dotted a.name
  space : Blanks a.space

instance : DecidablePred Spelled := fun a =>
  decidable_of_iff (Dotted a.name ∧ Blanks a.space)
    ⟨fun h => ⟨h.1, h.2⟩, fun h => ⟨h.name, h.space⟩⟩

/-- A word behind the annotation does not run into its name. -/
def Apart (a : Annotation) : Prop := a.arguments = none → a.space ≠ []

instance : DecidablePred Apart := fun _ => inferInstanceAs (Decidable (_ → _))

/-- The annotation is one that can be read, whatever stands behind it. -/
structure Legible (a : Annotation) : Prop extends Spelled a where
  arguments : ∀ i ∈ a.arguments, ')' ∉ i
  apart : a.Apart

end Annotation

/-- Annotations one behind the other. -/
def texts (as : List Annotation) : Text := as.flatMap Annotation.text

lemma afterAnnotation?_text {a : Annotation} (ha : a.Legible) (s : Text) :
    afterAnnotation? (a.text ++ s) = some (a.space ++ s) := by
  obtain ⟨name, arguments, space⟩ := a
  obtain ⟨⟨hname, hspace⟩, harguments, hapart⟩ := ha
  rcases arguments with _ | i
  · obtain ⟨c, b, rfl⟩ := List.exists_cons_of_ne_nil (hapart rfl)
    have hc : isBlank c = true := hspace c (List.mem_cons_self ..)
    have hread : dotted? (name ++ (c :: b ++ s)) = some (name, c :: b ++ s) := by
      refine dotted?_append hname fun d r hd => ?_
      obtain ⟨rfl, -⟩ := List.cons.inj hd
      exact not_dotted_of_blank hc
    have hstay : dropArguments (c :: b ++ s) = c :: b ++ s := by
      rw [dropArguments.eq_def]
      split
      · next r hr =>
        obtain ⟨rfl, -⟩ := List.cons.inj hr
        exact absurd hc (by decide)
      · rfl
    simp only [ Annotation.text, parentheses, List.nil_append, List.cons_append,
      List.append_assoc, afterAnnotation?]
    rw [← List.cons_append, hread, Option.map_some, hstay]
  · have hread : dotted? (name ++ '(' :: (i ++ ')' :: (space ++ s))) =
        some (name, '(' :: (i ++ ')' :: (space ++ s))) := by
      refine dotted?_append hname fun d r hd => ?_
      obtain ⟨rfl, -⟩ := List.cons.inj hd
      decide
    have hcut : cut? [')'] (i ++ ')' :: (space ++ s)) = some (i, space ++ s) :=
      cut?_char_iff.mpr ⟨harguments i rfl, rfl⟩
    simp only [ Annotation.text, parentheses, List.cons_append, List.append_assoc,
      List.nil_append, afterAnnotation?, hread, Option.map_some, dropArguments, hcut,
      Option.getD_some]

/-! ### Behind annotations -/

/-- What a line declares is read off this: it stands behind annotations and blanks. -/
def bare (line : Text) : Text := trimStart (dropAnnotations line)

lemma trimStart_trimStart (s : Text) : trimStart (trimStart s) = trimStart s :=
  List.dropWhile_idempotent ..

lemma length_trimStart_le (s : Text) : (trimStart s).length ≤ s.length :=
  (List.dropWhile_sublist _).length_le

lemma length_dropArguments_le (s : Text) : (dropArguments s).length ≤ s.length := by
  rw [dropArguments.eq_def]
  split
  · next s =>
    rcases h : cut? [')'] s with _ | ⟨i, r⟩
    · simp
    · obtain ⟨-, rfl⟩ := cut?_char_iff.mp h
      simp only [Option.map_some, Option.getD_some, List.length_cons, List.length_append]
      omega
  · exact le_rfl

lemma length_of_afterAnnotation? {s r : Text} (h : afterAnnotation? s = some r) :
    r.length < s.length := by
  rw [afterAnnotation?.eq_def] at h
  split at h
  · next s =>
    obtain ⟨⟨n, x⟩, hread, rfl⟩ := Option.map_eq_some_iff.mp h
    obtain ⟨-, rfl⟩ := dotted?_eq_some hread
    have := length_dropArguments_le x
    simp only [List.length_cons, List.length_append]
    omega
  · cases h

/-- There are no more annotations than characters. -/
lemma dropAnnotationsIn_eq {s : Text} {n k : ℕ} (hn : s.length ≤ n) (hk : s.length ≤ k) :
    dropAnnotationsIn n s = dropAnnotationsIn k s := by
  induction n generalizing s k with
  | zero =>
    obtain rfl : s = [] := List.length_eq_zero_iff.mp (Nat.le_zero.mp hn)
    cases k <;> rfl
  | succ n ih =>
    rcases h : afterAnnotation? s with _ | r
    · cases k <;> simp [dropAnnotationsIn, h]
    · have hr := length_of_afterAnnotation? h
      have htrim := length_trimStart_le r
      rcases k with _ | k
      · omega
      rw [dropAnnotationsIn, dropAnnotationsIn, h]
      exact ih (by omega) (by omega)

lemma bare_of_none {line : Text} (h : afterAnnotation? (trimStart line) = none) :
    bare line = trimStart line := by
  rw [bare, dropAnnotations, h]

lemma bare_of_some {line r : Text} (h : afterAnnotation? (trimStart line) = some r) :
    bare line = bare r := by
  have htrim := length_trimStart_le r
  rw [bare, dropAnnotations, h]
  dsimp only
  rw [dropAnnotationsIn_eq htrim le_rfl]
  rcases hr : afterAnnotation? (trimStart r) with _ | x
  · rw [bare_of_none hr]
    rcases (trimStart r).length with _ | n
    · exact trimStart_trimStart r
    · rw [dropAnnotationsIn, hr]
      exact trimStart_trimStart r
  · have hx := length_of_afterAnnotation? hr
    have htrim := length_trimStart_le x
    rw [bare, dropAnnotations, hr]
    dsimp only
    obtain ⟨n, hn⟩ : ∃ n, (trimStart r).length = n + 1 := ⟨(trimStart r).length - 1, by omega⟩
    rw [hn, dropAnnotationsIn, hr]
    exact congrArg trimStart (dropAnnotationsIn_eq (by omega) (by omega))

lemma bare_blanks {b : Text} (hb : Blanks b) (s : Text) : bare (b ++ s) = bare s := by
  have htrim : trimStart (b ++ s) = trimStart s := trimStart_append hb
  rcases h : afterAnnotation? (trimStart s) with _ | r
  · rw [bare_of_none h, bare_of_none (htrim ▸ h), htrim]
  · rw [bare_of_some h, bare_of_some (htrim ▸ h)]

/-- Annotations in front change nothing behind them. -/
lemma bare_texts {as : List Annotation} (has : ∀ a ∈ as, a.Legible) (s : Text) :
    bare (texts as ++ s) = bare s := by
  induction as with
  | nil => rfl
  | cons a as ih =>
    obtain ⟨ha, has⟩ := List.forall_mem_cons.mp has
    have hat : trimStart (texts (a :: as) ++ s) = a.text ++ (texts as ++ s) := by
      rw [texts, List.flatMap_cons, List.append_assoc]
      exact trimStart_of_head (by decide)
    have hread : afterAnnotation? (trimStart (texts (a :: as) ++ s)) =
        some (a.space ++ (texts as ++ s)) := by rw [hat, afterAnnotation?_text ha]
    rw [bare_of_some hread, bare_blanks ha.space, ih has]

lemma declaresType_bare (l : Text) :
    declaresType (dropAnnotations l) = declaresType (bare l) := by
  rw [declaresType, declaresType, declaredType?, declaredType?, bare, trimStart_trimStart]

lemma header?_bare (l : Text) : header? (dropAnnotations l) = header? (bare l) := by
  rw [header?, header?, bare, trimStart_trimStart]

lemma member?_congr {l l' : Text} (h : bare l = bare l') (n : Int) :
    member? l n = member? l' n := by
  rw [member?, member?, header?_bare, header?_bare, h]

/-! ### Lines that declare a member -/

/-- A header begins with a name or with type parameters. -/
lemma header?_head {s : Text} {h : Header} (hread : header? s = some h) :
    ∃ c r, trimStart s = c :: r ∧ (isDottedChar c = true ∨ c = '<') := by
  have hmodified := modified_modifiersIn (trimStart s).length (trimStart s)
  rw [← modifiers] at hmodified
  rcases hmodified.head with heq | ⟨c, r, hs, hc⟩
  · simp only [header?, ← heq] at hread
    split at hread
    · next r hr => exact ⟨'<', r, hr, .inr rfl⟩
    · obtain ⟨t, ht, name, parameters, tail, -, hs, -⟩ := typed?_eq_some hread
      obtain ⟨c, r, hr, hc⟩ := text_head t ht tail
      exact ⟨c, r, hs.trans hr, .inl hc⟩
  · exact ⟨c, r, hs, .inl hc⟩

/-- Such a line begins with its header or with an annotation, so it is no comment. -/
lemma code_of_member? {l : Text} {n : Int} {m : Member} (h : member? l n = some m) :
    isCommentOrBlank l = false ∧ trimStart l ≠ [] := by
  obtain ⟨hd, hread, -⟩ := member?_eq_some_iff.mp h
  have hhead : ∃ c r, trimStart l = c :: r ∧ c ≠ '*' ∧ c ≠ '/' := by
    rcases ha : afterAnnotation? (trimStart l) with _ | r
    · rw [header?_bare, bare_of_none ha] at hread
      obtain ⟨c, r, hr, hc⟩ := header?_head hread
      rw [trimStart_trimStart] at hr
      refine ⟨c, r, hr, ?_⟩
      rcases hc with hc | rfl
      · exact ⟨ne_of_class hc (by decide), ne_of_class hc (by decide)⟩
      · decide
    · rw [afterAnnotation?.eq_def] at ha
      split at ha
      · next s hs => exact ⟨'@', s, hs, by decide, by decide⟩
      · cases ha
  obtain ⟨c, r, hr, hstar, hslash⟩ := hhead
  exact ⟨code_of_head hr (not_blank_of_trimStart hr) hstar hslash, by simp [hr]⟩

/-- A line in place of another: it declares the same behind its annotations, it has the same effect
on the depth, and it has a brace if the other one has. -/
structure Replaces (l' l : Text) : Prop where
  bare : bare l' = bare l
  delta : braceDelta l' = braceDelta l
  brace : '{' ∈ l → '{' ∈ l'
  ending : endsWith (trimEnd l') [';'] = endsWith (trimEnd l) [';']

/-- No brace has been seen of the pending member: its body is still to come. -/
def AwaitsBody (s : ScanState) : Prop := s.phase = .inBody ∧ s.opened = false

instance (s : ScanState) : Decidable (AwaitsBody s) := inferInstanceAs (Decidable (_ ∧ _))

variable {l l' : Text} {n : Int} {m : Member} {s : ScanState}

/-- What a line that declares a member does in each phase. -/
lemma step_of_member? (hm : member? l n = some m) : step s l n =
    if s.phase = .inBody then bodyStep s l n
    else if declaresType (dropAnnotations l) then
      ({ s with phase := .seekingMember }, some ⟨.skip, n, none⟩)
    else if s.phase = .seekingUnit then (s, some ⟨.skip, n, none⟩)
    else memberStep s m l n := by
  rw [step, (code_of_member? hm).1, if_neg Bool.false_ne_true, hm]

/-- Behind a line without braces the body is still to come: that was so in front of the line, or the
line declares the member. -/
lemma of_awaitsBody (hm : member? l n = some m) (h : AwaitsBody (step s l n).1) :
    '{' ∉ l ∧ (step s l n).2.bind ScanEvent.completed? = none ∧
      (AwaitsBody s ∨ s.phase = .seekingMember ∧ declaresType (dropAnnotations l) = false) := by
  have hcode := (code_of_member? hm).1
  have hmove := step_move s l n
  revert h hmove
  generalize (step s l n).1 = s', (step s l n).2 = e
  rintro ⟨hp', ho'⟩ hmove
  cases hmove with
  | stays hc hp =>
    obtain ⟨hopened, hfree⟩ := Bool.or_eq_false_iff.mp ho'
    exact ⟨by simpa using hfree, rfl, .inl ⟨hp, hopened⟩⟩
  | opens m' hc hp ht => exact ⟨by simpa using ho', rfl, .inr ⟨hp, ht⟩⟩
  | comment hc =>
    rw [hcode] at hc
    cases hc
  | closes => cases hp'
  | type => cases hp'
  | before hc hp =>
    rw [hp'] at hp
    cases hp
  | other e hc hp =>
    rw [hp'] at hp
    cases hp
  | alone m' hc hp =>
    rw [hp'] at hp
    cases hp

lemma brace_only (h : Replaces l' l) (hne : l'.contains '{' ≠ l.contains '{') :
    '{' ∈ l' ∧ '{' ∉ l := by
  have hfree : '{' ∉ l := fun hmem => hne (by simp [hmem, h.brace hmem])
  refine ⟨?_, hfree⟩
  by_contra hfree'
  exact hne (by simp [hfree, hfree'])

lemma bodyStep_congr (h : Replaces l' l) (hp : s.phase = .inBody)
    (hearly : '{' ∈ l' → ¬ AwaitsBody (bodyStep s l n).1) : bodyStep s l' n = bodyStep s l n := by
  by_cases hl : l'.contains '{' = l.contains '{'
  · rw [bodyStep, bodyStep, hl, h.delta]
  obtain ⟨hmem, hfree⟩ := brace_only h hl
  have hfree : l.contains '{' = false := by simpa using hfree
  have hopened : s.opened = true := by
    by_contra ho
    have ho : s.opened = false := by simpa using ho
    refine hearly hmem ?_
    simp only [bodyStep, ho, hfree, Bool.or_self, Bool.false_and]
    exact ⟨hp, rfl⟩
  rw [bodyStep, bodyStep, hopened, h.delta, Bool.true_or, Bool.true_or]

lemma memberStep_congr (h : Replaces l' l)
    (hearly : '{' ∈ l' → ¬ AwaitsBody (memberStep s m l n).1) :
    memberStep s m l' n = memberStep s m l n := by
  by_cases hl : l'.contains '{' = l.contains '{'
  · rw [memberStep, memberStep, hl, h.delta, h.ending]
  obtain ⟨hmem, hfree⟩ := brace_only h hl
  have hawaits := hearly hmem
  have hle : braceDelta l' ≤ 0 := h.delta ▸ braceDelta_le_zero hfree
  rw [memberStep, memberStep, if_pos (by simpa using hmem), if_pos hle,
    if_neg (by simpa using hfree)]
  rw [memberStep, if_neg (by simpa using hfree)] at hawaits
  split at hawaits
  · next hend => rw [if_pos hend]
  · exact absurd ⟨rfl, rfl⟩ hawaits

/-- The line in place of another one does the same unless its brace comes too early. -/
lemma step_replaces (h : Replaces l' l) (hm : member? l n = some m)
    (hearly : '{' ∈ l' → ¬ AwaitsBody (step s l n).1) : step s l' n = step s l n := by
  have hm' : member? l' n = some m := (member?_congr h.bare n).trans hm
  rw [step_of_member? hm] at hearly
  rw [step_of_member? hm, step_of_member? hm', declaresType_bare l', h.bare, ← declaresType_bare l]
  split
  · next hp =>
    rw [if_pos hp] at hearly
    exact bodyStep_congr h hp hearly
  · next hp =>
    rw [if_neg hp] at hearly
    split
    · rfl
    · next ht =>
      rw [if_neg ht] at hearly
      split
      · rfl
      · next hu =>
        rw [if_neg hu] at hearly
        exact memberStep_congr h hearly

/-- A brace that comes too early: the member whose body is still to come behind the other line is
completed by this one. -/
lemma step_early (h : Replaces l' l) (hm : member? l n = some m) (hs : Good n s) (hmem : '{' ∈ l')
    (hawaits : AwaitsBody (step s l n).1) :
    ∃ m', (step s l' n).2.bind ScanEvent.completed? = some m' := by
  have hm' : member? l' n = some m := (member?_congr h.bare n).trans hm
  obtain ⟨hfree, -, hbefore⟩ := of_awaitsBody hm hawaits
  have hle : braceDelta l' ≤ 0 := h.delta ▸ braceDelta_le_zero hfree
  rw [step_of_member? hm']
  rcases hbefore with ⟨hp, ho⟩ | ⟨hp, ht⟩
  · obtain ⟨m', hpending⟩ := Option.isSome_iff_exists.mp (hs.pending.mp hp)
    have hdepth : ¬ 0 < s.depth := fun h0 => by
      rw [(hs.opened hp).mpr h0] at ho
      cases ho
    have hclose : (s.opened || l'.contains '{') && decide (s.depth + braceDelta l' ≤ 0) := by
      simp only [Bool.and_eq_true, Bool.or_eq_true, List.contains_iff_mem, decide_eq_true_eq]
      exact ⟨.inr hmem, by omega⟩
    rw [if_pos hp, bodyStep, hclose, hpending]
    exact ⟨_, rfl⟩
  · have ht' : declaresType (dropAnnotations l') = false := by
      rw [declaresType_bare, h.bare, ← declaresType_bare, ht]
    have hopens : l'.contains '{' = true := by simpa using hmem
    rw [hp, ht', if_neg (by decide), if_neg (by decide), if_neg (by decide), memberStep,
      if_pos hopens, if_pos hle]
    exact ⟨_, rfl⟩

/-! ### Texts -/

variable {source source' : Text} {above below : List Text}

/-- A text whose line is replaced has the same members just where no brace comes too early. -/
lemma members_replaces (h : Replaces l' l) (hl : lines source = above ++ l :: below)
    (hl' : lines source' = above ++ l' :: below) (hm : (member? l (1 + above.length)).isSome) :
    members source' = members source ↔
      ('{' ∈ l' → ¬ AwaitsBody (run .initial 1 (above ++ [l]))) := by
  obtain ⟨m, hm⟩ := Option.isSome_iff_exists.mp hm
  have hgood : Good (1 + above.length) (run .initial 1 above) := good_run (good_initial 1) above
  have hrun : run .initial 1 (above ++ [l]) =
      (step (run .initial 1 above) l (1 + above.length)).1 := by rw [run_append]; rfl
  have hmembers : members source = membersFrom .initial 1 (above ++ l :: below) := by
    rw [← hl]
    rfl
  have hmembers' : members source' = membersFrom .initial 1 (above ++ l' :: below) := by
    rw [← hl']
    rfl
  rw [hmembers, hmembers', membersFrom_append, membersFrom_append, List.append_cancel_left_eq, hrun]
  generalize run .initial 1 above = s at *
  constructor
  · intro heq hmem hawaits
    obtain ⟨m', hsome⟩ := step_early h hm hgood hmem hawaits
    have hend : m'.endLine = 1 + above.length := endLine_of_move (step_move s l' _) hsome
    rw [membersFrom_cons, membersFrom_cons, (of_awaitsBody hm hawaits).2.1, hsome] at heq
    have hlater :
        m' ∈ membersFrom (step s l (1 + above.length)).1 (1 + above.length + 1) below := by
      rw [Option.toList_none, List.nil_append] at heq
      rw [← heq]
      exact List.mem_cons_self
    have := endLine_bounds hlater
    omega
  · intro hearly
    rw [membersFrom_cons, membersFrom_cons, step_replaces h hm hearly]

lemma endsWith_append {t : Text} (h : t ≠ []) (x : Text) (c : Char) :
    endsWith (x ++ t) [c] = endsWith t [c] := by
  obtain rfl | ⟨u, d, rfl⟩ := List.eq_nil_or_concat t
  · exact absurd rfl h
  · simp only [endsWith, startsWith, List.concat_eq_append, ← List.append_assoc,
      List.reverse_concat, List.reverse_singleton, after?]
    split <;> rfl

lemma trimEnd_append {t : Text} (h : trimStart t ≠ []) (x : Text) :
    trimEnd (x ++ t) = x ++ trimEnd t ∧ trimEnd t ≠ [] := by
  have hne : trimEnd t ≠ [] := by
    intro hnil
    obtain ⟨b, hb, ht⟩ := exists_trimEnd t
    rw [hnil, List.nil_append] at ht
    exact h (ht ▸ trimStart_eq_nil hb)
  refine ⟨?_, hne⟩
  have hdrop : t.reverse.dropWhile isBlank ≠ [] := by simpa [trimEnd] using hne
  rw [trimEnd, List.reverse_append, List.dropWhile_append, if_neg (by simpa using hdrop)]
  simp [trimEnd]

lemma replaces_annotated {as : List Annotation} (has : ∀ a ∈ as, a.Legible)
    (hbalanced : braceDelta (texts as) = 0) {lead indent rest : Text} (hlead : Blanks lead)
    (hindent : Blanks indent) (hrest : trimStart rest ≠ []) :
    Replaces (lead ++ (texts as ++ rest)) (indent ++ rest) where
  bare := by rw [bare_blanks hlead, bare_texts has, bare_blanks hindent]
  delta := by
    rw [braceDelta_append, braceDelta_append, braceDelta_append, braceDelta_blanks hlead,
      braceDelta_blanks hindent, hbalanced, Int.zero_add, Int.zero_add]
  brace := by
    intro hmem
    have hrest := (List.mem_append.mp hmem).resolve_left (blanks_not_mem hindent (by decide))
    simp [hrest]
  ending := by
    obtain ⟨hfirst, hne⟩ := trimEnd_append hrest (lead ++ texts as)
    rw [← List.append_assoc, hfirst, (trimEnd_append hrest indent).1, endsWith_append hne,
      endsWith_append hne]

/-- **Annotations in front of a member.** They leave the members of a text as they are unless they
hold a brace and the body of the member, or of the one around it, is still to come behind the
line. -/
theorem members_annotated_iff {as : List Annotation} (has : ∀ a ∈ as, a.Legible)
    (hbalanced : braceDelta (texts as) = 0) {lead indent rest : Text} (hlead : Blanks lead)
    (hindent : Blanks indent) (hl : lines source = above ++ (indent ++ rest) :: below)
    (hl' : lines source' = above ++ (lead ++ (texts as ++ rest)) :: below)
    (hm : (member? (indent ++ rest) (1 + above.length)).isSome) :
    members source' = members source ↔
      ('{' ∈ texts as → ¬ AwaitsBody (run .initial 1 (above ++ [indent ++ rest]))) := by
  obtain ⟨m, hread⟩ := Option.isSome_iff_exists.mp hm
  have hrest : trimStart rest ≠ [] := by
    rw [← trimStart_append hindent]
    exact (code_of_member? hread).2
  rw [members_replaces (replaces_annotated has hbalanced hlead hindent hrest) hl hl' hm]
  constructor
  · exact fun h hmem => h (by simp [hmem])
  · intro h hmem hawaits
    have hfree : '{' ∉ indent ++ rest := by
      rw [run_append] at hawaits
      exact (of_awaitsBody hread hawaits).1
    refine h ?_ hawaits
    simp only [List.mem_append, not_or] at hmem hfree
    exact (hmem.resolve_left (blanks_not_mem hlead (by decide))).resolve_right hfree.2

/-- Two annotations, one of them with braces, in front of a method whose body begins on the same
line. -/
theorem members_annotated_same :
    let as : List Annotation := [⟨"Override".toList, none, [' ']⟩,
      ⟨"SuppressWarnings".toList, some "\x7b\"a\", \"b\"\x7d".toList, [' ']⟩]
    let source := "class A \x7b\n  int f() \x7b\n  \x7d\n\x7d".toList
    let source' := "class A \x7b\n  @Override @SuppressWarnings(\x7b\"a\", \"b\"\x7d) ".toList ++
      "int f() \x7b\n  \x7d\n\x7d".toList
    (∀ a ∈ as, a.Legible) ∧ members source' = members source ∧
      (members source).map (fun m => (String.ofList m.name, m.startLine, m.endLine)) =
        [("f", 2, 3)] := by
  intro as source source'
  have has : ∀ a ∈ as, a.Legible :=
    List.forall_mem_cons.mpr ⟨⟨by decide, by decide, by decide⟩,
      List.forall_mem_singleton.mpr ⟨by decide, by decide, by decide⟩⟩
  refine ⟨has, ?_, by decide +kernel⟩
  have hl : lines source = ["class A \x7b".toList] ++ ([' ', ' '] ++ "int f() \x7b".toList) ::
      ["  \x7d".toList, "\x7d".toList] := by decide +kernel
  have hl' : lines source' = ["class A \x7b".toList] ++
      ([' ', ' '] ++ (texts as ++ "int f() \x7b".toList)) :: ["  \x7d".toList, "\x7d".toList] := by
    decide +kernel
  exact (members_annotated_iff has (by decide) (by decide) (by decide) hl hl' (by decide)).mpr
    fun _ => by decide

/-- A brace in an annotation ends a method whose body is still to come. -/
theorem members_annotated_early :
    let source := "class A \x7b\n  void f()\n  \x7b\n  \x7d\n\x7d".toList
    let source' := "class A \x7b\n  @SuppressWarnings(\x7b\"a\"\x7d) void f()\n  ".toList ++
      "\x7b\n  \x7d\n\x7d".toList
    (members source).map (fun m => (m.startLine, m.endLine)) = [(2, 4)] ∧
      (members source').map (fun m => (m.startLine, m.endLine)) = [(2, 2)] := by
  decide +kernel

end TestWeaver.Proofs.LeadingAnnotations
