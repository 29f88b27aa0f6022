import TestWeaver.Dependency.Targets
import TestWeaver.Proofs.ImportStatement

/-!
The two readings of an import statement.

A directive has a name that is read as far as it goes, and a dependency one that is read only as
far as it must. The grammar leaves them no choice. A name holds neither blanks nor stars, so a star
and the dot in front of it are the wildcard, and the statement ends at its first semicolon. Both
readings take the same statements out of a text, and what a dependency imports from can be told from
the directive.
-/

namespace TestWeaver.Proofs.ImportTargets

open Source Text ImportStatement

def star : Text := ['.', '*']

/-- A name without the star behind its last dot. -/
def withoutStar (n : Text) : Text := if endsWith n star then n.take (n.length - 2) else n

/-- What a directive imports from: the package of a star, the type that declares a static member,
and the name itself of all others. -/
def importedFrom (d : Text) : Text :=
  match after? "static ".toList d with
  | none => withoutStar d
  | some n =>
    if endsWith n star then withoutStar n else ((cutLast? '.' n).map Prod.fst).getD n

/-! ### Names with and without a star -/

variable {n b x t : Text}

lemma endsWith_star (n : Text) : endsWith (n ++ star) star = true :=
  endsWith_iff.mpr (List.suffix_append n star)

lemma not_endsWith_star (hn : Dotted n) : endsWith n star = false := by
  by_contra h
  have hmem : '*' ∈ n := (endsWith_iff.mp (by simpa using h)).subset (by decide)
  exact absurd (hn.2 _ hmem) (by decide)

lemma withoutStar_append (n : Text) : withoutStar (n ++ star) = n := by
  rw [withoutStar, if_pos (endsWith_star n)]
  simp [star]

lemma withoutStar_of_dotted (hn : Dotted n) : withoutStar n = n := by
  rw [withoutStar, not_endsWith_star hn, if_neg Bool.false_ne_true]

/-- Names hold no blanks, so they are not taken for static ones. -/
lemma importedFrom_target (hn : Target n) : importedFrom n = withoutStar n := by
  have hnone : after? "static ".toList n = none := by
    by_contra h
    obtain ⟨r, hr⟩ := Option.ne_none_iff_exists'.mp h
    have hblank : ' ' ∈ n := by
      rw [eq_append_of_after? hr]
      exact List.mem_append_left _ (by decide)
    exact absurd (hn.not_blank _ hblank) (by decide)
  rw [importedFrom, hnone]

lemma importedFrom_static (n : Text) : importedFrom ("static ".toList ++ n) =
    if endsWith n star then withoutStar n else ((cutLast? '.' n).map Prod.fst).getD n := by
  rw [importedFrom, after?_append]

/-! ### The end of a statement -/

/-- Inside a name no statement ends. -/
lemma afterStar?_inside (hn : Dotted n) (hx : x.head? ≠ some '*') : afterStar? (n ++ x) = none := by
  obtain ⟨c, m, rfl⟩ := List.exists_cons_of_ne_nil hn.1
  have hc : isDottedChar c = true := hn.2 c (List.mem_cons_self ..)
  have hsemicolon : ∀ s, afterSemicolon? (c :: s) = none := by
    intro s
    rw [afterSemicolon?, trimStart_of_head (not_blank_of_dottedChar hc)]
    split
    · next r hr =>
      obtain ⟨rfl, -⟩ := List.cons.inj hr
      exact absurd hc (by decide)
    · rfl
  rw [afterStar?.eq_def]
  split
  · next s hs =>
    -- behind a dot comes the rest of the name, or what stands behind it
    exfalso
    rcases m with _ | ⟨d, m⟩
    · exact hx (by rw [show x = '*' :: s from (List.cons.inj hs).2]; rfl)
    · obtain ⟨rfl, -⟩ := List.cons.inj (List.cons.inj hs).2
      exact absurd (hn.2 '*' (by simp)) (by decide)
  · next h => rw [List.cons_append, hsemicolon, Option.map_none]

/-- A name is read up to the first place at which the statement can end. -/
lemma dependencyName?_append (hn : Dotted n) (hx : x.head? ≠ some '*') {wildcard : Bool}
    (hend : afterStar? x = some (wildcard, t)) :
    dependencyName? (n ++ x) = some (n, wildcard, t) := by
  obtain ⟨hne, hchars⟩ := hn
  induction n with
  | nil => exact absurd rfl hne
  | cons c n ih =>
    obtain ⟨hc, hrest⟩ := List.forall_mem_cons.mp hchars
    rw [List.cons_append, dependencyName?, if_pos hc]
    by_cases hnil : n = []
    · rw [hnil, List.nil_append, hend]
    · rw [afterStar?_inside ⟨hnil, hrest⟩ hx, ih hnil hrest]
      rfl

lemma afterStar?_semicolon (hb : Blanks b) (t : Text) :
    afterStar? (b ++ ';' :: t) = some (false, t) := by
  rw [afterStar?.eq_def]
  split
  · next s hs =>
    exact absurd (semicolon_head hb t '.' _ hs) (by decide)
  · rw [afterSemicolon?_append hb, Option.map_some]

lemma afterStar?_star (hb : Blanks b) (t : Text) :
    afterStar? (star ++ (b ++ ';' :: t)) = some (true, t) := by
  simp only [star, List.cons_append, List.nil_append, afterStar?, afterSemicolon?_append hb,
    Option.map_some, Option.some_or]

/-- Where a statement can end there is a semicolon, perhaps behind a star. -/
lemma afterStar?_eq_some {s : Text} {wildcard : Bool} (h : afterStar? s = some (wildcard, t)) :
    ∃ b, Blanks b ∧ s = (if wildcard then star else []) ++ (b ++ ';' :: t) := by
  rw [afterStar?.eq_def] at h
  split at h
  · next s' =>
    rcases Option.or_eq_some_iff.mp h with h | ⟨-, h⟩
    · obtain ⟨t', ht, heq⟩ := Option.map_eq_some_iff.mp h
      obtain ⟨rfl, rfl⟩ := Prod.mk.inj heq
      obtain ⟨b, hb, rfl⟩ := afterSemicolon?_eq_some ht
      exact ⟨b, hb, rfl⟩
    · have hdot : afterSemicolon? ('.' :: '*' :: s') = none := rfl
      rw [hdot] at h
      cases h
  · obtain ⟨t', ht, heq⟩ := Option.map_eq_some_iff.mp h
    obtain ⟨rfl, rfl⟩ := Prod.mk.inj heq
    obtain ⟨b, hb, rfl⟩ := afterSemicolon?_eq_some ht
    exact ⟨b, hb, rfl⟩

/-! ### The same statements -/

/-- A name is taken apart as the grammar says, and reduced to what its directive tells. -/
lemma dependencyFrom?_append (hn : Target n) (hb : Blanks b) (t : Text) (isStatic : Bool) :
    ∃ d, dependencyFrom? isStatic (n ++ (b ++ ';' :: t)) = some (d, t) ∧
      d.reduced = importedFrom (if isStatic then "static ".toList ++ n else n) := by
  cases hn with
  | name h =>
    have hhead : (b ++ ';' :: t).head? ≠ some '*' := by
      intro hstar
      obtain ⟨r, hr⟩ := List.head?_eq_some_iff.mp hstar
      rcases b with _ | ⟨c, b⟩
      · exact absurd (List.cons.inj hr).1 (by decide)
      · obtain ⟨rfl, -⟩ := List.cons.inj hr
        exact absurd (hb '*' (List.mem_cons_self ..)) (by decide)
    refine ⟨⟨isStatic, n, false⟩, ?_, ?_⟩
    · rw [dependencyFrom?, dependencyName?_append h hhead (afterStar?_semicolon hb t),
        Option.map_some]
    · cases isStatic with
      | false =>
        rw [if_neg Bool.false_ne_true, importedFrom_target (.name h), withoutStar_of_dotted h]
        rfl
      | true =>
        rw [if_pos rfl, importedFrom_static, not_endsWith_star h]
        rfl
  | @all n h =>
    refine ⟨⟨isStatic, n, true⟩, ?_, ?_⟩
    · have hsplit : n ++ ['.', '*'] ++ (b ++ ';' :: t) = n ++ (star ++ (b ++ ';' :: t)) := by
        simp [star]
      rw [hsplit, dependencyFrom?, dependencyName?_append h (by simp [star]) (afterStar?_star hb t),
        Option.map_some]
    · cases isStatic with
      | false => exact ((importedFrom_target (.all h)).trans (withoutStar_append n)).symm
      | true =>
        rw [if_pos rfl, importedFrom_static]
        exact ((if_pos (endsWith_star n)).trans (withoutStar_append n)).symm

lemma dependency?_append {u d : Text} (h : Statement u d) (t : Text) :
    ∃ e, dependency? (u ++ t) = some (e, t) ∧ e.reduced = importedFrom d := by
  cases h with
  | @mk b₁ b₂ b₃ w d h₁ h₂ hne hw h₃ =>
    simp only [dependency?, afterKeyword?_import h₁ h₂ hne hw, Option.bind_eq_bind,
      Option.bind_some]
    cases hw with
    | plain h =>
      obtain ⟨e, he, hreduced⟩ := dependencyFrom?_append h h₃ t false
      have hsemicolon : dependencyFrom? true (';' :: t) = none := rfl
      rw [static_none hsemicolon h h₃, he]
      exact ⟨e, rfl, hreduced⟩
    | @static b n hb hbne h =>
      obtain ⟨e, he, hreduced⟩ := dependencyFrom?_append h h₃ t true
      rw [afterStatic?_append hb hbne h, Option.bind_some, he]
      exact ⟨e, rfl, hreduced⟩

lemma dependencyName?_eq_some {s : Text} {wildcard : Bool}
    (h : dependencyName? s = some (n, wildcard, t)) :
    ∃ m b, Target m ∧ Blanks b ∧ s = m ++ (b ++ ';' :: t) := by
  have hname : Dotted n ∧ ∃ b, Blanks b ∧
      s = n ++ ((if wildcard then star else []) ++ (b ++ ';' :: t)) := by
    induction s generalizing n with
    | nil => cases h
    | cons c s ih =>
      rw [dependencyName?] at h
      split at h
      · next hc =>
        split at h
        · next wildcard' t' hend =>
          simp only [Option.some.injEq, Prod.mk.injEq] at h
          obtain ⟨rfl, rfl, rfl⟩ := h
          obtain ⟨b, hb, rfl⟩ := afterStar?_eq_some hend
          exact ⟨⟨by simp, by simpa using hc⟩, b, hb, rfl⟩
        · obtain ⟨⟨m, wildcard', t'⟩, hrest, heq⟩ := Option.map_eq_some_iff.mp h
          simp only [Prod.mk.injEq] at heq
          obtain ⟨rfl, rfl, rfl⟩ := heq
          obtain ⟨hm, b, hb, rfl⟩ := ih hrest
          exact ⟨⟨by simp, List.forall_mem_cons.mpr ⟨hc, hm.2⟩⟩, b, hb, rfl⟩
      · cases h
  obtain ⟨hn, b, hb, rfl⟩ := hname
  cases wildcard with
  | false => exact ⟨n, b, .name hn, hb, rfl⟩
  | true => exact ⟨n ++ star, b, .all hn, hb, by simp⟩

/-- What is taken apart is a statement of the grammar. -/
lemma dependency?_eq_some {s : Text} {e : Dependency} (h : dependency? s = some (e, t)) :
    ∃ u d, Statement u d ∧ s = u ++ t := by
  obtain ⟨x, hx, hread⟩ := Option.bind_eq_some_iff.mp h
  obtain ⟨b₁, b₂, h₁, h₂, hne, rfl⟩ := afterKeyword?_eq_some hx
  have hfrom : ∀ {isStatic : Bool} {y : Text}, dependencyFrom? isStatic y = some (e, t) →
      ∃ m b, Target m ∧ Blanks b ∧ y = m ++ (b ++ ';' :: t) := by
    intro isStatic y hy
    obtain ⟨⟨m, wildcard, t'⟩, hname, heq⟩ := Option.map_eq_some_iff.mp hy
    obtain ⟨-, rfl⟩ := Prod.mk.inj heq
    exact dependencyName?_eq_some hname
  rcases Option.or_eq_some_iff.mp hread with hs | ⟨-, hp⟩
  · obtain ⟨z, hstatic, hz⟩ := Option.bind_eq_some_iff.mp hs
    obtain ⟨y, hy, hblanks⟩ := Option.bind_eq_some_iff.mp hstatic
    obtain rfl := eq_append_of_after? hy
    obtain ⟨b, hb, hbne, rfl⟩ := afterBlanks?_eq_some hblanks
    obtain ⟨n, b₃, hn, h₃, rfl⟩ := hfrom hz
    exact ⟨_, _, .mk h₁ h₂ hne (.static hb hbne hn) h₃, by simp⟩
  · obtain ⟨n, b₃, hn, h₃, rfl⟩ := hfrom hp
    exact ⟨_, _, .mk h₁ h₂ hne (.plain hn) h₃, by simp⟩

/-- Both readings take the same statement off a text, or none. -/
lemma dependency?_map (s : Text) :
    (dependency? s).map (fun p => (p.1.reduced, p.2)) =
      (directive? s).map fun p => (importedFrom p.1, p.2) := by
  rcases hd : directive? s with _ | ⟨d, t⟩
  · rcases he : dependency? s with _ | ⟨e, t⟩
    · rfl
    · obtain ⟨u, d, hu, rfl⟩ := dependency?_eq_some he
      rw [directive?_append hu] at hd
      cases hd
  · obtain ⟨u, hu, rfl⟩ := directive?_eq_some_iff.mp hd
    obtain ⟨e, he, hreduced⟩ := dependency?_append hu t
    rw [he, Option.map_some, Option.map_some, hreduced]

/-- Readers that take the same statements off every text find the same statements in it. -/
lemma statementsFrom_map {α β γ : Type} {f : Text → Option (α × Text)}
    {g : Text → Option (β × Text)} {F : α → γ} {G : β → γ}
    (h : ∀ s, (f s).map (fun p => (F p.1, p.2)) = (g s).map fun p => (G p.1, p.2))
    (busy : ℕ) (atRow : Bool) (s : Text) :
    (statementsFrom f busy atRow s).map F = (statementsFrom g busy atRow s).map G := by
  induction s generalizing busy atRow with
  | nil => rfl
  | cons c s ih =>
    cases busy with
    | succ k => exact ih k _
    | zero =>
      cases atRow with
      | false => exact ih 0 _
      | true =>
        have hread := h (c :: s)
        rw [statementsFrom, statementsFrom, if_pos rfl, if_pos rfl]
        rcases hf : f (c :: s) with _ | ⟨a, r⟩ <;> rcases hg : g (c :: s) with _ | ⟨a', r'⟩ <;>
          rw [hf, hg] at hread
        · exact ih 0 _
        · cases hread
        · cases hread
        · obtain ⟨hvalue, rfl⟩ := Prod.mk.inj (Option.some.inj hread)
          simp only [List.map_cons, ih]
          exact congrArg (· :: _) hvalue

/-- **What a source imports from** can be told from its directives: each is reduced to what it
imports from, those that start with the name of a library are left out, and of equal ones the first
stays. -/
theorem targets_directives (source : Text) (libraries : List Text) :
    Dependency.targets source libraries =
      Merge.distinct (((directives source).map importedFrom).filter
        fun t => !libraries.any (startsWith t)) := by
  have hstatements : (dependencies source).map Dependency.reduced =
      (directives source).map importedFrom := statementsFrom_map dependency?_map 0 true source
  rw [Dependency.targets, hstatements]

/-- `static` can be a name, dots can stand anywhere in one, and blanks between any two parts. -/
example : (directives "import static;\nimport static\n  .a.b ;\nimport a..*;".toList).map
    (fun d => (String.ofList d, String.ofList (importedFrom d))) =
      [("static", "static"), ("static .a.b", ".a"), ("a..*", "a.")] := by
  decide +kernel

end TestWeaver.Proofs.ImportTargets
