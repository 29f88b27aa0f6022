import TestWeaver.Proofs.ClosingRow
import TestWeaver.Proofs.Splice

/-!
The braces of a merged text.

New imports have no braces, so a merge adds the braces of the methods, or of the whole fragment
where no type closes. The methods of a class are its text from the first test annotation to the
last brace: what is open above that annotation is left out of them. So a merge keeps braces
balanced just where one brace is open there, the one that opens the class.
-/

namespace TestWeaver.Proofs.MergedBraces

open Merge Source Text ImportStatement RowText Splice ClosingRow

/-! ### Braces -/

/-- As many opening as closing braces. -/
def Balanced (s : Text) : Prop := s.count '{' = s.count '}'

instance : DecidablePred Balanced := fun _ => inferInstanceAs (Decidable (_ = _))

lemma balanced_iff {s : Text} : Balanced s ↔ braceDelta s = 0 := by
  rw [Balanced, braceDelta]
  omega

@[simp] lemma braceDelta_nil : braceDelta [] = 0 := rfl

@[simp] lemma braceDelta_append (s t : Text) :
    braceDelta (s ++ t) = braceDelta s + braceDelta t := by
  simp only [braceDelta, List.count_append]
  omega

@[simp] lemma braceDelta_open (s : Text) : braceDelta ('{' :: s) = braceDelta s + 1 := by
  simp only [braceDelta, List.count_cons]
  simp
  omega

@[simp] lemma braceDelta_close (s : Text) : braceDelta ('}' :: s) = braceDelta s - 1 := by
  simp only [braceDelta, List.count_cons]
  simp
  omega

lemma braceDelta_of_free {s : Text} (hopen : '{' ∉ s) (hclose : '}' ∉ s) :
    braceDelta s = 0 := by
  rw [braceDelta, List.count_eq_zero.mpr hopen, List.count_eq_zero.mpr hclose]
  rfl

lemma braceDelta_blanks {b : Text} (h : Blanks b) : braceDelta b = 0 :=
  braceDelta_of_free (fun hb => absurd (h _ hb) (by decide))
    (fun hb => absurd (h _ hb) (by decide))

/-! ### The rows that a merge adds -/

lemma braceDelta_importRow {d : Text} (h : Core d d) : braceDelta (importRow d) = 0 := by
  have hkey : braceDelta "import ".toList = 0 := by decide
  have hend : braceDelta [';'] = 0 := by decide
  have hcore : braceDelta d = 0 :=
    braceDelta_of_free (fun hd => absurd (h.chars _ hd) (by decide))
      (fun hd => absurd (h.chars _ hd) (by decide))
  unfold importRow
  rw [braceDelta_append, braceDelta_append, hkey, hcore, hend]
  rfl

lemma braceSum_importBlock (existing fragment : Text) :
    braceSum (importBlock existing fragment) = 0 := by
  have hrows : ∀ ds : List Text, (∀ d ∈ ds, Core d d) → braceSum (ds.map importRow) = 0 := by
    intro ds h
    induction ds with
    | nil => rfl
    | cons d ds ih =>
      obtain ⟨hd, hds⟩ := List.forall_mem_cons.mp h
      rw [List.map_cons, braceSum_cons, braceDelta_importRow hd, ih hds, Int.add_zero]
  rw [importBlock, braceSum_append, hrows _ fun d => core_of_mem_missing]
  split <;> rfl

lemma braceSum_methodBlock (fragment : Text) :
    braceSum (methodBlock fragment) = braceDelta (fragmentMembers fragment) := by
  have hmarker : braceDelta marker = 0 := by decide
  rw [methodBlock, braceSum_cons, braceSum_cons, braceSum_rows, hmarker, braceDelta_nil]
  omega

lemma braceSum_apply (i : Insertion) (rs : List Text) :
    braceSum (i.apply rs) = braceSum rs + braceSum i.added := by
  have hrs : braceSum rs = braceSum (rs.take i.position) + braceSum (rs.drop i.position) := by
    rw [← braceSum_append, List.take_append_drop]
  rw [Insertion.apply, braceSum_append, braceSum_append, hrs]
  omega

lemma braceDelta_mergeImports (existing fragment : Text) :
    braceDelta (mergeImports existing fragment) = braceDelta existing := by
  rcases hi : importInsertion? existing fragment with _ | i
  · rw [mergeImports, hi]
  · have hadded : braceSum i.added = 0 := by
      rw [importInsertion?_eq_some hi]
      exact braceSum_importBlock existing fragment
    rw [← braceSum_rows, rows_mergeImports hi, braceSum_apply, hadded,
      braceSum_rows, Int.add_zero]

lemma braceDelta_mergeFragment (existing fragment : Text) :
    braceDelta (mergeFragment existing fragment) = braceDelta existing +
      if closingRow? existing = none then braceDelta fragment
      else braceDelta (fragmentMembers fragment) := by
  rcases hc : closingRow? existing with _ | c
  · have hbreak : braceDelta ['\n', '\n'] = 0 := by decide
    have hmerge : mergeFragment existing fragment = existing ++ (['\n', '\n'] ++ fragment) := by
      rw [mergeFragment, fragmentInsertion?_eq, hc]
      rfl
    rw [hmerge, braceDelta_append, braceDelta_append, hbreak, if_pos rfl, Int.zero_add]
  · have hrows : rows (mergeFragment existing fragment) =
        Insertion.apply ⟨c, methodBlock fragment⟩ (rows existing) := by
      rw [rows_mergeFragment hc, Insertion.apply, List.append_assoc]
    rw [← braceSum_rows, hrows, braceSum_apply, braceSum_methodBlock,
      braceSum_rows, if_neg (Option.some_ne_none c)]

/-! ### The first occurrence of a mark -/

/-- Behind the mark there is room for characters that it does not have. -/
lemma after?_of_append {mark s t r : Text} (hfree : ∀ c ∈ t, c ∉ mark)
    (h : after? mark (s ++ t) = some r) : ∃ z, after? mark s = some z ∧ r = z ++ t := by
  rcases List.append_eq_append_iff.mp (eq_append_of_after? h) with ⟨z, hmark, ht⟩ | ⟨z, hs, hr⟩
  · have hz : z = [] := by
      refine List.eq_nil_iff_forall_not_mem.mpr fun c hc => ?_
      exact hfree c (by simp [ht, hc]) (by simp [hmark, hc])
    subst hz
    refine ⟨[], ?_, by simpa using ht.symm⟩
    simpa [hmark] using after?_append s []
  · exact ⟨z, by rw [hs, after?_append], hr⟩

/-- Characters that the mark does not have can be left out at the end. -/
lemma cut?_of_append {mark s t a b : Text} (hne : mark ≠ []) (hfree : ∀ c ∈ t, c ∉ mark)
    (h : cut? mark (s ++ t) = some (a, b)) : ∃ z, cut? mark s = some (a, z) := by
  induction s generalizing a with
  | nil =>
    obtain ⟨c, m, rfl⟩ := List.exists_cons_of_ne_nil hne
    have ht : t = a ++ (c :: m ++ b) := cut?_eq_some h
    exact absurd (List.mem_cons_self ..) (hfree c (by simp [ht]))
  | cons c s ih =>
    rw [List.cons_append, cut?] at h
    rw [cut?]
    split at h
    · next r hr =>
      obtain ⟨rfl, rfl⟩ := Prod.mk.inj (Option.some.inj h)
      obtain ⟨z, hz, -⟩ := after?_of_append (s := c :: s) hfree hr
      exact ⟨z, by rw [hz]⟩
    · next hnone =>
      obtain ⟨⟨a', b'⟩, hcut, heq⟩ := Option.map_eq_some_iff.mp h
      obtain ⟨rfl, rfl⟩ := Prod.mk.inj heq
      obtain ⟨z, hz⟩ := ih hcut
      have hrest : after? mark (c :: s) = none := by
        by_contra hsome
        obtain ⟨r, hr⟩ := Option.ne_none_iff_exists'.mp hsome
        have hread : after? mark (c :: s ++ t) = some (r ++ t) := by
          rw [eq_append_of_after? hr, List.append_assoc, after?_append]
        rw [List.cons_append, hnone] at hread
        cases hread
      exact ⟨z, by rw [hrest, hz]; rfl⟩

/-! ### The methods of a class -/

/-- The mark that the methods of a fragment start at. -/
abbrev testMark : Text := "@Test".toList

lemma fromTest?_of_startsWith {s : Text}
    (h : startsWith (s.dropWhile isIndent) testMark = true) : fromTest? s = some s := by
  cases s with
  | nil => cases h
  | cons c s => rw [fromTest?, if_pos h]

/-- The methods start at the first test annotation, its indentation included. -/
lemma fromTest?_of_cut {s a b : Text} (h : cut? testMark s = some (a, b)) :
    ∃ p indent, a = p ++ indent ∧ (∀ c ∈ indent, isIndent c = true) ∧
      fromTest? s = some (indent ++ (testMark ++ b)) := by
  induction s generalizing a with
  | nil => cases h
  | cons c s ih =>
    rw [cut?] at h
    split at h
    · next r hr =>
      obtain ⟨rfl, rfl⟩ := Prod.mk.inj (Option.some.inj h)
      refine ⟨[], [], rfl, by simp, ?_⟩
      have hdrop : (testMark ++ r).dropWhile isIndent = testMark ++ r := rfl
      rw [eq_append_of_after? hr, List.nil_append]
      exact fromTest?_of_startsWith (by rw [hdrop, startsWith, after?_append]; rfl)
    · next hnone =>
      obtain ⟨⟨a', b'⟩, hcut, heq⟩ := Option.map_eq_some_iff.mp h
      obtain ⟨rfl, rfl⟩ := Prod.mk.inj heq
      obtain ⟨p, indent, rfl, hindent, hfrom⟩ := ih hcut
      by_cases hc : isIndent c = true
      · by_cases hstart : startsWith (s.dropWhile isIndent) testMark = true
        · -- only indentation stands in front of the annotation, the new character too
          have hs : s = indent ++ (testMark ++ b') := by
            rw [fromTest?_of_startsWith hstart] at hfrom
            exact Option.some.inj hfrom
          have hp : p = [] := by
            have hlen := congrArg List.length (hs.symm.trans (cut?_eq_some hcut))
            simp only [List.length_append] at hlen
            exact List.length_eq_zero_iff.mp (by omega)
          refine ⟨[], c :: indent, by rw [hp]; rfl, List.forall_mem_cons.mpr ⟨hc, hindent⟩, ?_⟩
          have hdrop : (c :: s).dropWhile isIndent = s.dropWhile isIndent := by
            rw [List.dropWhile_cons_of_pos hc]
          rw [fromTest?_of_startsWith (by rw [hdrop]; exact hstart), hs]
          rfl
        · refine ⟨c :: p, indent, rfl, hindent, ?_⟩
          rw [fromTest?, List.dropWhile_cons_of_pos hc, if_neg hstart, hfrom]
      · have hstart : ¬ startsWith (c :: s) testMark = true := by
          rw [startsWith, hnone]
          simp
        refine ⟨c :: p, indent, rfl, hindent, ?_⟩
        rw [fromTest?, List.dropWhile_cons_of_neg hc, if_neg hstart, hfrom]

lemma exists_trimEnd (s : Text) : ∃ b, Blanks b ∧ s = trimEnd s ++ b := by
  obtain ⟨b, hb, hs⟩ := exists_blanks s.reverse
  refine ⟨b.reverse, fun c hc => hb c (List.mem_reverse.mp hc), ?_⟩
  have := congrArg List.reverse hs
  rwa [List.reverse_reverse, List.reverse_append] at this

lemma beforeLastBrace?_append (a : Text) {b : Text} (hb : Blanks b) :
    beforeLastBrace? (a ++ '}' :: b) = some (trimEnd a) := by
  have hdrop : (a ++ '}' :: b).reverse.dropWhile isBlank = '}' :: a.reverse := by
    rw [List.reverse_append, List.reverse_cons, List.append_assoc, List.dropWhile_append_of_pos
      fun c hc => hb c (List.mem_reverse.mp hc)]
    rfl
  simp only [beforeLastBrace?, hdrop, List.reverse_reverse]

/-- Blanks and closing braces, as they stand behind the methods of a class. -/
def Closers (u : Text) : Prop := ∀ c ∈ u, isBlank c = true ∨ c = '}'

lemma closers_append {a b : Text} (ha : Blanks a) (hb : Blanks b) : Closers (a ++ '}' :: b) := by
  intro c hc
  rw [List.mem_append, List.mem_cons] at hc
  rcases hc with hc | rfl | hc
  · exact .inl (ha c hc)
  · exact .inr rfl
  · exact .inl (hb c hc)

lemma closers_not_mem {u : Text} (hu : Closers u) {c : Char} (hb : isBlank c = false)
    (hc : c ≠ '}') : c ∉ u := by
  intro hmem
  rcases hu c hmem with h | h
  · rw [h] at hb
    cases hb
  · exact hc h

lemma closers_not_mem_mark {u : Text} (hu : Closers u) : ∀ c ∈ u, c ∉ testMark := by
  have hmark : (testMark.all fun c => !isBlank c && c != '}') = true := by decide
  intro c hc hm
  obtain ⟨hblank, hbrace⟩ : isBlank c = false ∧ c ≠ '}' := by
    simpa using List.all_eq_true.mp hmark c hm
  exact closers_not_mem hu hblank hbrace hc

lemma beforeLastBrace?_eq_some {s t : Text} (h : beforeLastBrace? s = some t) :
    ∃ u, Closers u ∧ s = t ++ u := by
  obtain ⟨b, hb, hs⟩ := exists_blanks s.reverse
  rw [beforeLastBrace?, ← trimStart] at h
  split at h
  · next r hr =>
    obtain rfl := Option.some.inj h
    obtain ⟨e, he, hend⟩ := exists_trimEnd r.reverse
    refine ⟨e ++ '}' :: b.reverse, closers_append he fun c hc => hb c (by simpa using hc), ?_⟩
    rw [hr] at hs
    have hs := congrArg List.reverse hs
    rw [List.reverse_reverse, List.reverse_append, List.reverse_cons, List.append_assoc,
      List.singleton_append] at hs
    rw [← List.append_assoc, ← hend]
    exact hs
  · cases h

lemma suffix_of_fromTest? {s t : Text} (h : fromTest? s = some t) : t <:+ s := by
  induction s with
  | nil => cases h
  | cons c s ih =>
    rw [fromTest?] at h
    split at h
    · obtain rfl := Option.some.inj h
      exact List.suffix_rfl
    · exact (ih h).trans (List.suffix_cons c s)

/-- The methods are a part of the fragment. -/
lemma fragmentMembers_infix (fragment : Text) : fragmentMembers fragment <:+: fragment := by
  rcases ht : (beforeLastBrace? fragment).bind fromTest? with _ | t
  · rw [fragmentMembers, ht]
    exact List.infix_rfl
  · rw [fragmentMembers, ht, Option.getD_some]
    obtain ⟨s, hs, hfrom⟩ := Option.bind_eq_some_iff.mp ht
    obtain ⟨u, -, rfl⟩ := beforeLastBrace?_eq_some hs
    exact (suffix_of_fromTest? hfrom).isInfix.trans (List.prefix_append s u).isInfix

/-- The text in front of the first test annotation. -/
def beforeTest (s : Text) : Text := ((cut? testMark s).map Prod.fst).getD s

/-- A generated class: what stands in front of its body, the body, which holds a test annotation,
and blanks behind it. -/
structure TestClass where
  front : Text
  body : Text
  back : Text
  front_balanced : Balanced front
  body_balanced : Balanced body
  tested : includes testMark body = true
  back_blank : Blanks back

namespace TestClass

def text (t : TestClass) : Text := t.front ++ '{' :: (t.body ++ '}' :: t.back)

lemma braceDelta_text (t : TestClass) : braceDelta t.text = 0 := by
  have hfront := balanced_iff.mp t.front_balanced
  have hbody := balanced_iff.mp t.body_balanced
  have hback := braceDelta_blanks t.back_blank
  simp only [text, braceDelta_append, braceDelta_open, braceDelta_close]
  omega

/-- The text up to the brace that closes the class. -/
lemma braceDelta_inside (t : TestClass) : braceDelta (trimEnd (t.front ++ '{' :: t.body)) = 1 := by
  obtain ⟨b, hb, hinside⟩ := exists_trimEnd (t.front ++ '{' :: t.body)
  have hsum := congrArg braceDelta hinside
  have hblank := braceDelta_blanks hb
  have hfront := balanced_iff.mp t.front_balanced
  have hbody := balanced_iff.mp t.body_balanced
  rw [braceDelta_append, braceDelta_append, braceDelta_open] at hsum
  omega

/-- The first test annotation stands inside the class, and no text behind it matters. -/
lemma cut?_inside (t : TestClass) :
    ∃ z, cut? testMark (trimEnd (t.front ++ '{' :: t.body)) = some (beforeTest t.text, z) := by
  obtain ⟨⟨x, y⟩, hxy⟩ := Option.isSome_iff_exists.mp t.tested
  have htext : t.text = (t.front ++ '{' :: x) ++
      (testMark ++ (y ++ '}' :: t.back)) := by
    rw [text, cut?_eq_some hxy]
    simp
  obtain ⟨⟨p, q⟩, hcut⟩ := exists_cut? testMark (t.front ++ '{' :: x) (y ++ '}' :: t.back)
  rw [← htext] at hcut
  obtain ⟨b, hb, hinside⟩ := exists_trimEnd (t.front ++ '{' :: t.body)
  have hrest : t.text = trimEnd (t.front ++ '{' :: t.body) ++ (b ++ '}' :: t.back) := by
    rw [← List.append_assoc, ← hinside, text]
    simp
  have hclosers : Closers (b ++ '}' :: t.back) := closers_append hb t.back_blank
  have hbefore : beforeTest t.text = p := by rw [beforeTest, hcut]; rfl
  rw [hbefore]
  exact cut?_of_append (by decide) (closers_not_mem_mark hclosers) (hrest ▸ hcut)

/-- The methods of a class leave out what is open in front of them. -/
lemma braceDelta_members (t : TestClass) :
    braceDelta (fragmentMembers t.text) = 1 - braceDelta (beforeTest t.text) := by
  obtain ⟨z, hcut⟩ := t.cut?_inside
  obtain ⟨p, indent, hp, hindent, hfrom⟩ := fromTest?_of_cut hcut
  have htext : t.text = (t.front ++ '{' :: t.body) ++ '}' :: t.back := by simp [text]
  have hmembers : fragmentMembers t.text = indent ++ (testMark ++ z) := by
    rw [fragmentMembers, htext, beforeLastBrace?_append _ t.back_blank, Option.bind_some, hfrom]
    rfl
  have hfree : braceDelta indent = 0 :=
    braceDelta_of_free (fun hc => absurd (hindent _ hc) (by decide))
      (fun hc => absurd (hindent _ hc) (by decide))
  have hsum := t.braceDelta_inside
  rw [cut?_eq_some hcut, hp] at hsum
  rw [hmembers, hp]
  simp only [braceDelta_append] at hsum ⊢
  omega

end TestClass

/-- **Balanced merges**: a class merged into a balanced text leaves it balanced just where one
brace is open in front of its first test annotation, or where the text has no row that closes. -/
theorem balanced_mergeGenerated_iff {existing : Text} (h : Balanced existing) (t : TestClass) :
    Balanced (mergeGenerated existing t.text) ↔
      closingRow? (mergeImports existing t.text) = none ∨ braceDelta (beforeTest t.text) = 1 := by
  rw [balanced_iff, mergeGenerated, braceDelta_mergeFragment, braceDelta_mergeImports,
    balanced_iff.mp h, t.braceDelta_text, t.braceDelta_members]
  split
  · next hnone => simp [hnone]
  · next hsome =>
    rw [or_iff_right hsome]
    omega

/-- A class whose first method stands directly in it leaves the text balanced. -/
theorem balanced_mergeGenerated_plain :
    let existing := "class A \x7b\n\x7d".toList
    let fragment := ("import x;\n@Tag(\"t\")\nclass T \x7b\n" ++
      "  int n;\n  @Test\n  void t() \x7b\x7d\n\x7d\n").toList
    Balanced existing ∧ Balanced (mergeGenerated existing fragment) := by
  intro existing fragment
  let t : TestClass :=
    { front := "import x;\n@Tag(\"t\")\nclass T ".toList
      body := "\n  int n;\n  @Test\n  void t() \x7b\x7d\n".toList
      back := ['\n']
      front_balanced := by decide
      body_balanced := by decide
      tested := by decide
      back_blank := fun c hc => by
        obtain rfl := List.mem_singleton.mp hc
        decide }
  have ht : t.text = fragment := by decide +kernel
  have hbefore : braceDelta (beforeTest t.text) = 1 := by decide +kernel
  have h : Balanced existing := by decide
  exact ⟨h, ht ▸ (balanced_mergeGenerated_iff h t).mpr (Or.inr hbefore)⟩

/-- An annotation of the class that starts like that of a test takes the header along. -/
theorem balanced_mergeGenerated_testInstance :
    let existing := "class A \x7b\n\x7d".toList
    let fragment := ("@TestInstance(PER_CLASS)\nclass T \x7b\n" ++
      "  @Test\n  void t() \x7b\x7d\n\x7d").toList
    (∃ t : TestClass, t.text = fragment) ∧ Balanced existing ∧
      ¬ Balanced (mergeGenerated existing fragment) := by
  intro existing fragment
  refine ⟨⟨{ front := "@TestInstance(PER_CLASS)\nclass T ".toList
             body := "\n  @Test\n  void t() \x7b\x7d\n".toList
             back := []
             front_balanced := by decide
             body_balanced := by decide
             tested := by decide
             back_blank := fun c hc => by cases hc }, by decide +kernel⟩, by decide,
    by decide +kernel⟩

end TestWeaver.Proofs.MergedBraces
