import Mathlib.Data.List.DropRight
import TestWeaver.Proofs.TestSearch

/-!
The tests of a merged text.

The methods of a fragment start at its first test annotation and leave closing braces out, so the
search finds in them what it finds in the fragment. Where every annotation is answered in its own
piece, no piece arms the search for the next one: the tests of a merged text are those above the
closing row, those of the fragment and those from the closing row on.
-/

namespace TestWeaver.Proofs.MergedTests

open Merge Source Text ImportStatement RowText Splice LineText MergedBraces TestSearch

/-! ### The text in front of a mark -/

/-- The text in front of the first mark does not hold the mark. -/
lemma not_infix_of_cut? {mark s a b : Text} (hne : mark ≠ []) (h : cut? mark s = some (a, b)) :
    ¬ mark <:+: a := by
  have hnil : ¬ mark <:+: [] := fun hm => hne (List.infix_nil.mp hm)
  induction s generalizing a with
  | nil =>
    obtain ⟨r, -, heq⟩ := Option.map_eq_some_iff.mp h
    obtain ⟨rfl, -⟩ := Prod.mk.inj heq
    exact hnil
  | cons c s ih =>
    rw [cut?] at h
    split at h
    · obtain ⟨rfl, -⟩ := Prod.mk.inj (Option.some.inj h)
      exact hnil
    · next hnone =>
      obtain ⟨⟨a', b'⟩, hcut, heq⟩ := Option.map_eq_some_iff.mp h
      obtain ⟨rfl, rfl⟩ := Prod.mk.inj heq
      rw [List.infix_cons_iff, not_or]
      refine ⟨?_, ih hcut⟩
      rintro ⟨r, hr⟩
      have hread : after? mark (c :: s) = some (r ++ (mark ++ b')) := by
        rw [cut?_eq_some hcut, ← List.cons_append, ← hr, List.append_assoc, after?_append]
      rw [hnone] at hread
      cases hread

/-- The text behind the last line break. -/
def lastLine (s : Text) : Text := s.rtakeWhile fun c => !isLineBreak c

lemma oneLine_lastLine (s : Text) : OneLine (lastLine s) :=
  fun c hc => by simpa using List.mem_rtakeWhile_imp hc

/-- A text is cut at the start of its last line. -/
lemma exists_lastLine (s : Text) :
    ∃ front, s = front ++ lastLine s ∧ ∀ c ∈ front.getLast?, isLineBreak c = true := by
  refine ⟨s.rdropWhile fun c => !isLineBreak c, List.rdropWhile_append_rtakeWhile.symm, ?_⟩
  intro c hc
  obtain ⟨hne, rfl⟩ := List.mem_getLast?_eq_getLast hc
  simpa using List.rdropWhile_last_not _ s hne

/-! ### The methods of a fragment -/

lemma mark_infix_of_fromTest? {s m : Text} (h : fromTest? s = some m) : testMark <:+: s := by
  induction s with
  | nil => cases h
  | cons c s ih =>
    rw [fromTest?] at h
    split at h
    · next hstart =>
      obtain ⟨r, hr⟩ := Option.isSome_iff_exists.mp hstart
      have hdrop : testMark <:+: (c :: s).dropWhile isIndent := by
        rw [eq_append_of_after? hr]
        exact (List.prefix_append testMark r).isInfix
      exact hdrop.trans (List.dropWhile_suffix _).isInfix
    · exact List.infix_cons (ih h)

lemma blanks_of_indent {b : Text} (h : ∀ c ∈ b, isIndent c = true) : Blanks b := by
  intro c hc
  rcases Bool.or_eq_true_iff.mp (h c hc) with hspace | htab
  · rw [of_decide_eq_true hspace]
    decide
  · rw [of_decide_eq_true htab]
    decide

/-- The search begins at the first annotation, if only blanks stand in front of it on its line. -/
lemma search_from_mark {s a z : Text} (hcut : cut? testMark s = some (a, z))
    (hblank : Blanks (lastLine a)) : testMethods s = testMethods (testMark ++ z) := by
  obtain ⟨front, ha, hbreak⟩ := exists_lastLine a
  have hhead : (lastLine a ++ (testMark ++ z)).head? ≠ some '\n' := by
    intro hn
    rcases hl : lastLine a with _ | ⟨c, l⟩
    · rw [hl] at hn
      cases hn
    · rw [hl] at hn
      obtain rfl := Option.some.inj hn
      exact absurd (oneLine_lastLine a '\n' (by rw [hl]; exact List.mem_cons_self ..)) (by decide)
  have hlines : lines s = lines front ++ lines (lastLine a ++ (testMark ++ z)) := by
    rw [← lines_append hbreak hhead, ← List.append_assoc, ← ha, ← cut?_eq_some hcut]
  -- above the line of the annotation nothing arms the search
  have hquiet : ∀ l ∈ lines front, annotatesTest l = false := by
    intro l hl
    by_contra hann
    have hfront : testMark <:+: front :=
      (mark_infix_of_annotates (by simpa using hann)).trans (infix_of_mem_lines hl)
    refine not_infix_of_cut? (by decide) hcut ?_
    rw [ha]
    exact hfront.trans (List.prefix_append front _).isInfix
  obtain ⟨hnone, hdisarmed⟩ := search_quiet hquiet
  rw [testMethods, hlines, testMethodsIn_append, hnone, hdisarmed, List.nil_append,
    testMethodsIn_blanks hblank, ← testMethods]

/-- **The methods of a fragment hold its tests**: what is cut off has none, if only blanks stand
in front of the first annotation. -/
theorem testMethods_fragmentMembers {fragment : Text}
    (hfirst : ∀ p ∈ cut? testMark fragment, Blanks (lastLine p.1)) :
    testMethods (fragmentMembers fragment) = testMethods fragment := by
  rcases hm : (beforeLastBrace? fragment).bind fromTest? with _ | m
  · rw [fragmentMembers, hm, Option.getD_none]
  obtain ⟨t, ht, hfrom⟩ := Option.bind_eq_some_iff.mp hm
  obtain ⟨u, hu, rfl⟩ := beforeLastBrace?_eq_some ht
  -- the first annotation of the fragment is that of the text up to the brace
  obtain ⟨x, y, hxy⟩ := mark_infix_of_fromTest? hfrom
  have hfragment : x ++ (testMark ++ (y ++ u)) = t ++ u := by rw [← hxy]; simp
  obtain ⟨⟨a, b⟩, hcut⟩ := exists_cut? testMark x (y ++ u)
  rw [hfragment] at hcut
  obtain ⟨z, hz⟩ := cut?_of_append (by decide) (closers_not_mem_mark hu) hcut
  obtain ⟨p, indent, -, hindent, hfrom'⟩ := fromTest?_of_cut hz
  have hmembers : fragmentMembers (t ++ u) = indent ++ (testMark ++ z) := by
    rw [fragmentMembers, hm, ← hfrom, hfrom', Option.getD_some]
  calc testMethods (fragmentMembers (t ++ u))
      = testMethods (testMark ++ z) := by
        rw [testMethods, hmembers, testMethodsIn_blanks (blanks_of_indent hindent), ← testMethods]
    _ = testMethods t := (search_from_mark hz (hfirst _ hcut)).symm
    _ = testMethods (t ++ u) := (testMethodsIn_closedBy (closedBy_lines t hu) false).symm

/-! ### Merges -/

/-- **Tests of a merge**: those above the closing row, those of the fragment and those from the
closing row on. -/
theorem testMethods_mergeFragment {existing fragment : Text} {c : ℕ}
    (hc : closingRow? existing = some c)
    (habove : Answered (lines (unrows ((rows existing).take c))))
    (hmembers : Answered (lines (fragmentMembers fragment)))
    (hfirst : ∀ p ∈ cut? testMark fragment, Blanks (lastLine p.1)) :
    testMethods (mergeFragment existing fragment) =
      testMethods (unrows ((rows existing).take c)) ++ testMethods fragment ++
        testMethods (unrows ((rows existing).drop c)) := by
  have hidle : ∀ {ls : List Text}, Answered ls → armedAfter false ls = false :=
    fun h => armedAfter_of_answered h fun harmed => by cases harmed
  have hmarker : ∀ armed, testMethodsIn armed (lines (unrows [[], marker])) = [] ∧
      armedAfter armed (lines (unrows [[], marker])) = armed := by decide
  have hmerged : mergeFragment existing fragment =
      unrows ((rows existing).take c ++ ([[], marker] ++
        (rows (fragmentMembers fragment) ++ (rows existing).drop c))) := by
    rw [← unrows_rows (mergeFragment existing fragment), rows_mergeFragment hc, methodBlock]
    rfl
  rw [testMethods, hmerged, testMethodsIn_unrows_append, hidle habove,
    testMethodsIn_unrows_append, (hmarker false).1, (hmarker false).2, List.nil_append,
    testMethodsIn_unrows_append, unrows_rows, hidle hmembers, ← testMethods,
    ← testMethods, ← testMethods, testMethods_fragmentMembers hfirst, List.append_assoc]

/-- A test above the closing row, two in the fragment, and one below the row. -/
theorem testMethods_mergeFragment_between :
    let existing := "class A \x7b\n  @Test\n  void a() \x7b\x7d\n\x7d\n@Test\nvoid d();".toList
    let fragment := ("import t;\nclass T \x7b\n\n  @Test\n  public void b() \x7b\x7d\n" ++
      "  @Test(timeout = 1)\n  void c() \x7b \x7d\n\x7d\n").toList
    Answered (lines (unrows ((rows existing).take 3))) ∧
      Answered (lines (fragmentMembers fragment)) ∧
      testMethods (mergeFragment existing fragment) = [['a'], ['b'], ['c'], ['d']] := by
  intro existing fragment
  have hc : closingRow? existing = some 3 := by decide +kernel
  have habove : Answered (lines (unrows ((rows existing).take 3))) := by decide +kernel
  have hmembers : Answered (lines (fragmentMembers fragment)) := by decide +kernel
  have hfirst : ∀ p ∈ cut? testMark fragment, Blanks (lastLine p.1) := by decide +kernel
  refine ⟨habove, hmembers, ?_⟩
  rw [testMethods_mergeFragment hc habove hmembers hfirst]
  decide +kernel

end TestWeaver.Proofs.MergedTests
