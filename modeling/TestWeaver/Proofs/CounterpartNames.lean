import TestWeaver.Failure
import TestWeaver.Proofs.Counterparts
import TestWeaver.Proofs.RootSearch

/-!
The names of counterparts, for every path.

The test tree keeps the last name of a path; where there is none, it has that of its own language
directory. So only a path that is nothing but a start has no counterpart, which is no failure that
the library foresees. The suffix goes behind the stem and is the end of the new one, unless the name
ends with a dot: then the new stem ends at that dot.
-/

namespace TestWeaver.Proofs.CounterpartNames

open Text Layout PathNames Counterparts

/-- A path that starts at the top and goes nowhere from there. -/
def OnlyStart (p : Path) : Prop := p.root ≠ .none ∧ p.parts = []

/-- The name ends with a dot, and what is in front of it is without the suffix. -/
def DotEnded (suffix n : Text) : Prop := ∃ a, n = a ++ ['.'] ∧ endsWith a suffix = false

/-- Whether there is a counterpart whose stem has the suffix, or a failure that the library
foresees. -/
def isAnswered (r : Resolver) (p : Text) : Bool :=
  match r.counterpart p with
  | .ok q => endsWith (Path.ofText q).stem r.suffix
  | .error e => (Failure.name e).isExpected

/-! ### The stem of a test file -/

section

variable {suffix n : Text}

lemma cutName_dot (a : Text) : Path.cutName (a ++ ['.']) = (a ++ ['.'], []) := by
  rcases cutName_cases (a ++ ['.']) with h | ⟨x, b, -, hb, hdot, hsplit, -⟩
  · exact h
  · obtain ⟨b, d, rfl⟩ := (List.eq_nil_or_concat' b).resolve_left hb
    rw [← List.cons_append, ← List.append_assoc] at hsplit
    obtain rfl := List.singleton_inj.mp (List.append_inj' hsplit rfl).2
    exact absurd (by simp) hdot

/-- Text without dots behind a name without a last dot does not change where the name is cut. -/
lemma cutName_append_suffix (hdot : '.' ∉ suffix) (hcut : Path.cutName n = (n, []))
    (hlast : ¬ ∃ a, n = a ++ ['.']) : Path.cutName (n ++ suffix) = (n ++ suffix, []) := by
  rcases cutName_cases (n ++ suffix) with h | ⟨a, b, ha, hb, hbdot, hsplit, -⟩
  · exact h
  · exfalso
    rcases List.append_eq_append_iff.mp hsplit with ⟨x, rfl, hx⟩ | ⟨x, rfl, hx⟩
    · exact hdot (by rw [hx]; simp)
    · rcases x with _ | ⟨c, x⟩
      · exact hdot (by rw [← List.nil_append suffix, ← hx]; simp)
      · obtain ⟨rfl, rfl⟩ := List.cons.inj hx
        by_cases hxnil : x = []
        · exact hlast ⟨a, by rw [hxnil]⟩
        · rw [cutName_append ha hxnil fun h => hbdot (List.mem_append_left _ h)] at hcut
          cases (Prod.mk.inj hcut).2

lemma dotEnded_concat (a : Text) : DotEnded suffix (a ++ ['.']) ↔ endsWith a suffix = false := by
  refine ⟨?_, fun h => ⟨a, rfl, h⟩⟩
  rintro ⟨a', heq, h⟩
  rwa [List.append_cancel_right heq]

/-- The stem of a test file ends with the suffix unless a dot that was last in the name cuts it
off. -/
lemma endsWith_testName_iff (hne : suffix ≠ []) (hdot : '.' ∉ suffix) (hn : IsName n) :
    endsWith (Path.cutName (testName suffix n)).1 suffix = true ↔ ¬ DotEnded suffix n := by
  by_cases hlast : ∃ a, n = a ++ ['.']
  · obtain ⟨a, rfl⟩ := hlast
    have ha : a ≠ [] := by
      rintro rfl
      exact hn.ne_dot rfl
    have hends : endsWith (a ++ ['.']) suffix = false := by
      rw [← Bool.not_eq_true, endsWith_iff, List.suffix_concat_iff]
      rintro (hnil | ⟨m, rfl, -⟩)
      · exact hne hnil
      · exact hdot (by simp)
    have htest : testName suffix (a ++ ['.']) = a ++ '.' :: suffix := by
      rw [testName, cutName_dot, hends, if_neg Bool.false_ne_true]
      simp
    rw [htest, cutName_append ha hne hdot, dotEnded_concat, Bool.not_eq_false]
  · have hnot : ¬ DotEnded suffix n := by
      rintro ⟨a, ha, -⟩
      exact hlast ⟨a, ha⟩
    refine iff_of_true ?_ hnot
    by_cases hends : endsWith (Path.cutName n).1 suffix = true
    · rwa [testName, if_pos hends]
    by_cases hext : (Path.cutName n).2 = []
    · -- there is nothing behind the stem, so the suffix is the end of the name
      have hcut : Path.cutName n = (n, []) := by
        have hstem := stem_append_suffix n
        rw [hext, List.append_nil] at hstem
        exact Prod.ext hstem hext
      rw [testName, if_neg hends, hcut, List.append_nil, cutName_append_suffix hdot hcut hlast]
      exact endsWith_iff.mpr (List.suffix_append n suffix)
    · rw [stem_testName hext, if_neg hends]
      exact endsWith_iff.mpr (List.suffix_append _ suffix)

end

/-! ### The last name in the test tree -/

/-- A convention keeps the last name, also where that is the end of its root. -/
lemma getLast?_testPath? {c : Convention} (hc : c ∈ Convention.defaults) {s t : Text}
    (h : c.testPath? s = some t) :
    (Path.namesOf t).getLast? = (Path.namesOf s).getLast? ∧ Path.namesOf s ≠ [] := by
  obtain ⟨above, below, rfl, rfl, -, habove, hbelow⟩ := RootSearch.exists_of_testPath? h
  have hroots : ∀ c ∈ Convention.defaults, Path.namesOf c.sourceRoot ≠ [] ∧
      (Path.namesOf c.testRoot).getLast? = (Path.namesOf c.sourceRoot).getLast? := by decide
  obtain ⟨hne, hlast⟩ := hroots c hc
  rw [namesOf_around _ habove hbelow, namesOf_around _ habove hbelow]
  simp [List.getLast?_append, hlast, hne]

/-- A path below the default test root is read back as it was put together. -/
lemma ofText_default (s : Text) :
    Path.ofText (Path.ofText defaultTestRoot / Path.ofText s).toText =
      Path.ofText defaultTestRoot / Path.ofText s := by
  refine ofText_toText ?_
  by_cases hroot : (Path.ofText s).root = .none
  · rw [default_join hroot]
    exact List.forall_mem_append.mpr ⟨by decide, fun n => isName_of_mem_namesOf⟩
  · rw [join_absolute hroot]
    exact fun n => isName_of_mem_namesOf

section

variable {r : Resolver} (hr : r.conventions = Convention.defaults)

include hr

/-- The last name of a path stays in the test tree, and a path without names that starts nowhere
gets that of the default test root. -/
lemma getLast?_toTestTree (s : Text) :
    (Path.namesOf (r.toTestTree s)).getLast? =
      (Path.namesOf s).getLast?.or
        (if Path.rootOf s = .none then some "java".toList else none) := by
  rcases toTestTree_cases r s with ⟨c, hc, h⟩ | h
  · obtain ⟨hlast, hne⟩ := getLast?_testPath? (hr ▸ hc) h
    obtain ⟨n, hn⟩ := Option.ne_none_iff_exists'.mp fun h => hne (List.getLast?_eq_none_iff.mp h)
    rw [hlast, hn, Option.some_or]
  · have hparts := congrArg Path.parts (ofText_default s)
    rw [h, show Path.namesOf _ = _ from hparts]
    by_cases hroot : Path.rootOf s = .none
    · rw [default_join hroot, List.getLast?_append, if_pos hroot]
      rfl
    · rw [join_absolute hroot, if_neg hroot, Option.or_none]
      rfl

/-- The last name in the test tree ends with a dot just where that of the path does. -/
lemma exists_getLast?_toTestTree {s : Text} (h : ¬ OnlyStart (Path.ofText s)) (suffix : Text) :
    ∃ n, (Path.namesOf (r.toTestTree s)).getLast? = some n ∧
      (DotEnded suffix n ↔
        ∃ m, (Path.ofText s).parts.getLast? = some m ∧ DotEnded suffix m) := by
  rw [getLast?_toTestTree hr]
  show ∃ n, (Path.ofText s).parts.getLast?.or _ = some n ∧ _
  rcases hlast : (Path.ofText s).parts.getLast? with _ | m
  · have hroot : Path.rootOf s = .none := by
      by_contra hroot
      exact h ⟨hroot, List.getLast?_eq_none_iff.mp hlast⟩
    refine ⟨"java".toList, if_pos hroot, iff_of_false ?_ (by simp)⟩
    rintro ⟨a, ha, -⟩
    have hend := congrArg List.getLast? ha
    rw [List.getLast?_concat] at hend
    cases hend
  · exact ⟨m, rfl, by simp⟩

/-- A path that is only a start stays as it is. -/
lemma ofText_toTestTree {s : Text} (h : OnlyStart (Path.ofText s)) :
    Path.ofText (r.toTestTree s) = Path.ofText s := by
  rcases toTestTree_cases r s with ⟨c, hc, htree⟩ | htree
  · exact absurd h.2 (getLast?_testPath? (hr ▸ hc) htree).2
  · rw [htree, ofText_default, join_absolute h.1]

end

/-! ### The counterpart -/

/-- A path that has a last name in the test tree has a counterpart with the name of a test file. -/
lemma counterpart_of_getLast? {r : Resolver} (hslash : '/' ∉ r.suffix) {p n : Text}
    (h : (Path.namesOf (r.toTestTree (Layout.normalize p))).getLast? = some n) :
    IsName n ∧ ∃ q, r.counterpart p = .ok q ∧
      (Path.ofText q).stem = (Path.cutName (testName r.suffix n)).1 := by
  obtain ⟨dirs, hdirs⟩ := List.getLast?_eq_some_iff.mp h
  refine ⟨isName_of_mem_namesOf (List.mem_of_getLast? h), ?_⟩
  have hpath : Path.ofText (r.toTestTree (Layout.normalize p)) =
      ⟨Path.rootOf (r.toTestTree (Layout.normalize p)), dirs ++ [n]⟩ := by
    rw [Path.ofText, hdirs]
  obtain ⟨q, hq, hparts, -⟩ := exists_counterpart hslash hpath
  exact ⟨q, hq, by rw [hparts]; simp [Path.stem, Path.name]⟩

/-- A path that is only a start cannot take another last name. -/
lemma counterpart_of_onlyStart {r : Resolver} (hr : r.conventions = Convention.defaults)
    (hne : r.suffix ≠ []) {p : Text} (h : OnlyStart (Path.ofText (Layout.normalize p))) :
    r.counterpart p = .error (.emptyName (Path.ofText (Layout.normalize p))) := by
  have hname : (Path.ofText (Layout.normalize p)).name = [] := by
    rw [Path.name, h.2]
    rfl
  have hends : endsWith (Path.cutName []).1 r.suffix = false := by
    rw [← Bool.not_eq_true, endsWith_iff]
    exact fun hsuffix => hne (List.suffix_nil.mp hsuffix)
  unfold Resolver.counterpart
  simp only [ofText_toTestTree hr h, Path.stem, hname]
  rw [hends, if_neg Bool.false_ne_true, Path.withName, if_pos hname]
  rfl

/-- **Which paths have a counterpart with the name of a test**: all but those that are only a
start, for which the new name fails in a way that the library does not foresee, and those whose
last name ends with a dot behind a stem without the suffix. -/
theorem isAnswered_iff (p : Text) :
    (isAnswered {} p = true ↔ ¬ OnlyStart (Path.ofText (Layout.normalize p)) ∧
      ¬ ∃ n, (Path.ofText (Layout.normalize p)).parts.getLast? = some n ∧
        DotEnded defaultSuffix n) ∧
    ∀ e, Resolver.counterpart {} p = .error e ↔
      OnlyStart (Path.ofText (Layout.normalize p)) ∧
        e = .emptyName (Path.ofText (Layout.normalize p)) := by
  by_cases hstart : OnlyStart (Path.ofText (Layout.normalize p))
  · have herror := counterpart_of_onlyStart (r := {}) rfl (by decide) hstart
    refine ⟨iff_of_false ?_ fun h => h.1 hstart, fun e => ?_⟩
    · rw [isAnswered, herror]
      exact Bool.false_ne_true
    · rw [herror]
      simp [hstart, eq_comm]
  · obtain ⟨n, hlast, hdot⟩ := exists_getLast?_toTestTree (r := {}) rfl hstart defaultSuffix
    obtain ⟨hn, q, hq, hstem⟩ := counterpart_of_getLast? (by decide) hlast
    refine ⟨?_, fun e => ?_⟩
    · rw [isAnswered, hq, ← hdot, and_iff_right hstart]
      dsimp only
      rw [hstem]
      exact endsWith_testName_iff (by decide) (by decide) hn
    · rw [hq]
      simp [hstart]

/-- The top of all files has no counterpart, and that of a name with a dot behind it has the suffix
for an extension. -/
theorem not_isAnswered_top_dot :
    Resolver.counterpart {} "/".toList = .error (.emptyName ⟨.slash, []⟩) ∧
      isAnswered {} "/".toList = false ∧
      Resolver.counterpart {} "Foo.".toList = .ok "src/test/java/Foo.Test".toList ∧
      (Path.ofText "src/test/java/Foo.Test".toList).stem = "Foo".toList ∧
      isAnswered {} "Foo.".toList = false := by
  decide

end TestWeaver.Proofs.CounterpartNames
