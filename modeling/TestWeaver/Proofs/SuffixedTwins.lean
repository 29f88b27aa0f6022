import TestWeaver.Proofs.CounterpartLocation

/-!
A source file, and the file beside it whose stem has the suffix of tests already.

Both have the same counterpart. Its directory does not depend on the name of the file, and the
suffix is put only where it is not yet. A path that keeps its last name is left as it is written,
and one that takes another is written anew, which makes no difference to a normal path.
-/

namespace TestWeaver.Proofs.SuffixedTwins

open Text Layout PathNames Counterparts CounterpartLocation RowText

/-- The directories of a counterpart: the test root of the first convention that applies, where its
source root first stands, or everything below the default test root. -/
def testDirs (ds : List Text) : List Text :=
  match conventionOf ds with
  | none => splitAt '/' defaultTestRoot ++ ds
  | some c =>
    let root := splitAt '/' c.sourceRoot
    let i := ds.tails.findIdx root.isPrefixOf
    ds.take i ++ splitAt '/' c.testRoot ++ ds.drop (i + root.length)

/-! ### The directories of a counterpart -/

lemma findIdx_tails {root a b : List Text}
    (hfirst : ∀ a' b', a ++ root ++ b = a' ++ root ++ b' → a.length ≤ a'.length) :
    (a ++ root ++ b).tails.findIdx root.isPrefixOf = a.length := by
  have hlt : a.length < (a ++ root ++ b).tails.length := by
    simp only [List.length_tails, List.length_append]
    omega
  refine (List.findIdx_eq hlt).mpr ⟨?_, fun j hj => ?_⟩
  · rw [List.getElem_tails, List.append_assoc, List.drop_left]
    exact List.isPrefixOf_iff_prefix.mpr (List.prefix_append root b)
  · rw [List.getElem_tails, ← Bool.not_eq_true, List.isPrefixOf_iff_prefix]
    rintro ⟨b', hb'⟩
    have hsplit : a ++ root ++ b = (a ++ root ++ b).take j ++ root ++ b' := by
      rw [List.append_assoc _ root b', hb', List.take_append_drop]
    have hle := (hfirst _ _ hsplit).trans (List.length_take_le j _)
    omega

lemma testDirs_of_none {ds : List Text} (h : conventionOf ds = none) :
    testDirs ds = splitAt '/' defaultTestRoot ++ ds := by
  rw [testDirs, h]

lemma testDirs_of_some {a b : List Text} {c : Convention}
    (h : conventionOf (a ++ splitAt '/' c.sourceRoot ++ b) = some c)
    (hfirst : ∀ a' b', a ++ splitAt '/' c.sourceRoot ++ b = a' ++ splitAt '/' c.sourceRoot ++ b' →
      a.length ≤ a'.length) :
    testDirs (a ++ splitAt '/' c.sourceRoot ++ b) = a ++ splitAt '/' c.testRoot ++ b := by
  rw [testDirs, h]
  simp only [findIdx_tails hfirst]
  simp

lemma isName_testDirs {ds : List Text} (h : ∀ n ∈ ds, IsName n) : ∀ n ∈ testDirs ds, IsName n := by
  unfold testDirs
  split
  · exact List.forall_mem_append.mpr ⟨by decide, h⟩
  · next c hc =>
    have hroots : ∀ c ∈ Convention.defaults, ∀ n ∈ splitAt '/' c.testRoot, IsName n := by decide
    exact List.forall_mem_append.mpr ⟨List.forall_mem_append.mpr
      ⟨fun n hn => h n (List.mem_of_mem_take hn), hroots c (mem_of_conventionOf hc)⟩,
      fun n hn => h n (List.mem_of_mem_drop hn)⟩

section

variable {r : Resolver} (hr : r.conventions = Convention.defaults) {ds : List Text} {file : Text}
  (hnames : ∀ n ∈ ds ++ [file], IsName n)

include hr hnames

/-- Where no convention applies the path stays whole. -/
lemma toTestTree_of_none (h : conventionOf ds = none) :
    r.toTestTree (joinWith '/' (ds ++ [file])) =
      joinWith '/' (splitAt '/' defaultTestRoot ++ ds ++ [file]) := by
  have hpieces : splitAt '/' (joinWith '/' (ds ++ [file])) = ds ++ [file] :=
    splitAt_joinWith (by simp) fun n hn => (hnames n hn).slash
  have hnone : r.conventions.findSome? (fun c => c.testPath? (joinWith '/' (ds ++ [file]))) =
      none := by
    rw [hr]
    refine List.findSome?_eq_none_iff.mpr fun c hc => ?_
    have hnot : ¬ splitAt '/' c.sourceRoot <:+: ds := by
      simpa using List.find?_eq_none.mp h c hc
    rw [RootSearch.testPath?_eq, hpieces, cutRoot?_eq_none hnot]
    rfl
  have hroot : Path.rootOf (joinWith '/' (ds ++ [file])) = .none :=
    rootOf_eq_none.mpr (head?_joinWith hnames)
  rw [Resolver.toTestTree, hnone, Option.getD_none, default_join hroot, namesOf_joinWith hnames,
    toText_relative (by simp), List.append_assoc]

/-- The test tree has the same directories for all files of one directory. -/
lemma toTestTree_joinWith :
    r.toTestTree (joinWith '/' (ds ++ [file])) = joinWith '/' (testDirs ds ++ [file]) := by
  rcases hc : conventionOf ds with _ | c
  · rw [toTestTree_of_none hr hnames hc, testDirs_of_none hc]
  · obtain ⟨a, b, rfl, hfirst, htree⟩ :=
      toTestTree_conventionOf hr hc fun n hn => (hnames n hn).slash
    rw [htree, testDirs_of_some hc hfirst]

/-! ### The counterpart -/

/-- The counterpart of a normal path is normal: its directories, and the name of a test file. -/
lemma counterpart_joinWith (hslash : '/' ∉ r.suffix) (hback : ∀ n ∈ ds ++ [file], '\\' ∉ n) :
    r.counterpart (joinWith '/' (ds ++ [file])) =
      .ok (joinWith '/' (testDirs ds ++ [testName r.suffix file])) := by
  obtain ⟨hds, hfile⟩ := List.forall_mem_append.mp hnames
  have hqnames : ∀ n ∈ testDirs ds ++ [file], IsName n :=
    List.forall_mem_append.mpr ⟨isName_testDirs hds, hfile⟩
  have htree : r.toTestTree (Layout.normalize (joinWith '/' (ds ++ [file]))) =
      joinWith '/' (testDirs ds ++ [file]) := by
    rw [normalize_joinWith hnames hback, toTestTree_joinWith hr hnames]
  have hpath := congrArg Path.ofText htree
  rw [ofText_joinWith hqnames] at hpath
  obtain ⟨q, hq, hparts, htext⟩ := exists_counterpart hslash hpath
  rw [hq]
  rcases htext with rfl | rfl
  · -- the name is kept, so it is that of a test file
    rw [hpath] at hparts
    have hsame := List.append_cancel_left (Path.mk.inj hparts).2
    rw [htree, hsame]
  · rw [toText_relative (by simp)]

end

lemma testName_append {suffix s ext : Text} (hs : s ≠ []) (hext : ext ≠ []) (hdot : '.' ∉ ext) :
    testName suffix (s ++ '.' :: ext) =
      if endsWith s suffix then s ++ '.' :: ext else s ++ suffix ++ '.' :: ext := by
  rw [testName, cutName_append hs hext hdot]

/-- **A file and its twin**: a source file whose stem is without the suffix of tests and the file
beside it whose stem has it have the same counterpart. It has the twin's name, in the directories
that the conventions give. -/
theorem counterpart_twin {r : Resolver} (hr : r.conventions = Convention.defaults)
    (hslash : '/' ∉ r.suffix) (hback : '\\' ∉ r.suffix) {ds : List Text} {s ext : Text}
    (hnames : ∀ n ∈ ds ++ [s ++ '.' :: ext], IsName n ∧ '\\' ∉ n) (hs : s ≠ []) (hext : ext ≠ [])
    (hdot : '.' ∉ ext) (hends : endsWith s r.suffix = false) :
    let twin := s ++ r.suffix ++ '.' :: ext
    r.counterpart (joinWith '/' (ds ++ [s ++ '.' :: ext])) =
        r.counterpart (joinWith '/' (ds ++ [twin])) ∧
      r.counterpart (joinWith '/' (ds ++ [twin])) =
        .ok (joinWith '/' (testDirs ds ++ [twin])) := by
  intro twin
  obtain ⟨hds, hfile⟩ := List.forall_mem_append.mp hnames
  obtain ⟨hfile, hfileBack⟩ := List.forall_mem_singleton.mp hfile
  have hrenamed : testName r.suffix (s ++ '.' :: ext) = twin := by
    rw [testName_append hs hext hdot, hends, if_neg Bool.false_ne_true]
  have hkept : testName r.suffix twin = twin := by
    rw [testName_append (by simp [hs]) hext hdot,
      if_pos (endsWith_iff.mpr (List.suffix_append s r.suffix))]
  have htwin : IsName twin ∧ '\\' ∉ twin := by
    rw [← hrenamed]
    exact ⟨isName_testName hslash hfile, fun h => (mem_testName h).elim hback hfileBack⟩
  have hcounterpart : ∀ n, IsName n ∧ '\\' ∉ n → testName r.suffix n = twin →
      r.counterpart (joinWith '/' (ds ++ [n])) = .ok (joinWith '/' (testDirs ds ++ [twin])) := by
    intro n hn hname
    have hall : ∀ m ∈ ds ++ [n], IsName m ∧ '\\' ∉ m :=
      List.forall_mem_append.mpr ⟨hds, List.forall_mem_singleton.mpr hn⟩
    rw [counterpart_joinWith hr (fun m hm => (hall m hm).1) hslash fun m hm => (hall m hm).2, hname]
  rw [hcounterpart _ ⟨hfile, hfileBack⟩ hrenamed, hcounterpart _ htwin hkept]
  exact ⟨rfl, rfl⟩

/-- A name with several dots, below a source root that stands in the path twice. -/
theorem counterpart_twin_module :
    let ds := ["a", "src", "main", "java", "b", "src", "main", "java"].map String.toList
    Resolver.counterpart {} (joinWith '/' (ds ++ ["Api.v1.java".toList])) =
        Resolver.counterpart {} (joinWith '/' (ds ++ ["Api.v1Test.java".toList])) ∧
      Resolver.counterpart {} (joinWith '/' (ds ++ ["Api.v1Test.java".toList])) =
        .ok "a/src/test/java/b/src/main/java/Api.v1Test.java".toList := by
  intro ds
  have hnames : ∀ n ∈ ds ++ ["Api.v1".toList ++ '.' :: "java".toList], IsName n ∧ '\\' ∉ n := by
    decide
  have hdirs : joinWith '/' (testDirs ds ++ ["Api.v1Test.java".toList]) =
      "a/src/test/java/b/src/main/java/Api.v1Test.java".toList := by decide
  obtain ⟨hsame, hresult⟩ := counterpart_twin (r := {}) rfl (by decide) (by decide) hnames
    (by decide) (by decide) (by decide) (by decide)
  exact ⟨hsame, hresult.trans (congrArg Except.ok hdirs)⟩

end TestWeaver.Proofs.SuffixedTwins
