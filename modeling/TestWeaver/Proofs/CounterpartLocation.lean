import TestWeaver.Proofs.Counterparts
import TestWeaver.Proofs.PackageDirs

/-!
What a path and its counterpart say about the class in them.

The counterpart of a path has another directory in place of the one above the language directory of
some source root. Its package begins at the same place as before, so it is another one just where
that directory is part of the package.
-/

namespace TestWeaver.Proofs.CounterpartLocation

open Text Layout PathNames Counterparts PackageDirs RootSearch RowText

def knownRoots : List (List Text) := Convention.defaults.map fun c => splitAt '/' c.sourceRoot

/-- The first convention whose source root is among some directories. -/
def conventionOf (ds : List Text) : Option Convention :=
  Convention.defaults.find? fun c => splitAt '/' c.sourceRoot <:+: ds

/-- Source roots and test roots end with a language directory below `main` and `test`. -/
lemma default_shape {c : Convention} (h : c ∈ Convention.defaults) :
    ∃ pre language, language ∈ languages ∧ (∀ n ∈ pre, n ∉ languages ∧ '\n' ∉ n) ∧
      splitAt '/' c.sourceRoot = pre ++ ["main".toList, language] ∧
      splitAt '/' c.testRoot = pre ++ ["test".toList, language] := by
  simp only [Convention.defaults, List.mem_cons, List.not_mem_nil, or_false] at h
  rcases h with rfl | rfl | rfl
  · exact ⟨["src".toList], "java".toList, by decide, by decide, by decide, by decide⟩
  · exact ⟨[], "java".toList, by decide, by decide, by decide, by decide⟩
  · exact ⟨["src".toList], "kotlin".toList, by decide, by decide, by decide, by decide⟩

/-! ### The search for a source root in front of a file -/

/-- A source root is found where it first stands among the directories. -/
lemma cutRoot?_dirs {root ds : List Text} (h : root <:+: ds) (file : Text) :
    ∃ a b, cutRoot? root (ds ++ [file]) = some (a, b ++ [file]) ∧ ds = a ++ root ++ b ∧
      ∀ a' b', ds = a' ++ root ++ b' → a.length ≤ a'.length := by
  obtain ⟨above, below, hds⟩ := h
  have hsplit : ds ++ [file] = above ++ root ++ (below ++ [file]) := by
    rw [← hds, List.append_assoc]
  obtain ⟨⟨a, rest⟩, hcut⟩ : ∃ q, cutRoot? root (ds ++ [file]) = some q := by
    rw [hsplit]
    exact exists_cutRoot? (by simp)
  obtain ⟨heq, hrest, hfirst⟩ := cutRoot?_eq_some hcut
  obtain ⟨b, last, rfl⟩ := (List.eq_nil_or_concat' rest).resolve_left hrest
  rw [← List.append_assoc] at heq
  obtain ⟨hdirs, hlast⟩ := List.append_inj' heq rfl
  obtain rfl := List.singleton_inj.mp hlast
  refine ⟨a, b, hcut, hdirs, fun a' b' hab => hfirst a' (b' ++ [file]) ?_ (by simp)⟩
  rw [hab, List.append_assoc]

lemma cutRoot?_eq_none {root ds : List Text} (h : ¬ root <:+: ds) (file : Text) :
    cutRoot? root (ds ++ [file]) = none := by
  rcases hcut : cutRoot? root (ds ++ [file]) with _ | ⟨a, rest⟩
  · rfl
  · obtain ⟨heq, hrest, -⟩ := cutRoot?_eq_some hcut
    obtain ⟨b, last, rfl⟩ := (List.eq_nil_or_concat' rest).resolve_left hrest
    rw [← List.append_assoc] at heq
    exact absurd ⟨a, b, (List.append_inj' heq rfl).1.symm⟩ h

/-! ### The path in the test tree -/

lemma conventionOf_eq_some {ds : List Text} {c : Convention} (h : conventionOf ds = some c) :
    splitAt '/' c.sourceRoot <:+: ds ∧ ∃ above below, Convention.defaults = above ++ c :: below ∧
      ∀ d ∈ above, ¬ splitAt '/' d.sourceRoot <:+: ds := by
  obtain ⟨hc, above, below, hsplit, habove⟩ := List.find?_eq_some_iff_append.mp h
  exact ⟨of_decide_eq_true hc, above, below, hsplit, fun d hd => by simpa using habove d hd⟩

lemma mem_of_conventionOf {ds : List Text} {c : Convention} (h : conventionOf ds = some c) :
    c ∈ Convention.defaults := List.mem_of_find?_eq_some h

lemma exists_conventionOf {root ds : List Text} (hroot : root ∈ knownRoots) (h : root <:+: ds) :
    ∃ c, conventionOf ds = some c := by
  obtain ⟨c, hc, rfl⟩ := List.mem_map.mp hroot
  exact Option.isSome_iff_exists.mp (List.find?_isSome.mpr ⟨c, hc, decide_eq_true h⟩)

/-- The convention of some directories is that of the first ones just where its source root ends
among them. -/
lemma conventionOf_prefix_iff {front back a b : List Text} {c : Convention}
    (h : conventionOf (front ++ back) = some c)
    (hsplit : front ++ back = a ++ splitAt '/' c.sourceRoot ++ b)
    (hfirst : ∀ a' b', front ++ back = a' ++ splitAt '/' c.sourceRoot ++ b' →
      a.length ≤ a'.length) :
    conventionOf front = some c ↔ (a ++ splitAt '/' c.sourceRoot).length ≤ front.length := by
  constructor
  · intro hfront
    obtain ⟨⟨a', b', hroot⟩, -⟩ := conventionOf_eq_some hfront
    have hlength := congrArg List.length hroot
    have hle := hfirst a' (b' ++ back) (by rw [← hroot, List.append_assoc])
    simp only [List.length_append] at hlength ⊢
    omega
  · intro hle
    obtain ⟨-, above, below, hdefaults, habove⟩ := conventionOf_eq_some h
    have hends : a ++ splitAt '/' c.sourceRoot <+: front :=
      List.prefix_of_prefix_length_le ⟨b, hsplit.symm⟩ (List.prefix_append front back) hle
    have hroot : splitAt '/' c.sourceRoot <:+: front :=
      (List.suffix_append a _).isInfix.trans hends.isInfix
    refine List.find?_eq_some_iff_append.mpr
      ⟨decide_eq_true hroot, above, below, hdefaults, fun d hd => ?_⟩
    have hnot : ¬ splitAt '/' d.sourceRoot <:+: front := fun hd' =>
      habove d hd (hd'.trans (List.prefix_append front back).isInfix)
    simpa using hnot

/-- The path in the test tree has the test root where the source root of its convention first
stands. -/
lemma toTestTree_conventionOf {r : Resolver} (hr : r.conventions = Convention.defaults)
    {ds : List Text} {c : Convention} (h : conventionOf ds = some c) {file : Text}
    (hslash : ∀ n ∈ ds ++ [file], '/' ∉ n) :
    ∃ a b, ds = a ++ splitAt '/' c.sourceRoot ++ b ∧
      (∀ a' b', ds = a' ++ splitAt '/' c.sourceRoot ++ b' → a.length ≤ a'.length) ∧
      r.toTestTree (joinWith '/' (ds ++ [file])) =
        joinWith '/' (a ++ splitAt '/' c.testRoot ++ b ++ [file]) := by
  obtain ⟨hroot, above, below, hdefaults, habove⟩ := conventionOf_eq_some h
  obtain ⟨a, b, hcut, hds, hfirst⟩ := cutRoot?_dirs hroot file
  have hpieces : splitAt '/' (joinWith '/' (ds ++ [file])) = ds ++ [file] :=
    splitAt_joinWith (by simp) hslash
  have hnone : above.findSome? (fun d => d.testPath? (joinWith '/' (ds ++ [file]))) = none := by
    refine List.findSome?_eq_none_iff.mpr fun d hd => ?_
    rw [testPath?_eq, hpieces, cutRoot?_eq_none (habove d hd)]
    rfl
  refine ⟨a, b, hds, hfirst, ?_⟩
  rw [Resolver.toTestTree, hr, hdefaults, List.findSome?_append, hnone, Option.none_or,
    List.findSome?_cons, testPath?_eq, hpieces, hcut, List.append_assoc _ b]
  rfl

/-- The path in the test tree has `test` in place of the `main` of the first source root that the
convention of the directories finds. -/
lemma toTestTree_dirs {r : Resolver} (hr : r.conventions = Convention.defaults) {ds : List Text}
    {c : Convention} (h : conventionOf ds = some c) {file : Text}
    (hnames : ∀ n ∈ ds ++ [file], IsName n) :
    ∃ a b language, language ∈ languages ∧ ds = a ++ "main".toList :: language :: b ∧
      r.toTestTree (joinWith '/' (ds ++ [file])) =
        joinWith '/' (a ++ "test".toList :: language :: b ++ [file]) ∧
      ∀ front back, ds = front ++ back →
        (conventionOf front = some c ↔ a.length + 2 ≤ front.length) := by
  obtain ⟨pre, language, hlanguage, -, hsource, htest⟩ := default_shape (mem_of_conventionOf h)
  obtain ⟨a, b, hds, hfirst, htree⟩ :=
    toTestTree_conventionOf hr h fun n hn => (hnames n hn).slash
  refine ⟨a ++ pre, b, language, hlanguage, ?_, ?_, fun front back hsplit => ?_⟩
  · rw [hds, hsource]
    simp
  · rw [htree, htest]
    simp
  · rw [conventionOf_prefix_iff (hsplit ▸ h) (hsplit ▸ hds) (hsplit ▸ hfirst), hsource]
    simp only [List.length_append, List.length_cons, List.length_nil]
    omega

/-! ### What a path says -/

lemma location_dirs {r : Resolver} {p : Text} {ds : List Text} {file : Text}
    (hp : Layout.normalize p = joinWith '/' (ds ++ [file]))
    (hnames : ∀ n ∈ ds ++ [file], IsName n) :
    (r.location p).package = joinWith '.' ((packageIn ds).getD []) ∧
      (r.location p).name = (Path.cutName file).1 ∧
      ("test".toList ∈ ds → (r.location p).isTest = true) := by
  obtain ⟨hds, hfile⟩ := List.forall_mem_append.mp hnames
  have hfile : IsName file := hfile file (List.mem_singleton_self file)
  have hpath : Path.ofText (Layout.normalize p) = ⟨.none, ds ++ [file]⟩ := by
    rw [hp, ofText_joinWith hnames]
  have hslash : ∀ n ∈ (packageIn ds).getD [], '/' ∉ n := fun n hn =>
    (hds n ((packageIn_suffix ds).1.subset hn)).slash
  have hjoin : ((packageIn ds).map (joinWith '/')).getD [] =
      joinWith '/' ((packageIn ds).getD []) := by
    cases packageIn ds <;> rfl
  refine ⟨?_, ?_, fun htest => ?_⟩
  · show replaceChar '/' '.' ((packageDirs? (Layout.normalize p)).getD []) = _
    rw [hp, packageDirs?_joinWith hds hfile, hjoin, replaceChar_joinWith hslash]
  · show (Path.ofText (Layout.normalize p)).stem = _
    rw [hpath]
    simp [Path.stem, Path.name]
  · show ((Path.ofText (Layout.normalize p)).parts.dropLast.contains "test".toList || _) = true
    rw [hpath]
    simp only [List.dropLast_concat, List.contains_iff_mem.mpr htest, Bool.true_or]

/-- The names tell the packages at the end of the same directories apart. -/
lemma dotted_eq_iff {ds dirs : List Text} (hne : ∀ n ∈ ds, n ≠ []) (h : dirs <:+ ds) :
    joinWith '.' ((packageIn ds).getD []) = joinWith '.' dirs ↔ (packageIn ds).getD [] = dirs := by
  refine ⟨fun heq => ?_, fun heq => by rw [heq]⟩
  have hends : ∀ {short long : List Text}, short <:+ long → long <:+ ds →
      joinWith '.' short = joinWith '.' long → short = long := by
    rintro short long ⟨more, rfl⟩ hlong hjoin
    by_cases hmore : more = []
    · rw [hmore, List.nil_append]
    · have hlt : (joinWith '.' short).length < (joinWith '.' (more ++ short)).length :=
        length_joinWith_lt hmore fun n hn => hne n (hlong.subset (List.mem_append_left short hn))
      rw [hjoin] at hlt
      exact absurd hlt (Nat.lt_irrefl _)
  rcases List.suffix_or_suffix_of_suffix (packageIn_suffix ds).1 h with hsuffix | hsuffix
  · exact hends hsuffix h heq
  · exact (hends hsuffix (packageIn_suffix ds).1 heq.symm).symm

/-- Behind some directories nothing has changed, once the one that was replaced is among them. -/
lemma dotted_drop_iff {x y : Text} (hlength : x.length = y.length) (hne : x ≠ y) (a b : List Text)
    (k : ℕ) :
    joinWith '.' ((a ++ y :: b).drop k) = joinWith '.' ((a ++ x :: b).drop k) ↔ a.length < k := by
  have hsame : ∀ ds : List Text, List.Forall₂ (fun p q : Text => p.length = q.length) ds ds :=
    fun ds => List.forall₂_same.mpr fun _ _ => rfl
  have hlengths : List.Forall₂ (fun p q : Text => p.length = q.length) (a ++ y :: b)
      (a ++ x :: b) := List.rel_append (hsame a) (.cons hlength.symm (hsame b))
  constructor
  · intro heq
    have heq := joinWith_injective (List.forall₂_drop k hlengths) heq
    by_contra hle
    rw [List.drop_append_of_le_length (by omega), List.drop_append_of_le_length (by omega)] at heq
    exact hne (List.cons.inj (List.append_cancel_left heq)).1.symm
  · intro hlt
    obtain ⟨m, rfl⟩ := Nat.exists_eq_add_of_lt hlt
    have hdrop : ∀ z : Text, (a ++ z :: b).drop (a.length + m + 1) = b.drop m := fun z => by
      rw [List.drop_append, List.drop_of_length_le (by omega)]
      simp [Nat.add_assoc]
    rw [hdrop, hdrop]

/-- Directories above a source root that are none of a language hide nothing. -/
lemma hidesRoot_append {m : List Text} (hm : ∀ n ∈ m, n ∉ languages ∧ '\n' ∉ n)
    (above : List Text) : HidesRoot (above ++ m) ↔ HidesRoot above := by
  induction above with
  | nil =>
    exact iff_of_false (not_hidesRoot fun n hn => (hm n hn).1) (not_hidesRoot (by simp))
  | cons d above ih =>
    have hrow : OneRow m := fun n hn => (hm n hn).2
    rw [List.cons_append, hidesRoot_cons, hidesRoot_cons, ih, oneRow_append, and_iff_left hrow]

/-- The package is what is behind a source root, and stays so with `test` in place of a `main`, just
where nothing hides it and the source root of that `main` ends in front of it. -/
lemma package_stays_iff {above pre dirs a b : List Text} {rootLanguage language : Text}
    (hroot : rootLanguage ∈ languages) (hpre : ∀ n ∈ pre, n ∉ languages ∧ '\n' ∉ n)
    (hne : ∀ n ∈ above ++ (pre ++ ["main".toList, rootLanguage]) ++ dirs, n ≠ [])
    (hds : above ++ (pre ++ ["main".toList, rootLanguage]) ++ dirs =
      a ++ "main".toList :: language :: b) :
    joinWith '.' ((packageIn (a ++ "test".toList :: language :: b)).getD []) = joinWith '.' dirs ∧
        joinWith '.' ((packageIn (a ++ "main".toList :: language :: b)).getD []) =
          joinWith '.' dirs ↔
      (OneRow dirs ∧ ¬ HidesRoot above) ∧
        a.length + 2 ≤ (above ++ (pre ++ ["main".toList, rootLanguage])).length := by
  have hbehind : (packageIn (a ++ "main".toList :: language :: b)).getD [] = dirs ↔
      OneRow dirs ∧ ¬ HidesRoot above := by
    have hsplit : a ++ "main".toList :: language :: b =
        above ++ (pre ++ ["main".toList]) ++ rootLanguage :: dirs := by
      rw [← hds]
      simp
    have hmain : ∀ n ∈ pre ++ ["main".toList], n ∉ languages ∧ '\n' ∉ n :=
      List.forall_mem_append.mpr ⟨hpre, by decide⟩
    rw [hsplit, packageIn_behind hroot, hidesRoot_append hmain]
  rw [hds] at hne
  rw [dotted_eq_iff hne ⟨_, hds⟩, hbehind, and_comm]
  refine and_congr_right fun hclear => ?_
  -- the package is what the last names are, also with the other directory
  have hdirs := hbehind.mpr hclear
  have hlength : (a ++ "main".toList :: language :: b).length - dirs.length =
      (above ++ (pre ++ ["main".toList, rootLanguage])).length := by
    rw [← hds, List.length_append, Nat.add_sub_cancel]
  have hdrop : dirs = (a ++ "main".toList :: language :: b).drop
      (above ++ (pre ++ ["main".toList, rootLanguage])).length := by
    rw [← hds, List.drop_left]
  rw [packageIn_replace (x := "main".toList) (by decide) (by decide) (by decide) (by decide), hdirs,
    hlength]
  conv_lhs => rhs; rw [hdrop]
  rw [dotted_drop_iff (by decide) (by decide)]
  -- the root does not end with `main`
  have hlast : a.length + 1 ≠ (above ++ (pre ++ ["main".toList, rootLanguage])).length := by
    intro heq
    have hsplit : above ++ (pre ++ ["main".toList]) ++ [rootLanguage] ++ dirs =
        a ++ ["main".toList] ++ language :: b := by simpa using hds
    have hfront := (List.append_inj hsplit (by simpa using heq.symm)).1
    obtain rfl := List.singleton_inj.mp (List.append_inj' hfront rfl).2
    exact absurd hroot (by decide)
  omega

/-- Normal paths have no backslashes in their names. -/
lemma backslash_names {p : Text} {ns : List Text} (hp : Layout.normalize p = joinWith '/' ns) :
    ∀ n ∈ ns, '\\' ∉ n := by
  intro n hn hmem
  refine backslash_normalize p ?_
  rw [hp, mem_joinWith (by decide)]
  exact ⟨n, hn, hmem⟩

/-- What holds of all names of a path holds of those of its counterpart. -/
lemma forall_mem_counterpart {P : Text → Prop} {a b : List Text} {language file test : Text}
    (h : ∀ n ∈ a ++ "main".toList :: language :: b ++ [file], P n) (hdir : P "test".toList)
    (htest : P file → P test) : ∀ n ∈ a ++ "test".toList :: language :: b ++ [test], P n := by
  obtain ⟨hdirs, hfile⟩ := List.forall_mem_append.mp h
  obtain ⟨ha, hrest⟩ := List.forall_mem_append.mp hdirs
  exact List.forall_mem_append.mpr
    ⟨List.forall_mem_append.mpr
      ⟨ha, List.forall_mem_cons.mpr ⟨hdir, (List.forall_mem_cons.mp hrest).2⟩⟩,
    List.forall_mem_singleton.mpr (htest (List.forall_mem_singleton.mp hfile))⟩

/-- The counterpart of a file below a source root that is known, as a normal path of names. -/
lemma exists_counterpart_dirs {r : Resolver} (hr : r.conventions = Convention.defaults)
    (hslash : '/' ∉ r.suffix) (hback : '\\' ∉ r.suffix) {p : Text} {ds : List Text} {file : Text}
    {c : Convention} (hp : Layout.normalize p = joinWith '/' (ds ++ [file]))
    (hnames : ∀ n ∈ ds ++ [file], IsName n) (h : conventionOf ds = some c) :
    ∃ a b language q, language ∈ languages ∧ ds = a ++ "main".toList :: language :: b ∧
      r.counterpart p = .ok q ∧
      Layout.normalize q =
        joinWith '/' (a ++ "test".toList :: language :: b ++ [testName r.suffix file]) ∧
      (∀ n ∈ a ++ "test".toList :: language :: b ++ [testName r.suffix file], IsName n) ∧
      ∀ front back, ds = front ++ back →
        (conventionOf front = some c ↔ a.length + 2 ≤ front.length) := by
  obtain ⟨a, b, language, hlanguage, rfl, htree, hfront⟩ := toTestTree_dirs hr h hnames
  have hqnames : ∀ n ∈ a ++ "test".toList :: language :: b ++ [testName r.suffix file], IsName n :=
    forall_mem_counterpart hnames (by decide) (isName_testName hslash)
  have hqback : ∀ n ∈ a ++ "test".toList :: language :: b ++ [testName r.suffix file],
      '\\' ∉ n :=
    forall_mem_counterpart (backslash_names hp) (by decide) fun hfile hmem =>
      (mem_testName hmem).elim hback hfile
  have hpath : Path.ofText (r.toTestTree (Layout.normalize p)) =
      ⟨.none, a ++ "test".toList :: language :: b ++ [file]⟩ := by
    rw [hp, htree, ofText_joinWith (forall_mem_counterpart hnames (by decide) id)]
  obtain ⟨q, hq, hparts, htext⟩ := exists_counterpart hslash hpath
  have hjoin : q =
      joinWith '/' (a ++ "test".toList :: language :: b ++ [testName r.suffix file]) := by
    rcases htext with rfl | rfl
    · -- the name has the suffix already
      rw [hpath] at hparts
      have hsame := List.append_cancel_left (Path.mk.inj hparts).2
      rw [hp, htree, hsame]
    · rw [toText_relative (by simp)]
  exact ⟨a, b, language, q, hlanguage, rfl, hq, by rw [hjoin, normalize_joinWith hqnames hqback],
    hqnames, hfront⟩

/-- **A path below a source root and its counterpart**: the counterpart is one of a test, and its
name has the suffix. Both have the package that stands between source root and file just where that
is on one row, no language directory above hides it, and the convention that the path falls under is
that of the directories up to the source root. -/
theorem counterpart_location_iff {r : Resolver} (hr : r.conventions = Convention.defaults)
    (hslash : '/' ∉ r.suffix) (hback : '\\' ∉ r.suffix) {p : Text}
    {above root dirs : List Text} {file : Text}
    (hp : Layout.normalize p = joinWith '/' (above ++ root ++ dirs ++ [file]))
    (hnames : ∀ n ∈ above ++ root ++ dirs ++ [file], IsName n) (hroot : root ∈ knownRoots)
    (hext : (Path.cutName file).2 ≠ []) :
    ∃ q, r.counterpart p = .ok q ∧ (r.location q).isTest = true ∧
      (r.location q).name = (if endsWith (r.location p).name r.suffix then (r.location p).name
        else (r.location p).name ++ r.suffix) ∧
      ((r.location q).package = (r.location p).package ∧
          (r.location p).package = joinWith '.' dirs ↔
        OneRow dirs ∧ ¬ HidesRoot above ∧
          conventionOf (above ++ root ++ dirs) = conventionOf (above ++ root)) := by
  obtain ⟨d, hd, hshape⟩ := List.mem_map.mp hroot
  obtain ⟨pre, rootLanguage, hrootLanguage, hpre, hsource, -⟩ := default_shape hd
  obtain rfl : pre ++ ["main".toList, rootLanguage] = root := hsource.symm.trans hshape
  obtain ⟨c, hc⟩ := exists_conventionOf hroot ⟨above, dirs, rfl⟩
  obtain ⟨a, b, language, q, hlanguage, hds, hq, hqnormal, hqnames, hfront⟩ :=
    exists_counterpart_dirs hr hslash hback hp hnames hc
  have hfront := hfront (above ++ (pre ++ ["main".toList, rootLanguage])) dirs rfl
  obtain ⟨hppackage, hpname, -⟩ := location_dirs (r := r) hp hnames
  obtain ⟨hqpackage, hqname, hqtest⟩ := location_dirs (r := r) hqnormal hqnames
  refine ⟨q, hq, hqtest (by simp), ?_, ?_⟩
  · rw [hqname, hpname, stem_testName hext]
  obtain ⟨hdirs, -⟩ := List.forall_mem_append.mp hnames
  have hstays := package_stays_iff hrootLanguage hpre (fun n hn => (hdirs n hn).ne_nil) hds
  rw [hppackage, hqpackage, hc, eq_comm (a := some c), hfront, ← and_assoc, ← hstays, ← hds]
  exact and_congr_left fun h => by rw [h]

/-- A module's directory in front of the source root changes nothing. -/
theorem counterpart_location_module :
    let p := "app/src/main/java/com/example/Service.java".toList
    ∃ q, Resolver.counterpart {} p = .ok q ∧
      (Resolver.location {} q).name = "ServiceTest".toList ∧
      (Resolver.location {} q).package = (Resolver.location {} p).package ∧
      (Resolver.location {} p).package = "com.example".toList := by
  intro p
  have hp : Layout.normalize p = joinWith '/' (["app".toList] ++
      ["src".toList, "main".toList, "java".toList] ++ ["com".toList, "example".toList] ++
      ["Service.java".toList]) := by decide
  obtain ⟨q, hq, -, hname, hpackage⟩ := counterpart_location_iff (r := {}) rfl (by decide)
    (by decide) hp (by decide) (by decide) (by decide)
  exact ⟨q, hq, hname.trans (by decide), hpackage.mpr
    ⟨by decide, not_hidesRoot (by decide), by decide⟩⟩

/-- A module's directory with the name of a language becomes part of the package, with the source
root behind it. -/
theorem counterpart_location_hidden :
    let p := "java/src/main/java/com/Service.java".toList
    Layout.normalize p = joinWith '/' (["java".toList] ++
        ["src".toList, "main".toList, "java".toList] ++ ["com".toList] ++
        ["Service.java".toList]) ∧
      ["src".toList, "main".toList, "java".toList] ∈ knownRoots ∧
      (Resolver.location {} p).package = "src.main.java.com".toList ∧
      (Resolver.location {} p).package ≠ joinWith '.' ["com".toList] := by
  decide

end TestWeaver.Proofs.CounterpartLocation
