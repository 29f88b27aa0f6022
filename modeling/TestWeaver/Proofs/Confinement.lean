import TestWeaver.Layout.Workspace
import TestWeaver.Proofs.Counterparts
import TestWeaver.Proofs.RealPaths
import TestWeaver.Proofs.RootSearch

/-!
Test files inside a workspace.

A source is looked for below the workspace with links followed, so the way to it goes through names
of files only. But a backslash in such a name counts as a slash from then on: the path may start at
the top then, or go up.
-/

namespace TestWeaver.Proofs.Confinement

open Text Layout PathNames RealPaths Counterparts RootSearch

/-- A directory below another one: it starts nowhere and does not go up. -/
structure Inner (s : Text) : Prop where
  relative : s.head? ≠ some '/'
  names : Path.namesOf s ≠ []
  stays : up ∉ Path.namesOf s

instance : DecidablePred Inner := fun s =>
  decidable_of_iff (s.head? ≠ some '/' ∧ Path.namesOf s ≠ [] ∧ up ∉ Path.namesOf s)
    ⟨fun h => ⟨h.1, h.2.1, h.2.2⟩, fun h => ⟨h.relative, h.names, h.stays⟩⟩

/-- The suffix of tests can be part of a name, and source roots and test roots are directories
below others. -/
structure Orderly (r : Resolver) : Prop where
  slash : '/' ∉ r.suffix
  dots : endsWith up r.suffix = false
  sources : ∀ c ∈ r.conventions, Inner c.sourceRoot
  tests : ∀ c ∈ r.conventions, Inner c.testRoot

/-- The path is that of a directory with names behind it that do not go up. -/
def Below (root p : Path) : Prop := ∃ q : Path, q.root = .none ∧ up ∉ q.parts ∧ p = root / q

/-- The names between a root and a source, both with their links followed. -/
def Inside (t : FileTree) (source root : Path) (below : List Text) : Prop :=
  ∃ s w, t.realPath source = .ok s ∧ t.realPath root = .ok w ∧ s.root = w.root ∧
    s.parts = w.parts ++ below

/-- The test file of a source is there and below the root. -/
def Confined (r : Resolver) (t : FileTree) (source root : Path) : Prop :=
  ∃ p, r.testFile t source root none = .ok p ∧ Below root p

lemma below_join_iff {root q : Path} (h : q.root = .none) :
    Below root (root / q) ↔ up ∉ q.parts := by
  refine ⟨?_, fun hup => ⟨q, h, hup, rfl⟩⟩
  rintro ⟨q', h', hup, heq⟩
  rw [join_relative h, join_relative h'] at heq
  rwa [List.append_cancel_left (Path.mk.inj heq).2]

/-! ### The way to the source -/

lemma relative_of_inside {t : FileTree} {source root : Path} {below : List Text}
    (h : Inside t source root below) :
    relative t source root = .ok (⟨.none, below⟩ : Path).toText := by
  obtain ⟨s, w, hs, hw, hroot, hparts⟩ := h
  have hbelow : below? w s = some ⟨.none, below⟩ := by
    simp [below?, hroot, hparts]
  simp only [relative, hs, hw, hbelow]

lemma relative_of_outside {t : FileTree} {source root : Path}
    (hcircle : ∀ p ∈ [source, root], ∀ s, t.realPath p ≠ .error (.linkCircle s))
    (hdeep : ∀ p ∈ [source, root], t.realPath p ≠ .error .tooDeep)
    (h : ∀ below, ¬ Inside t source root below) :
    relative t source root = .error (.outsideWorkspace source root) := by
  have hnaming : ∀ p ∈ [source, root], ∀ e, t.realPath p = .error e → e.isNaming = true := by
    intro p hp e he
    rcases realPath_error he with hname | rfl | ⟨s, rfl⟩
    · exact hname
    · exact absurd he (hdeep p hp)
    · exact absurd he (hcircle p hp s)
  unfold relative
  dsimp only
  split
  · next s w hs hw =>
    split
    · next p hp =>
      rw [below?] at hp
      split at hp
      · next hbelow =>
        obtain ⟨heq, hbelow⟩ := Bool.and_eq_true_iff.mp hbelow
        obtain ⟨below, hparts⟩ := List.isPrefixOf_iff_prefix.mp hbelow
        exact absurd ⟨s, w, hs, hw, (of_decide_eq_true heq).symm, hparts.symm⟩ (h below)
      · cases hp
    · rfl
  · next e hs => rw [hnaming source (by simp) e hs, if_pos rfl]
  · next _ e _ hs => rw [hnaming root (by simp) e hs, if_pos rfl]

/-- Names of files lie between a root and a source. -/
lemma isFileName_of_inside {t : FileTree} (hhere : ∀ n ∈ t.here, IsFileName n) {source root : Path}
    (hnames : ∀ n ∈ source.parts, IsName n) {below : List Text} (h : Inside t source root below) :
    ∀ n ∈ below, IsFileName n := by
  obtain ⟨s, w, hs, -, -, hparts⟩ := h
  obtain ⟨place, rfl, hfiles⟩ := realPath_ok hhere hnames hs
  intro n hn
  refine hfiles n ?_
  rw [show place = w.parts ++ below from hparts]
  exact List.mem_append_right _ hn

/-! ### The path in the test tree -/

lemma mem_dropLast_iff {α : Type} {x : α} {a m b : List α} (hne : m ≠ []) (hx : x ∉ m) :
    x ∈ (a ++ m ++ b).dropLast ↔ x ∈ a ∨ x ∈ b.dropLast := by
  by_cases hb : b = []
  · subst hb
    have hdrop : x ∉ m.dropLast := fun h => hx (List.dropLast_subset m h)
    rw [List.append_nil, List.dropLast_append_of_ne_nil hne]
    simp [hdrop]
  · rw [List.dropLast_append_of_ne_nil hb]
    simp [hx]

lemma head?_join {p : Text} {ps : List Text} (hp : '/' ∉ p) (hps : ps ≠ []) :
    (joinWith '/' (p :: ps)).head? = some '/' ↔ p = [] := by
  rw [RowText.joinWith_cons p hps]
  cases p with
  | nil => exact iff_of_true rfl rfl
  | cons c p =>
    have hc : c ≠ '/' := fun hc => hp (by simp [hc])
    exact iff_of_false (by simpa using hc) (List.cons_ne_nil c p)

/-- Only what is in front of a directory below others tells whether a path starts at the top. -/
lemma head?_around {a b : List Text} {s : Text} (hs : Inner s) (ha : ∀ p ∈ a, '/' ∉ p)
    (hb : b ≠ []) :
    (joinWith '/' (a ++ splitAt '/' s ++ b)).head? = some '/' ↔ a.head? = some [] := by
  have hsplit := splitAt_ne_nil '/' s
  cases a with
  | nil =>
    refine iff_of_false ?_ (by simp)
    have hne : s ≠ [] := by
      rintro rfl
      exact hs.names rfl
    rw [List.nil_append, RowText.joinWith_append hsplit hb, joinWith_splitAt,
      List.head?_append_of_ne_nil _ hne]
    exact hs.relative
  | cons p a =>
    rw [List.cons_append, List.cons_append,
      head?_join (ha p List.mem_cons_self) (by simp [hb])]
    simp

section

variable {r : Resolver} (hr : Orderly r)

include hr

/-- A convention leaves the path where it starts, and its names below. -/
lemma testPath?_stays {c : Convention} (hc : c ∈ r.conventions) {path t : Text}
    (h : c.testPath? path = some t) :
    (t.head? = some '/' ↔ path.head? = some '/') ∧ Path.namesOf t ≠ [] ∧
      (up ∈ (Path.namesOf t).dropLast ↔ up ∈ (Path.namesOf path).dropLast) := by
  obtain ⟨above, below, rfl, rfl, hbelow, habove, hback⟩ := exists_of_testPath? h
  have hin := hr.sources c hc
  have hout := hr.tests c hc
  rw [head?_around hin habove hbelow, head?_around hout habove hbelow,
    namesOf_around _ habove hback, namesOf_around _ habove hback,
    mem_dropLast_iff hin.names hin.stays, mem_dropLast_iff hout.names hout.stays]
  exact ⟨Iff.rfl, by simp [hout.names], Iff.rfl⟩

omit hr in
/-- The default test root stands in front of a path that starts nowhere. -/
lemma default_stays {p : Text} (hp : p.head? ≠ some '/') :
    (Path.ofText defaultTestRoot / Path.ofText p).toText.head? ≠ some '/' ∧
      Path.namesOf (Path.ofText defaultTestRoot / Path.ofText p).toText ≠ [] ∧
      (up ∈ (Path.namesOf (Path.ofText defaultTestRoot / Path.ofText p).toText).dropLast ↔
        up ∈ (Path.namesOf p).dropLast) := by
  have hjoin : Path.ofText defaultTestRoot / Path.ofText p =
      ⟨.none, [] ++ ["src".toList, "test".toList, "java".toList] ++ Path.namesOf p⟩ :=
    default_join (rootOf_eq_none.mpr hp)
  have hnames : ∀ n ∈ [] ++ ["src".toList, "test".toList, "java".toList] ++ Path.namesOf p,
      IsName n :=
    List.forall_mem_append.mpr ⟨by decide, fun n => isName_of_mem_namesOf⟩
  rw [hjoin, toText_relative (by simp), namesOf_joinWith hnames,
    mem_dropLast_iff (by simp) (by decide)]
  exact ⟨head?_joinWith hnames, by simp, by simp⟩

/-- The test tree leaves a path where it starts, and the names below. -/
lemma toTestTree_stays (p : Text) :
    ((r.toTestTree p).head? = some '/' ↔ p.head? = some '/') ∧
      (p.head? ≠ some '/' → Path.namesOf (r.toTestTree p) ≠ [] ∧
        (up ∈ (Path.namesOf (r.toTestTree p)).dropLast ↔ up ∈ (Path.namesOf p).dropLast)) := by
  rcases toTestTree_cases r p with ⟨c, hc, h⟩ | h
  · obtain ⟨hhead, hne, hup⟩ := testPath?_stays hr hc h
    exact ⟨hhead, fun _ => ⟨hne, hup⟩⟩
  · rw [h]
    by_cases hp : p.head? = some '/'
    · have hroot : (Path.ofText p).root ≠ .none := fun h => rootOf_eq_none.mp h hp
      rw [join_absolute hroot]
      exact ⟨iff_of_true (head?_toText hroot) hp, fun hnot => absurd hp hnot⟩
    · obtain ⟨hhead, hstays⟩ := default_stays hp
      exact ⟨iff_of_false hhead hp, fun _ => hstays⟩

/-! ### The test file -/

omit hr in
lemma testFile_none (t : FileTree) (source root : Path) :
    r.testFile t source root none = (relative t source root).bind fun p =>
      match r.counterpart p with
      | .ok q => .ok (root / Path.ofText q)
      | .error e => .error (.name e) := rfl

/-- The counterpart of a path that starts nowhere: the names but the last are kept. -/
lemma counterpart_relative {p : Text} (hp : (Layout.normalize p).head? ≠ some '/') :
    ∃ q, r.counterpart p = .ok q ∧ (Path.ofText q).root = .none ∧
      (up ∈ (Path.ofText q).parts ↔ up ∈ (Path.namesOf (Layout.normalize p)).dropLast) := by
  obtain ⟨hhead, hnames⟩ := toTestTree_stays hr (Layout.normalize p)
  obtain ⟨hne, hup⟩ := hnames hp
  have hroot : Path.rootOf (r.toTestTree (Layout.normalize p)) = .none :=
    rootOf_eq_none.mpr fun h => hp (hhead.mp h)
  have htree : Path.ofText (r.toTestTree (Layout.normalize p)) = ⟨.none,
      (Path.namesOf (r.toTestTree (Layout.normalize p))).dropLast ++
        [(Path.namesOf (r.toTestTree (Layout.normalize p))).getLast hne]⟩ := by
    rw [List.dropLast_append_getLast, Path.ofText, hroot]
  obtain ⟨q, hq, hparts, -⟩ := exists_counterpart hr.slash htree
  refine ⟨q, hq, by rw [hparts], ?_⟩
  rw [hparts, ← hup, List.mem_append, List.mem_singleton]
  exact or_iff_left fun h => testName_ne_up hr.dots _ h.symm

/-- The counterpart of a path that starts at the top does so, too. -/
lemma counterpart_absolute {p q : Text} (hp : (Layout.normalize p).head? = some '/')
    (h : r.counterpart p = .ok q) : (Path.ofText q).root ≠ .none := by
  have htree : (r.toTestTree (Layout.normalize p)).head? = some '/' :=
    (toTestTree_stays hr (Layout.normalize p)).1.mpr hp
  have hroot : (Path.ofText (r.toTestTree (Layout.normalize p))).root ≠ .none :=
    fun h => rootOf_eq_none.mp h htree
  unfold Resolver.counterpart at h
  dsimp only at h
  split at h
  · obtain rfl := Except.ok.inj h
    exact hroot
  · rw [Path.withName] at h
    split at h
    · cases h
    · split at h
      · obtain rfl := Except.ok.inj h
        exact fun hnone => rootOf_eq_none.mp hnone (head?_toText hroot)
      · cases h

/-- When the test file of a source inside the workspace is below the root. -/
lemma confined_iff {t : FileTree} {source root : Path} {below : List Text}
    (h : Inside t source root below) :
    Confined r t source root ↔
      let p := Layout.normalize (⟨.none, below⟩ : Path).toText
      p.head? ≠ some '/' ∧ up ∉ (Path.namesOf p).dropLast ∨
        p.head? = some '/' ∧ ∃ q, r.counterpart (⟨.none, below⟩ : Path).toText = .ok q ∧
          Below root (Path.ofText q) := by
  have hfile : r.testFile t source root none =
      match r.counterpart (⟨.none, below⟩ : Path).toText with
      | .ok q => .ok (root / Path.ofText q)
      | .error e => .error (.name e) := by
    rw [testFile_none, relative_of_inside h]
    rfl
  dsimp only
  rw [Confined, hfile]
  by_cases hp : (Layout.normalize (⟨.none, below⟩ : Path).toText).head? = some '/'
  · simp only [hp, ne_eq, not_true_eq_false, false_and, true_and, false_or]
    rcases hq : r.counterpart (⟨.none, below⟩ : Path).toText with e | q
    · simp
    · simp [join_absolute (counterpart_absolute hr hp hq)]
  · obtain ⟨q, hq, hroot, hup⟩ := counterpart_relative hr hp
    simp [hq, hp, below_join_iff hroot, hup]

end

/-- **Test files are below the workspace**: a source is refused just where it is not inside, and
otherwise its test file is found below the root if the path to it neither starts at the top nor goes
up once backslashes are slashes; where it starts at the top, the root does not matter. Names without
backslashes keep it below. -/
theorem testFile_confined {r : Resolver} (hr : Orderly r) {t : FileTree}
    (hhere : ∀ n ∈ t.here, IsFileName n) (source root : Text)
    (hcircle : ∀ p ∈ [Path.ofText source, Path.ofText root],
      ∀ s, t.realPath p ≠ .error (.linkCircle s))
    (hdeep : ∀ p ∈ [Path.ofText source, Path.ofText root], t.realPath p ≠ .error .tooDeep) :
    (r.testFile t (.ofText source) (.ofText root) none =
        .error (.outsideWorkspace (.ofText source) (.ofText root)) ↔
      ∀ below, ¬ Inside t (.ofText source) (.ofText root) below) ∧
    ∀ below, Inside t (.ofText source) (.ofText root) below →
      (Confined r t (.ofText source) (.ofText root) ↔
        let p := Layout.normalize (⟨.none, below⟩ : Path).toText
        p.head? ≠ some '/' ∧ up ∉ (Path.namesOf p).dropLast ∨
          p.head? = some '/' ∧ ∃ q, r.counterpart (⟨.none, below⟩ : Path).toText = .ok q ∧
            Below (.ofText root) (Path.ofText q)) ∧
      ((∀ n ∈ below, '\\' ∉ n) → Confined r t (.ofText source) (.ofText root)) := by
  refine ⟨⟨?_, fun h => ?_⟩, fun below h => ⟨confined_iff hr h, fun hback => ?_⟩⟩
  · intro herror below h
    rw [testFile_none, relative_of_inside h] at herror
    dsimp only [Except.bind] at herror
    split at herror <;> cases herror
  · rw [testFile_none, relative_of_outside hcircle hdeep h]
    rfl
  · have hfiles := isFileName_of_inside hhere (fun n => isName_of_mem_namesOf) h
    have hnames : ∀ n ∈ below, IsName n := fun n hn => (hfiles n hn).toIsName
    refine (confined_iff hr h).mpr (.inl ?_)
    by_cases hnil : below = []
    · subst hnil
      decide
    · rw [toText_relative hnil, normalize_joinWith hnames hback, namesOf_joinWith hnames]
      exact ⟨head?_joinWith hnames, fun hup =>
        (hfiles up (List.dropLast_subset _ hup)).ne_up rfl⟩

lemma orderly_default : Orderly {} := ⟨by decide, by decide, by decide, by decide⟩

/-- A workspace with one file in it. -/
def workspace (file : String) : FileTree :=
  { root := .dir (.cons "ws".toList (.dir (.cons file.toList (.file [] false) .nil)) .nil)
    here := [] }

/-- The test file of a source at the top of a workspace is below it. -/
theorem testFile_confined_plain :
    Confined {} (workspace "App.java") (.ofText "ws/App.java".toList) (.ofText "ws".toList) := by
  have hsource : (workspace "App.java").realPath (.ofText "ws/App.java".toList) =
      .ok ⟨.slash, ["ws".toList, "App.java".toList]⟩ := by decide +kernel
  have hroot : (workspace "App.java").realPath (.ofText "ws".toList) =
      .ok ⟨.slash, ["ws".toList]⟩ := by decide +kernel
  have hreal : ∀ p ∈ [Path.ofText "ws/App.java".toList, Path.ofText "ws".toList],
      ∀ e, (workspace "App.java").realPath p ≠ .error e := by
    refine List.forall_mem_cons.mpr ⟨fun e h => ?_, List.forall_mem_singleton.mpr fun e h => ?_⟩
    · rw [hsource] at h
      cases h
    · rw [hroot] at h
      cases h
  obtain ⟨-, hinside⟩ := testFile_confined orderly_default (by simp [workspace]) _ _
    (fun p hp s => hreal p hp _) fun p hp => hreal p hp _
  exact (hinside ["App.java".toList] ⟨_, _, hsource, hroot, rfl, rfl⟩).2 (by decide)

/-- A file whose name has backslashes in it lies in the workspace, and its test file does not. -/
theorem testFile_confined_backslashes :
    let t := workspace "\\srv\\Evil.java"
    let source := Path.ofText "ws/\\srv\\Evil.java".toList
    let root := Path.ofText "ws".toList
    Inside t source root ["\\srv\\Evil.java".toList] ∧
      Resolver.testFile {} t source root none =
        .ok ⟨.slash, ["srv".toList, "EvilTest.java".toList]⟩ ∧
      ¬ Confined {} t source root := by
  intro t source root
  have hfile : Resolver.testFile {} t source root none =
      .ok ⟨.slash, ["srv".toList, "EvilTest.java".toList]⟩ := by decide +kernel
  refine ⟨⟨⟨.slash, ["ws".toList, "\\srv\\Evil.java".toList]⟩, ⟨.slash, ["ws".toList]⟩,
    by decide +kernel, by decide +kernel, rfl, rfl⟩, hfile, ?_⟩
  rintro ⟨p, hp, q, hq, -, hbelow⟩
  obtain rfl := Except.ok.inj (hfile.symm.trans hp)
  rw [join_relative hq] at hbelow
  cases hbelow

end TestWeaver.Proofs.Confinement
