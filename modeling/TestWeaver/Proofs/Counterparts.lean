import TestWeaver.Layout.Resolver
import TestWeaver.Proofs.PathNames

/-!
The counterpart of a path: the path in the test tree, its last name with the suffix of tests.
-/

namespace TestWeaver.Proofs.Counterparts

open Text Layout PathNames

/-! ### Normal paths -/

lemma replaceChar_of_not_mem {old new : Char} {s : Text} (h : old ∉ s) :
    replaceChar old new s = s := by
  refine (List.map_congr_left fun c hc => ?_).trans (List.map_id s)
  have hne : c ≠ old := ne_of_mem_of_not_mem hc h
  exact if_neg hne

lemma replaceChar_joinWith {old new : Char} {ps : List Text} (h : ∀ p ∈ ps, old ∉ p) :
    replaceChar old new (joinWith old ps) = joinWith new ps := by
  induction ps with
  | nil => rfl
  | cons p ps ih =>
    obtain ⟨hp, hps⟩ := List.forall_mem_cons.mp h
    by_cases hnil : ps = []
    · subst hnil
      exact replaceChar_of_not_mem hp
    · have hsplit : replaceChar old new (p ++ old :: joinWith old ps) =
          replaceChar old new p ++ new :: replaceChar old new (joinWith old ps) := by
        simp [replaceChar]
      rw [RowText.joinWith_cons p hnil, RowText.joinWith_cons p hnil, hsplit,
        replaceChar_of_not_mem hp, ih hps]

lemma not_mem_replaceChar {old new : Char} (h : old ≠ new) (s : Text) :
    old ∉ replaceChar old new s := by
  simp only [replaceChar, List.mem_map, not_exists, not_and]
  intro c _ heq
  split at heq
  · exact h heq.symm
  · next hc => exact hc heq

lemma dropDotSlashes_suffix (s : Text) : dropDotSlashes s <:+ s := by
  induction s using dropDotSlashes.induct with
  | case1 s ih =>
    rw [dropDotSlashes]
    exact ih.trans ((List.suffix_cons _ _).trans (List.suffix_cons _ _))
  | case2 s hs =>
    have hself : dropDotSlashes s = s := by
      unfold dropDotSlashes
      split
      · next rest => exact absurd rfl (hs rest)
      · rfl
    exact ⟨[], by rw [List.nil_append, hself]⟩

/-- Normal paths have no backslashes. -/
lemma backslash_normalize (p : Text) : '\\' ∉ Layout.normalize p := fun hmem =>
  not_mem_replaceChar (by decide) p ((dropDotSlashes_suffix _).subset hmem)

/-- Names without backslashes are a normal path. -/
lemma normalize_joinWith {ns : List Text} (h : ∀ n ∈ ns, IsName n) (hback : ∀ n ∈ ns, '\\' ∉ n) :
    Layout.normalize (joinWith '/' ns) = joinWith '/' ns := by
  have hmem : '\\' ∉ joinWith '/' ns := by
    rw [RowText.mem_joinWith (by decide)]
    rintro ⟨n, hn, hmem⟩
    exact hback n hn hmem
  rw [Layout.normalize, replaceChar_of_not_mem hmem]
  unfold dropDotSlashes
  split
  · next s hs =>
    -- a name in front would be a single dot
    cases ns with
    | nil => cases hs
    | cons n ns =>
      obtain ⟨hn, -⟩ := List.forall_mem_cons.mp h
      obtain ⟨rest, hjoin⟩ := RowText.exists_joinWith_cons '/' n ns
      rw [hjoin] at hs
      rcases n with _ | ⟨c, _ | ⟨d, n⟩⟩
      · exact absurd rfl hn.ne_nil
      · obtain ⟨rfl, -⟩ := List.cons.inj hs
        exact absurd rfl hn.ne_dot
      · obtain ⟨-, hs⟩ := List.cons.inj hs
        obtain ⟨rfl, -⟩ := List.cons.inj hs
        exact absurd (by simp) hn.slash
  · rfl

/-! ### The test tree -/

lemma toTestTree_cases (r : Resolver) (p : Text) :
    (∃ c ∈ r.conventions, c.testPath? p = some (r.toTestTree p)) ∨
      r.toTestTree p = (Path.ofText defaultTestRoot / Path.ofText p).toText := by
  rcases h : r.conventions.findSome? fun c => c.testPath? p with _ | t
  · exact .inr (by rw [Resolver.toTestTree, h]; rfl)
  · refine .inl ?_
    rw [Resolver.toTestTree, h]
    exact List.exists_of_findSome?_eq_some h

lemma default_join {p : Text} (h : Path.rootOf p = .none) :
    Path.ofText defaultTestRoot / Path.ofText p =
      ⟨.none, splitAt '/' defaultTestRoot ++ Path.namesOf p⟩ := by
  have hroot : Path.ofText defaultTestRoot = ⟨.none, splitAt '/' defaultTestRoot⟩ := by decide
  rw [join_relative h, hroot]
  rfl

/-! ### Names of test files -/

/-- The name of a test file, for the name of a source file: its stem with the suffix appended,
unless it is there already. -/
def testName (suffix n : Text) : Text :=
  if endsWith (Path.cutName n).1 suffix then n
  else (Path.cutName n).1 ++ suffix ++ (Path.cutName n).2

lemma stem_mem {n : Text} {c : Char} (h : c ∈ (Path.cutName n).1) : c ∈ n := by
  rw [← stem_append_suffix n]
  exact List.mem_append_left _ h

lemma suffix_mem {n : Text} {c : Char} (h : c ∈ (Path.cutName n).2) : c ∈ n := by
  rw [← stem_append_suffix n]
  exact List.mem_append_right _ h

/-- A stem with a suffix that it has not yet is no single dot. -/
lemma renamed_ne_dot {suffix n : Text} (h : n ≠ [])
    (hends : endsWith (Path.cutName n).1 suffix = false) :
    (Path.cutName n).1 ++ suffix ++ (Path.cutName n).2 ≠ ['.'] := by
  have hstem := stem_ne_nil h
  have hsuffix : suffix ≠ [] := by
    rintro rfl
    rw [endsWith_iff.mpr (List.nil_suffix)] at hends
    cases hends
  intro hdot
  have hlength := congrArg List.length hdot
  have := List.length_pos_iff.mpr hstem
  have := List.length_pos_iff.mpr hsuffix
  simp only [List.length_append, List.length_singleton] at hlength
  omega

/-- A file that has an extension keeps it behind the suffix. -/
lemma stem_testName {suffix n : Text} (hext : (Path.cutName n).2 ≠ []) :
    (Path.cutName (testName suffix n)).1 =
      if endsWith (Path.cutName n).1 suffix then (Path.cutName n).1
      else (Path.cutName n).1 ++ suffix := by
  unfold testName
  split
  · rfl
  · rcases cutName_cases n with hcut | ⟨a, b, ha, hb, hdot, -, hcut⟩
    · rw [hcut] at hext
      exact absurd rfl hext
    · rw [hcut, cutName_append (by simp [ha]) hb hdot]

lemma mem_testName {suffix n : Text} {c : Char} (h : c ∈ testName suffix n) :
    c ∈ suffix ∨ c ∈ n := by
  unfold testName at h
  split at h
  · exact .inr h
  · rcases List.mem_append.mp h with h | h
    · exact (List.mem_append.mp h).elim (fun h => .inr (stem_mem h)) .inl
    · exact .inr (suffix_mem h)

lemma isName_testName {suffix n : Text} (hslash : '/' ∉ suffix) (h : IsName n) :
    IsName (testName suffix n) := by
  refine ⟨?_, ?_, fun hmem => (mem_testName hmem).elim hslash h.slash⟩
  · unfold testName
    split
    · exact h.ne_nil
    · simp [stem_ne_nil h.ne_nil]
  · unfold testName
    split
    · exact h.ne_dot
    · next hends => exact renamed_ne_dot h.ne_nil (by simpa using hends)

/-- Two dots are the name of no test file, unless the suffix is in them. -/
lemma testName_ne_up {suffix : Text} (h : endsWith up suffix = false) (n : Text) :
    testName suffix n ≠ up := by
  unfold testName
  split
  · next hends =>
    rintro rfl
    rw [show Path.cutName up = (up, []) by decide, h] at hends
    cases hends
  · intro heq
    rcases cutName_cases n with hcut | ⟨a, b, -, hb, hdot, -, hcut⟩
    · rw [hcut, List.append_nil] at heq
      rw [endsWith_iff.mpr ⟨_, heq⟩] at h
      cases h
    · obtain ⟨c, hc⟩ := List.exists_mem_of_ne_nil b hb
      have hup : c ∈ up := by
        rw [← heq, hcut]
        simp [hc]
      have hdots : ∀ c ∈ ['.', '.'], c = '.' := by simp
      obtain rfl := hdots c hup
      exact hdot hc

/-- The counterpart of a path that has a last name. -/
lemma exists_counterpart {r : Resolver} {p : Text} {start : PathRoot} {dirs : List Text}
    {file : Text} (hslash : '/' ∉ r.suffix)
    (h : Path.ofText (r.toTestTree (Layout.normalize p)) = ⟨start, dirs ++ [file]⟩) :
    ∃ q, r.counterpart p = .ok q ∧
      Path.ofText q = ⟨start, dirs ++ [testName r.suffix file]⟩ ∧
      (q = r.toTestTree (Layout.normalize p) ∨
        q = (⟨start, dirs ++ [testName r.suffix file]⟩ : Path).toText) := by
  have hnames : ∀ n ∈ dirs ++ [file], IsName n := by
    have hparts : dirs ++ [file] = Path.namesOf (r.toTestTree (Layout.normalize p)) :=
      (congrArg Path.parts h).symm
    intro n hn
    exact isName_of_mem_namesOf (hparts ▸ hn)
  obtain ⟨hdirs, hfile⟩ := List.forall_mem_append.mp hnames
  have hfile : IsName file := hfile file (List.mem_singleton_self file)
  have hname : (⟨start, dirs ++ [file]⟩ : Path).name = file := by simp [Path.name]
  unfold Resolver.counterpart
  simp only [h, Path.stem, Path.suffix, hname]
  by_cases hends : endsWith (Path.cutName file).1 r.suffix = true
  · rw [if_pos hends]
    exact ⟨_, rfl, by rw [testName, if_pos hends, h], .inl rfl⟩
  · have htest : testName r.suffix file =
        (Path.cutName file).1 ++ r.suffix ++ (Path.cutName file).2 := if_neg hends
    have hisName := isName_testName hslash hfile
    rw [if_neg hends, ← htest, Path.withName, hname, if_neg hfile.ne_nil,
      isName_isName hisName, if_pos rfl]
    refine ⟨_, rfl, ?_, .inr ?_⟩
    · simp only [List.dropLast_concat]
      exact ofText_toText (List.forall_mem_append.mpr
        ⟨hdirs, List.forall_mem_singleton.mpr hisName⟩)
    · simp only [List.dropLast_concat]

end TestWeaver.Proofs.Counterparts
