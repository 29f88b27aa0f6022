import Mathlib.Data.List.Infix
import Mathlib.Data.List.ModifyLast
import TestWeaver.Proofs.RootSearch
import TestWeaver.Proofs.SortedTexts
import TestWeaver.Proofs.SourcePlaces

/-!
Which source is found for an import target.

A target is answered by the sources whose last names are those of the target, and of these the one
with the least path is found. Both are said by places, so the order in which directories list their
entries has no say.
-/

namespace TestWeaver.Proofs.SourceLookup

open Text FileTree Dependency FileWalks ListingOrder RootSearch SortedTexts SourcePlaces

/-! ### Names of a target -/

/-- The names that a target stands for: those between dots and slashes, the last one with the suffix
of sources. -/
def targetNames (target : Text) : List Text :=
  ((splitAt '.' target).flatMap (splitAt '/')).modifyLast (· ++ sourceSuffix)

lemma splitAt_replaceChar (s : Text) :
    splitAt '/' (replaceChar '.' '/' s) = (splitAt '.' s).flatMap (splitAt '/') := by
  induction s with
  | nil => rfl
  | cons c s ih =>
    have hcons : replaceChar '.' '/' (c :: s) =
        (if c = '.' then '/' else c) :: replaceChar '.' '/' s := rfl
    rw [hcons]
    by_cases hdot : c = '.'
    · subst hdot
      rw [if_pos rfl, RowText.splitAt_cons_self, RowText.splitAt_cons_self, ih]
      rfl
    · obtain ⟨p, ps, hp, hcp⟩ := RowText.splitAt_cons_of_ne hdot s
      rw [hp, List.flatMap_cons] at ih
      rw [if_neg hdot, hcp, List.flatMap_cons]
      by_cases hslash : c = '/'
      · subst hslash
        rw [RowText.splitAt_cons_self, RowText.splitAt_cons_self, ih, List.cons_append]
      · obtain ⟨r, rs, hr, hcr⟩ := RowText.splitAt_cons_of_ne hslash (replaceChar '.' '/' s)
        obtain ⟨r', rs', hr', hcr'⟩ := RowText.splitAt_cons_of_ne hslash p
        rw [hr, hr', List.cons_append] at ih
        obtain ⟨rfl, rfl⟩ := List.cons.inj ih
        rw [hcr, hcr', List.cons_append]

/-- A text without slashes at the end belongs to the last piece. -/
lemma splitAt_append_of_not_mem {u : Text} (hu : '/' ∉ u) (s : Text) :
    splitAt '/' (s ++ u) = (splitAt '/' s).modifyLast (· ++ u) := by
  obtain ⟨ps, l, hs⟩ : ∃ ps l, splitAt '/' s = ps ++ [l] := by
    simpa using List.eq_nil_or_concat (splitAt '/' s) |>.resolve_left (splitAt_ne_nil '/' s)
  have hslash : ∀ p ∈ ps ++ [l], '/' ∉ p := hs ▸ fun p => RowText.not_mem_of_mem_splitAt
  have hlast : '/' ∉ l ++ u := by
    rw [List.mem_append, not_or]
    exact ⟨hslash l (by simp), hu⟩
  have hjoin : s ++ u = joinWith '/' (ps ++ [l ++ u]) := by
    rw [← joinWith_splitAt '/' s, hs]
    by_cases hps : ps = []
    · subst hps
      rfl
    · rw [RowText.joinWith_append hps (by simp), RowText.joinWith_append hps (by simp),
        List.append_assoc]
      rfl
  rw [hs, List.modifyLast_concat, hjoin, RowText.splitAt_joinWith (by simp)]
  refine List.forall_mem_append.mpr ⟨(List.forall_mem_append.mp hslash).1, ?_⟩
  exact List.forall_mem_singleton.mpr hlast

lemma splitAt_sourceEnd (target : Text) : splitAt '/' (sourceEnd target) = targetNames target := by
  rw [sourceEnd, splitAt_append_of_not_mem (by decide), splitAt_replaceChar, targetNames]

/-! ### Ends of paths -/

lemma slashed_inj {ps qs : List Text} (hps : ∀ p ∈ ps, '/' ∉ p) (hqs : ∀ q ∈ qs, '/' ∉ q) :
    slashed ps = slashed qs ↔ ps = qs := by
  refine ⟨fun h => ?_, fun h => h ▸ rfl⟩
  cases ps with
  | nil => cases qs <;> first | rfl | cases h
  | cons p ps =>
    cases qs with
    | nil => cases h
    | cons q qs =>
      rw [← slash_joinWith (by simp), ← slash_joinWith (by simp)] at h
      rw [← RowText.splitAt_joinWith (by simp) hps, (List.cons.inj h).2,
        RowText.splitAt_joinWith (by simp) hqs]

/-- No text that begins with a slash begins inside a piece. -/
lemma suffix_piece_iff {m p s : Text} (hm : m.head? = some '/') (hp : '/' ∉ p) :
    m <:+ p ++ s ↔ m <:+ s := by
  induction p with
  | nil => rfl
  | cons c p ih =>
    obtain ⟨hc, hp⟩ := List.ne_and_not_mem_of_not_mem_cons hp
    rw [List.cons_append, List.suffix_cons_iff, ih hp, or_iff_right]
    rintro rfl
    exact hc (Option.some.inj hm).symm

lemma slashed_suffix_iff {ss ps : List Text} (hss : ∀ s ∈ ss, '/' ∉ s) (hps : ∀ p ∈ ps, '/' ∉ p) :
    slashed ss <:+ slashed ps ↔ ss <:+ ps := by
  by_cases hnil : ss = []
  · subst hnil
    exact iff_of_true List.nil_suffix List.nil_suffix
  have hhead : (slashed ss).head? = some '/' := by
    obtain ⟨s, ss, rfl⟩ := List.exists_cons_of_ne_nil hnil
    rfl
  induction ps with
  | nil =>
    have hinj : slashed ss = slashed [] ↔ ss = [] := slashed_inj hss (by simp)
    rw [slashed_nil] at hinj ⊢
    rw [List.suffix_nil, List.suffix_nil, hinj]
  | cons p ps ih =>
    obtain ⟨hp, hrest⟩ := List.forall_mem_cons.mp hps
    have ih : slashed ss <:+ slashed ps ↔ ss <:+ ps := ih hrest
    rw [slashed_cons, List.suffix_cons_iff, suffix_piece_iff hhead hp, ← slashed_cons,
      slashed_inj hss hps, ih, List.suffix_cons_iff]

/-- A path is one of a target's sources when its last names are those of the target. -/
lemma isSourceOf_iff {target : Text} {q : Place} (hq : q ≠ []) (hslash : ∀ n ∈ q, '/' ∉ n) :
    isSourceOf target (joinWith '/' q) = true ↔ targetNames target <:+ q := by
  have hends : isSourceOf target (joinWith '/' q) = true ↔
      '/' :: sourceEnd target <:+ '/' :: joinWith '/' q := by
    rw [isSourceOf, Bool.or_eq_true, decide_eq_true_iff, endsWith_iff, List.suffix_cons_iff,
      List.cons.injEq, eq_comm]
    simp
  rw [hends, slash_joinWith hq, slash_eq_slashed, splitAt_sourceEnd]
  refine slashed_suffix_iff ?_ hslash
  rw [← splitAt_sourceEnd]
  exact fun s => RowText.not_mem_of_mem_splitAt

/-! ### Answers to targets -/

variable {t u : FileTree} {dir : Path} {q : Place}

/-- A source that answers a target: its last names are those of the target. -/
def Answers (t : FileTree) (dir : Path) (target : Text) (q : Place) : Prop :=
  SourceAt t dir q ∧ targetNames target <:+ q

/-- The texts of the sources that answer a target. -/
def answers (t : FileTree) (dir : Path) (target : Text) : Set Text :=
  {s | ∃ q, Answers t dir target q ∧ s = joinWith '/' q}

/-- The texts in which the sources below a directory are looked for. -/
def candidates (t : FileTree) (dir : Path) : List Text :=
  sortTexts ((sources t dir).map (joinWith '/'))

lemma mem_answers (h : orderly t.root = true) {target s : Text} :
    s ∈ answers t dir target ↔ s ∈ candidates t dir ∧ isSourceOf target s = true := by
  have hends : ∀ q, SourceAt t dir q →
      (isSourceOf target (joinWith '/' q) = true ↔ targetNames target <:+ q) :=
    fun q hat => isSourceOf_iff hat.ne_nil fun n hn => (hat.isFileName h n hn).slash
  rw [candidates, mem_sortTexts, List.mem_map]
  constructor
  · rintro ⟨q, ⟨hat, hnames⟩, rfl⟩
    exact ⟨⟨q, (mem_sources h).mpr hat, rfl⟩, (hends q hat).mpr hnames⟩
  · rintro ⟨⟨q, hq, rfl⟩, hsource⟩
    have hat := (mem_sources h).mp hq
    exact ⟨q, ⟨hat, (hends q hat).mp hsource⟩, rfl⟩

lemma find?_candidates (h : orderly t.root = true) {target s : Text} :
    (candidates t dir).find? (isSourceOf target) = some s ↔ IsLeast (answers t dir target) s := by
  have hset : answers t dir target =
      {s | s ∈ candidates t dir ∧ isSourceOf target s = true} := Set.ext fun s => mem_answers h
  rw [hset, candidates, find?_eq_some_iff (sortTexts_sorted _)]

lemma mem_found {texts targets : List Text} {target : Text} {p : Path} :
    (target, p) ∈ found texts dir targets ↔
      target ∈ targets ∧ ∃ s, texts.find? (isSourceOf target) = some s ∧
        p = dir / Path.ofText s := by
  unfold found
  simp only [List.mem_filterMap, Merge.mem_distinct, Option.map_eq_some_iff, Prod.mk.injEq]
  constructor
  · rintro ⟨d, hd, c, hc, rfl, rfl⟩
    exact ⟨hd, c, hc, rfl⟩
  · rintro ⟨hd, c, hc, rfl⟩
    exact ⟨target, hd, c, hc, rfl, rfl⟩

/-- First occurrences come in their order. -/
lemma distinct_ordered (targets : List Text) :
    (Merge.distinct targets).Pairwise fun d e => targets.idxOf d < targets.idxOf e := by
  induction targets with
  | nil => exact List.Pairwise.nil
  | cons d ds ih =>
    have hlater : ∀ e, e ≠ d → (d :: ds).idxOf e = ds.idxOf e + 1 :=
      fun e he => List.idxOf_cons_ne _ he.symm
    have hrest : ∀ e ∈ (Merge.distinct ds).filter (· ≠ d), e ≠ d := fun e he => by
      simpa using (List.mem_filter.mp he).2
    rw [Merge.distinct, List.pairwise_cons]
    constructor
    · intro e he
      rw [List.idxOf_cons_self, hlater e (hrest e he)]
      exact Nat.succ_pos _
    · refine (ih.filter _).imp_of_mem fun {e f} he hf hlt => ?_
      rw [hlater e (hrest e he), hlater f (hrest f hf)]
      exact Nat.succ_lt_succ hlt

lemma found_ordered (texts targets : List Text) :
    ((found texts dir targets).map Prod.fst).Pairwise fun d e =>
      targets.idxOf d < targets.idxOf e := by
  rw [List.pairwise_map, found, List.pairwise_filterMap]
  refine (distinct_ordered targets).imp fun {d e} hlt x hx y hy => ?_
  obtain ⟨c, -, rfl⟩ := Option.map_eq_some_iff.mp hx
  obtain ⟨c', -, rfl⟩ := Option.map_eq_some_iff.mp hy
  exact hlt

lemma answers_kindred (hkin : Kindred t.root u.root) (hview : Alongside t u) (target : Text) :
    answers u dir target = answers t dir target := by
  ext s
  constructor
  · rintro ⟨q, ⟨hat, hnames⟩, rfl⟩
    exact ⟨q, ⟨hat.kindred hkin.symm hview.symm, hnames⟩, rfl⟩
  · rintro ⟨q, ⟨hat, hnames⟩, rfl⟩
    exact ⟨q, ⟨hat.kindred hkin hview, hnames⟩, rfl⟩

/-- What is found depends on what answers the targets. -/
lemma found_congr (ht : orderly t.root = true) (hu : orderly u.root = true)
    (h : ∀ target, answers u dir target = answers t dir target) (targets : List Text) :
    found (candidates u dir) dir targets = found (candidates t dir) dir targets := by
  have hfind : ∀ target, (candidates u dir).find? (isSourceOf target) =
      (candidates t dir).find? (isSourceOf target) := by
    intro target
    ext s
    rw [find?_candidates ht, find?_candidates hu, h]
  simp only [found, hfind]

/-- Whether a walk is given up. -/
def isTooDeep (t : FileTree) (dir : Path) : Bool :=
  (sights t dir).any fun s => s.isDir && t.host.walkLevels.any (· < s.place.length)

lemma isTooDeep_iff (h : orderly t.root = true) : isTooDeep t dir = true ↔ TooDeep t dir := by
  rw [isTooDeep, List.any_eq_true, TooDeep]
  constructor
  · rintro ⟨⟨q, folder⟩, hs, hdeep⟩
    obtain ⟨rfl, hdeep⟩ := Bool.and_eq_true_iff.mp hdeep
    cases hlevels : t.host.walkLevels with
    | none =>
      rw [hlevels] at hdeep
      cases hdeep
    | some levels =>
      rw [hlevels] at hdeep
      exact ⟨levels, rfl, q, (mem_sights h).mp hs, of_decide_eq_true hdeep⟩
  · rintro ⟨levels, hlevels, q, hseen, hdeep⟩
    refine ⟨⟨q, true⟩, (mem_sights h).mpr hseen, ?_⟩
    rw [Option.mem_def.mp hlevels]
    exact decide_eq_true hdeep

lemma lookup_eq (hname : t.misnamed? dir.toText = none) (targets : List Text) :
    lookup t dir targets =
      if isTooDeep t dir then .error .tooDeep else .ok (found (candidates t dir) dir targets) := by
  rw [lookup, hname]
  rfl

/-- No order of the entries in directories makes a difference. -/
lemma lookup_reordered (horderly : orderly t.root = true) (hname : t.misnamed? dir.toText = none)
    (targets : List Text) {root : Node} (h : Reordered t.root root) :
    lookup { t with root := root } dir targets = lookup t dir targets := by
  have hview : Alongside t { t with root := root } := ⟨rfl, rfl⟩
  have horderly' : orderly root = true := h.orderly_eq ▸ horderly
  have hdeep : isTooDeep { t with root := root } dir = isTooDeep t dir :=
    Bool.eq_iff_iff.mpr <| (isTooDeep_iff horderly').trans <|
      Iff.trans ⟨(·.kindred h.kindred.symm hview.symm), (·.kindred h.kindred hview)⟩
        (isTooDeep_iff horderly).symm
  rw [lookup_eq hname, lookup_eq ((hview.misnamed? _).trans hname), hdeep,
    found_congr horderly horderly' fun target => answers_kindred h.kindred hview target]

/-- The path of a source is that of the directory with the names of its place behind. -/
lemma join_place (horderly : orderly t.root = true) (h : SourceAt t dir q) :
    dir / Path.ofText (joinWith '/' q) = ⟨dir.root, dir.parts ++ q⟩ := by
  have hread : Path.ofText (joinWith '/' q) = ⟨.none, q⟩ :=
    PathNames.ofText_joinWith fun n hn => (h.isFileName horderly n hn).toIsName
  rw [hread, PathNames.join_relative rfl]

/-- A project in which one target has several sources, one of them behind a link, and another target
has a source among the tests only. -/
def project : FileTree where
  root :=
    let source : Node := .file [] false
    let package : Node := .dir (.cons "A.java".toList source .nil)
    .dir (.cons "lib".toList (.dir (.cons "b".toList package
        (.cons "test".toList (.dir (.cons "C.java".toList source .nil)) .nil)))
      (.cons "lib-old".toList (.dir (.cons "b".toList package .nil))
        (.cons "a".toList (.link "lib".toList) .nil)))
  here := []
  host := { walkLevels := some 2 }

/-- Steps down and up again, as many as the number says. -/
def detours (n : ℕ) : Path :=
  .ofText (joinWith '/' (List.replicate n "d/..".toList))

/-- A directory in which one with a long name holds a source. -/
def longNamed : FileTree where
  root :=
    let source : Node := .file [] false
    .dir (.cons "d".toList (.dir .nil)
      (.cons (List.replicate 250 'n') (.dir (.cons "A.java".toList source .nil)) .nil))
  here := []

end TestWeaver.Proofs.SourceLookup
