import Mathlib.Data.List.Infix
import Mathlib.Order.Bounds.Basic
import TestWeaver.Layout.Convention
import TestWeaver.Proofs.RowText

/-!
Looking for a source root in a path, piece by piece.

A convention looks for its source root as a text between slashes. Slashes begin and end pieces, so
that is the same as looking for the pieces of the root among those of the path, with something
behind them.
-/

namespace TestWeaver.Proofs.RootSearch

open Text RowText

/-! ### Pieces, each with a slash in front -/

def slashed (ps : List Text) : Text := ps.flatMap ('/' :: ·)

@[simp] lemma slashed_nil : slashed [] = [] := rfl

@[simp] lemma slashed_cons (p : Text) (ps : List Text) :
    slashed (p :: ps) = '/' :: (p ++ slashed ps) := rfl

@[simp] lemma slashed_append (ps qs : List Text) : slashed (ps ++ qs) = slashed ps ++ slashed qs :=
  List.flatMap_append

lemma joinWith_eq_slashed (p : Text) (ps : List Text) :
    joinWith '/' (p :: ps) = p ++ slashed ps := by
  induction ps generalizing p with
  | nil => simp [joinWith]
  | cons q qs ih => rw [joinWith_cons p (List.cons_ne_nil q qs), ih q, slashed_cons]

lemma slash_joinWith {ps : List Text} (h : ps ≠ []) : '/' :: joinWith '/' ps = slashed ps := by
  obtain ⟨p, ps, rfl⟩ := List.exists_cons_of_ne_nil h
  rw [joinWith_eq_slashed, slashed_cons]

lemma slash_eq_slashed (s : Text) : '/' :: s = slashed (splitAt '/' s) := by
  rw [← slash_joinWith (splitAt_ne_nil '/' s), joinWith_splitAt]

lemma slashed_drop_one {ps : List Text} (h : ps ≠ []) : (slashed ps).drop 1 = joinWith '/' ps := by
  rw [← slash_joinWith h]
  rfl

/-! ### The search -/

/-- The pieces before and behind the first place where the pieces of a root stand with something
behind them. -/
def cutRoot? (root : List Text) : List Text → Option (List Text × List Text)
  | [] => none
  | p :: ps =>
    if root <+: p :: ps ∧ root.length < (p :: ps).length then some ([], (p :: ps).drop root.length)
    else (cutRoot? root ps).map fun q => (p :: q.1, q.2)

/-- A piece is followed by a slash, or by nothing. -/
def Slashes (s : Text) : Prop := ∀ c ∈ s.head?, c = '/'

lemma slashes_slashed (ps : List Text) : Slashes (slashed ps) := by
  cases ps with
  | nil => simp [Slashes]
  | cons p ps => simp [Slashes]

/-- A text is read piece by piece. -/
lemma after?_piece {r q m s : Text} (hr : '/' ∉ r) (hq : '/' ∉ q) (hm : m.head? = some '/')
    (hs : Slashes s) : after? (r ++ m) (q ++ s) = if r = q then after? m s else none := by
  induction r generalizing q with
  | nil =>
    obtain ⟨m, rfl⟩ := List.head?_eq_some_iff.mp hm
    cases q with
    | nil => simp
    | cons c q =>
      have hc : '/' ≠ c := (List.ne_and_not_mem_of_not_mem_cons hq).1
      simp [after?, hc]
  | cons d r ih =>
    obtain ⟨hd, hr⟩ := List.ne_and_not_mem_of_not_mem_cons hr
    cases q with
    | nil =>
      cases s with
      | nil => simp [after?]
      | cons c s =>
        obtain rfl : c = '/' := hs c rfl
        simp [after?, Ne.symm hd]
    | cons c q =>
      have hq' := (List.ne_and_not_mem_of_not_mem_cons hq).2
      by_cases hdc : d = c
      · subst hdc
        simpa [after?] using ih hr hq'
      · simp [after?, hdc]

/-- The pieces of a root and a slash are read off just where the pieces stand in front of others. -/
lemma after?_slashed {root ps : List Text} (hroot : ∀ r ∈ root, '/' ∉ r) (hps : ∀ p ∈ ps, '/' ∉ p) :
    after? (slashed root ++ ['/']) (slashed ps) =
      if root <+: ps ∧ root.length < ps.length then some (joinWith '/' (ps.drop root.length))
      else none := by
  induction root generalizing ps with
  | nil =>
    cases ps with
    | nil => simp [after?]
    | cons p ps => simp [after?, joinWith_eq_slashed]
  | cons r root ih =>
    obtain ⟨hr, hroot⟩ := List.forall_mem_cons.mp hroot
    cases ps with
    | nil => simp [after?]
    | cons p ps =>
      obtain ⟨hp, hps⟩ := List.forall_mem_cons.mp hps
      have hm : (slashed root ++ ['/']).head? = some '/' := by cases root <;> rfl
      rw [slashed_cons, slashed_cons, List.cons_append, after?, if_pos rfl, List.append_assoc,
        after?_piece hr hp hm (slashes_slashed ps), ih hroot hps]
      by_cases hrp : r = p
      · subst hrp
        simp [List.cons_prefix_cons]
      · simp [List.cons_prefix_cons, hrp]

/-- No mark that begins with a slash begins inside a piece. -/
lemma cut?_piece {p : Text} (hp : '/' ∉ p) (m s : Text) :
    cut? ('/' :: m) (p ++ s) = (cut? ('/' :: m) s).map fun q => (p ++ q.1, q.2) := by
  induction p with
  | nil => simp
  | cons c p ih =>
    obtain ⟨hc, hp⟩ := List.ne_and_not_mem_of_not_mem_cons hp
    have hnone : after? ('/' :: m) (c :: (p ++ s)) = none := by simp [after?, hc]
    rw [List.cons_append, cut?, hnone, ih hp]
    simp [Option.map_map, Function.comp_def]

lemma cut?_slashed {root ps : List Text} (hne : root ≠ []) (hroot : ∀ r ∈ root, '/' ∉ r)
    (hps : ∀ p ∈ ps, '/' ∉ p) :
    cut? (slashed root ++ ['/']) (slashed ps) =
      (cutRoot? root ps).map fun q => (slashed q.1, joinWith '/' q.2) := by
  obtain ⟨r, root', rfl⟩ := List.exists_cons_of_ne_nil hne
  induction ps with
  | nil => simp [cut?, after?, cutRoot?]
  | cons p ps ih =>
    obtain ⟨hp, hrest⟩ := List.forall_mem_cons.mp hps
    have hread := after?_slashed hroot hps
    rw [slashed_cons p ps] at hread ⊢
    rw [cut?, hread]
    by_cases hhere : r :: root' <+: p :: ps ∧ (r :: root').length < (p :: ps).length
    · rw [cutRoot?, if_pos hhere, if_pos hhere]
      rfl
    · rw [cutRoot?, if_neg hhere, if_neg hhere]
      rw [slashed_cons, List.cons_append] at ih ⊢
      rw [cut?_piece hp, ih hrest]
      simp [Option.map_map, Function.comp_def]

lemma cutRoot?_eq_some {root ps above below : List Text}
    (h : cutRoot? root ps = some (above, below)) :
    ps = above ++ root ++ below ∧ below ≠ [] ∧
      ∀ a b, ps = a ++ root ++ b → b ≠ [] → above.length ≤ a.length := by
  induction ps generalizing above with
  | nil => cases h
  | cons p ps ih =>
    rw [cutRoot?] at h
    split at h
    · next hhere =>
      obtain ⟨rfl, rfl⟩ := Prod.mk.inj (Option.some.inj h)
      refine ⟨?_, ?_, fun a b _ _ => Nat.zero_le _⟩
      · rw [List.nil_append]
        exact (List.prefix_iff_eq_append.mp hhere.1).symm
      · intro hnil
        have := List.drop_eq_nil_iff.mp hnil
        omega
    · next hnot =>
      obtain ⟨⟨a', b'⟩, hcut, heq⟩ := Option.map_eq_some_iff.mp h
      obtain ⟨rfl, rfl⟩ := Prod.mk.inj heq
      obtain ⟨hps, hbelow, hfirst⟩ := ih hcut
      refine ⟨by rw [hps]; rfl, hbelow, fun a b hab hb => ?_⟩
      cases a with
      | nil =>
        refine absurd ⟨⟨b, by rw [hab]; rfl⟩, ?_⟩ hnot
        have := List.length_pos_iff.mpr hb
        simp [hab]
        omega
      | cons c a =>
        obtain ⟨-, hab⟩ := List.cons.inj hab
        exact Nat.succ_le_succ (hfirst a b hab hb)

lemma exists_cutRoot? {root above below : List Text} (h : below ≠ []) :
    ∃ q, cutRoot? root (above ++ root ++ below) = some q := by
  induction above with
  | nil =>
    rw [List.nil_append]
    have hlen := List.length_pos_iff.mpr h
    rcases hps : root ++ below with _ | ⟨p, ps⟩
    · exact absurd (List.append_eq_nil_iff.mp hps).2 h
    · refine ⟨_, by rw [cutRoot?, if_pos ⟨⟨below, hps⟩, ?_⟩]⟩
      rw [← hps, List.length_append]
      omega
  | cons a above ih =>
    obtain ⟨q, hq⟩ := ih
    rw [List.cons_append, List.cons_append, cutRoot?, hq]
    split
    · exact ⟨_, rfl⟩
    · exact ⟨_, rfl⟩

/-- A convention puts the pieces of its test root where those of its source root are. -/
lemma testPath?_eq (c : Layout.Convention) (path : Text) :
    c.testPath? path = (cutRoot? (splitAt '/' c.sourceRoot) (splitAt '/' path)).map fun q =>
      joinWith '/' (q.1 ++ splitAt '/' c.testRoot ++ q.2) := by
  have hmark : '/' :: c.sourceRoot ++ ['/'] = slashed (splitAt '/' c.sourceRoot) ++ ['/'] := by
    rw [← slash_eq_slashed]
  rw [Layout.Convention.testPath?, hmark, slash_eq_slashed path,
    cut?_slashed (splitAt_ne_nil _ _) (fun _ => not_mem_of_mem_splitAt)
      (fun _ => not_mem_of_mem_splitAt), Option.map_map]
  refine Option.map_congr fun q hq => ?_
  obtain ⟨-, hbelow, -⟩ := cutRoot?_eq_some hq
  have hne : q.1 ++ splitAt '/' c.testRoot ++ q.2 ≠ [] := by simp [hbelow]
  show (slashed q.1 ++ '/' :: c.testRoot ++ '/' :: joinWith '/' q.2).drop 1 = _
  rw [slash_eq_slashed c.testRoot, slash_joinWith hbelow, ← slashed_append, ← slashed_append,
    slashed_drop_one hne]

/-- A path to which a convention applies, and what becomes of it. -/
lemma exists_of_testPath? {c : Layout.Convention} {path t : Text} (h : c.testPath? path = some t) :
    ∃ above below, path = joinWith '/' (above ++ splitAt '/' c.sourceRoot ++ below) ∧
      t = joinWith '/' (above ++ splitAt '/' c.testRoot ++ below) ∧ below ≠ [] ∧
      (∀ p ∈ above, '/' ∉ p) ∧ ∀ p ∈ below, '/' ∉ p := by
  rw [testPath?_eq] at h
  obtain ⟨⟨above, below⟩, hcut, rfl⟩ := Option.map_eq_some_iff.mp h
  obtain ⟨hpieces, hbelow, -⟩ := cutRoot?_eq_some hcut
  have hslash : ∀ p ∈ above ++ splitAt '/' c.sourceRoot ++ below, '/' ∉ p := by
    rw [← hpieces]
    exact fun p => not_mem_of_mem_splitAt
  obtain ⟨hfront, hback⟩ := List.forall_mem_append.mp hslash
  exact ⟨above, below, by rw [← hpieces, joinWith_splitAt], rfl, hbelow,
    (List.forall_mem_append.mp hfront).1, hback⟩

/-! ### Places -/

/-- From the piece at `i` on the root stands among the pieces, with something behind it. -/
def StandsAt (root ps : List Text) (i : ℕ) : Prop :=
  (ps.drop i).take root.length = root ∧ i + root.length < ps.length

lemma take_append_append_drop {root ps : List Text} {i : ℕ}
    (h : (ps.drop i).take root.length = root) :
    ps.take i ++ root ++ ps.drop (i + root.length) = ps := by
  rw [List.append_assoc, ← List.drop_drop]
  conv_lhs => rhs; lhs; rw [← h]
  rw [List.take_append_drop, List.take_append_drop]

lemma standsAt_length {root above below : List Text} (h : below ≠ []) :
    StandsAt root (above ++ root ++ below) above.length := by
  have := List.length_pos_iff.mpr h
  refine ⟨by simp, ?_⟩
  simp only [List.length_append]
  omega

/-- The search finds the first place. -/
lemma isLeast_of_cutRoot? {root ps above below : List Text}
    (h : cutRoot? root ps = some (above, below)) :
    IsLeast {i | StandsAt root ps i} above.length := by
  obtain ⟨rfl, hbelow, hfirst⟩ := cutRoot?_eq_some h
  refine ⟨standsAt_length hbelow, fun i hi => ?_⟩
  have hle := hfirst _ _ (take_append_append_drop hi.1).symm
    (by simpa [List.drop_eq_nil_iff] using hi.2)
  exact hle.trans (List.length_take_le i _)

lemma cutRoot?_of_standsAt {root ps : List Text} {i : ℕ} (h : StandsAt root ps i) :
    ∃ q, cutRoot? root ps = some q := by
  rw [← take_append_append_drop h.1]
  exact exists_cutRoot? (by simpa [List.drop_eq_nil_iff] using h.2)

/-- The pieces around a place tell the result of the search. -/
lemma cutRoot?_iff {root ps above below : List Text} :
    cutRoot? root ps = some (above, below) ↔
      ∃ i, IsLeast {i | StandsAt root ps i} i ∧ above = ps.take i ∧
        below = ps.drop (i + root.length) := by
  constructor
  · intro h
    obtain ⟨rfl, -, -⟩ := cutRoot?_eq_some h
    exact ⟨_, isLeast_of_cutRoot? h, by simp, by simp⟩
  · rintro ⟨i, hi, rfl, rfl⟩
    obtain ⟨⟨a, b⟩, hcut⟩ := cutRoot?_of_standsAt hi.1
    obtain rfl := hi.unique (isLeast_of_cutRoot? hcut)
    obtain ⟨rfl, -, -⟩ := cutRoot?_eq_some hcut
    simpa using hcut

lemma cutRoot?_eq_none_iff {root ps : List Text} :
    cutRoot? root ps = none ↔ ¬ ∃ i, StandsAt root ps i := by
  refine ⟨fun hnone ⟨i, hi⟩ => ?_, fun hnot => ?_⟩
  · obtain ⟨q, hq⟩ := cutRoot?_of_standsAt hi
    rw [hnone] at hq
    cases hq
  · by_contra h
    obtain ⟨⟨a, b⟩, hcut⟩ := Option.ne_none_iff_exists'.mp h
    exact hnot ⟨_, (isLeast_of_cutRoot? hcut).1⟩

/-- **A convention works on whole names**: it leaves out a path whose names are nowhere those of
the source root with something behind them, and puts the names of the test root in their place
where they first stand. -/
theorem testPath?_places (c : Layout.Convention) (path : Text) :
    let ps := splitAt '/' path
    let root := splitAt '/' c.sourceRoot
    (c.testPath? path = none ↔ ¬ ∃ i, StandsAt root ps i) ∧
      ∀ t, c.testPath? path = some t ↔
        ∃ i, IsLeast {i | StandsAt root ps i} i ∧
          path = joinWith '/' (ps.take i ++ root ++ ps.drop (i + root.length)) ∧
          t = joinWith '/' (ps.take i ++ splitAt '/' c.testRoot ++ ps.drop (i + root.length)) := by
  intro ps root
  rw [testPath?_eq]
  refine ⟨Option.map_eq_none_iff.trans cutRoot?_eq_none_iff, fun t => ⟨fun h => ?_, ?_⟩⟩
  · obtain ⟨⟨a, b⟩, hcut, rfl⟩ := Option.map_eq_some_iff.mp h
    obtain ⟨i, hi, rfl, rfl⟩ := cutRoot?_iff.mp hcut
    refine ⟨i, hi, ?_, rfl⟩
    rw [take_append_append_drop hi.1.1, joinWith_splitAt]
  · rintro ⟨i, hi, -, rfl⟩
    rw [cutRoot?_iff.mpr ⟨i, hi, rfl, rfl⟩]
    rfl

/-- Between two slashes stands a name, also an empty one. -/
example : (⟨[], "test".toList⟩ : Layout.Convention).testPath? "a//B.java".toList =
    some "a/test/B.java".toList := by decide

end TestWeaver.Proofs.RootSearch
