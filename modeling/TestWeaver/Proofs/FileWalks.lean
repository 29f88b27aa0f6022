import Mathlib.Data.Nat.Notation
import Mathlib.Tactic.Lemma
import TestWeaver.FileTree.Files

/-!
Walks through a tree that has grown.

A tree grows when files and directories are made and files are written: what there was stays, as a
file, a link with the same target or a directory. A walk that has arrived at a place arrives there
in every tree that has grown out of the first, so what was written is read again.
-/

namespace TestWeaver.Proofs.FileWalks

open FileTree

variable {root root' new : Node} {place q : Place}

/-! ### Nodes at places -/

lemma get?_append (place q : Place) (root : Node) :
    root.get? (place ++ q) = (root.get? place).bind (Node.get? q) := by
  induction place generalizing root with
  | nil => rfl
  | cons n ns ih =>
    cases root with
    | file | link => rfl
    | dir es =>
      show (es.find? n).bind (Node.get? (ns ++ q)) = ((es.find? n).bind (Node.get? ns)).bind _
      cases es.find? n with
      | none => rfl
      | some e => exact ih e

/-- There is a directory. -/
def IsDir (root : Node) (place : Place) : Prop := ∃ es, root.get? place = some (.dir es)

/-- What is above a node is a directory. -/
lemma isDir_of_below {n : Text} {ns : List Text} {node : Node}
    (h : root.get? (place ++ n :: ns) = some node) : IsDir root place := by
  rw [get?_append] at h
  cases hnode : root.get? place with
  | none =>
    rw [hnode] at h
    cases h
  | some e =>
    rw [hnode] at h
    cases e with
    | file | link => cases h
    | dir es => exact ⟨es, hnode⟩

lemma IsDir.dropLast (h : IsDir root place) : IsDir root place.dropLast := by
  rcases List.eq_nil_or_concat place with rfl | ⟨d, n, rfl⟩
  · exact h
  · obtain ⟨es, hes⟩ := h
    rw [List.concat_eq_append, List.dropLast_concat]
    rw [List.concat_eq_append] at hes
    exact isDir_of_below hes

lemma IsDir.top (h : IsDir root place) : IsDir root [] := by
  cases place with
  | nil => exact h
  | cons n ns =>
    obtain ⟨es, hes⟩ := h
    exact isDir_of_below hes

/-- The directory that a place is in is there. -/
def Within (root : Node) (place : Place) : Prop := ∀ d n, place = d ++ [n] → IsDir root d

lemma within_of_get? {node : Node} (h : root.get? place = some node) : Within root place := by
  rintro d n rfl
  exact isDir_of_below h

lemma IsDir.within (h : IsDir root place) (n : Text) : Within root (place ++ [n]) := by
  intro d m heq
  obtain ⟨rfl, -⟩ := List.append_inj' heq rfl
  exact h

/-! ### Putting a node at a place -/

lemma get?_put_same (n : Text) (ns q : Place) (es : Entries) :
    (Node.put new (n :: ns) (.dir es)).get? (n :: q) =
      (Node.put new ns ((es.find? n).getD (.dir .nil))).get? q := by
  show ((es.set n _).find? n).bind _ = _
  rw [Entries.find?_set_self, Option.bind_some]

lemma get?_put_other {n m : Text} (h : m ≠ n) (ns q : Place) (es : Entries) :
    (Node.put new (n :: ns) (.dir es)).get? (m :: q) = (Node.dir es).get? (m :: q) := by
  show ((es.set n _).find? m).bind _ = (es.find? m).bind _
  rw [Entries.find?_set_of_ne h]

lemma find?_of_get? {n : Text} {es : Entries} {node : Node}
    (h : (Node.dir es).get? (n :: q) = some node) :
    ∃ e, es.find? n = some e ∧ e.get? q = some node :=
  Option.bind_eq_some_iff.mp h

lemma get?_put_self (h : Within root place) (new : Node) :
    (Node.put new place root).get? place = some new := by
  induction place generalizing root with
  | nil => rfl
  | cons n ns ih =>
    have hwithin := h _ _ (List.dropLast_concat_getLast (List.cons_ne_nil n ns)).symm
    obtain ⟨es, hes⟩ := hwithin.top
    obtain rfl := Option.some.inj hes
    rw [get?_put_same]
    refine ih fun d m hns => ?_
    obtain ⟨fs, hfs⟩ := h (n :: d) m (congrArg (n :: ·) hns)
    obtain ⟨e, he, hd⟩ := find?_of_get? hfs
    exact ⟨fs, by rw [he]; exact hd⟩

/-! ### Growing -/

/-- Two nodes of one kind, links with one target. -/
inductive Alike : Node → Node → Prop
  | file {bs cs : Utf8.Octets} {x y : Bool} : Alike (.file bs x) (.file cs y)
  | link {target : Text} : Alike (.link target) (.link target)
  | dir {es fs : Entries} : Alike (.dir es) (.dir fs)

lemma Alike.refl (node : Node) : Alike node node := by
  cases node <;> constructor

lemma Alike.trans {a b c : Node} (h : Alike a b) (h' : Alike b c) : Alike a c := by
  cases h <;> cases h' <;> constructor

/-- What there is stays. -/
def Grown (root root' : Node) : Prop :=
  ∀ q node, root.get? q = some node → ∃ node', root'.get? q = some node' ∧ Alike node node'

lemma Grown.refl (root : Node) : Grown root root := fun _ node h => ⟨node, h, .refl node⟩

lemma Grown.trans {root'' : Node} (h : Grown root root') (h' : Grown root' root'') :
    Grown root root'' := by
  intro q node hq
  obtain ⟨node', hq', halike⟩ := h q node hq
  obtain ⟨node'', hq'', halike'⟩ := h' q node' hq'
  exact ⟨node'', hq'', halike.trans halike'⟩

/-- Something may be put at a place: there is nothing, or a file makes way for a file. -/
inductive Fits (new : Node) : Option Node → Prop
  | free : Fits new none
  | file {bs : Utf8.Octets} {x : Bool} (h : new.isFile = true) : Fits new (some (.file bs x))

lemma grown_put (h : Fits new (root.get? place)) : Grown root (Node.put new place root) := by
  induction place generalizing root with
  | nil =>
    change Fits new (some root) at h
    cases h with
    | file hfile =>
      rintro (_ | ⟨m, q⟩) node hnode
      · obtain rfl := Option.some.inj hnode
        cases new with
        | file cs y => exact ⟨_, rfl, .file⟩
        | link | dir => cases hfile
      · cases hnode
  | cons n ns ih =>
    cases root with
    | file | link => exact .refl _
    | dir es =>
      rintro (_ | ⟨m, q⟩) node hnode
      · obtain rfl := Option.some.inj hnode
        exact ⟨_, rfl, .dir⟩
      by_cases hm : m = n
      · subst hm
        obtain ⟨e, he, hq⟩ := find?_of_get? hnode
        change Fits new ((es.find? m).bind _) at h
        rw [he] at h
        rw [get?_put_same, he]
        exact ih h q node hq
      · rw [get?_put_other hm]
        exact ⟨node, hnode, .refl node⟩

/-- Files elsewhere stay as they are. -/
lemma get?_put_of_ne {bs : Utf8.Octets} {x : Bool} (h : Fits new (root.get? place))
    (hne : q ≠ place) (hq : root.get? q = some (.file bs x)) :
    (Node.put new place root).get? q = some (.file bs x) := by
  induction place generalizing root q with
  | nil =>
    change Fits new (some root) at h
    cases h with
    | file hfile =>
      rcases q with _ | ⟨m, q⟩
      · exact absurd rfl hne
      · cases hq
  | cons n ns ih =>
    cases root with
    | file | link => exact hq
    | dir es =>
      rcases q with _ | ⟨m, q⟩
      · cases hq
      by_cases hm : m = n
      · subst hm
        obtain ⟨e, he, heq⟩ := find?_of_get? hq
        change Fits new ((es.find? m).bind _) at h
        rw [he] at h
        rw [get?_put_same, he]
        exact ih h (fun hcons => hne (congrArg (m :: ·) hcons)) heq
      · rwa [get?_put_other hm]

/-! ### Walks -/

/-- What a walk through directories comes to: a place in one, or a link in one. -/
def Told (root : Node) : Leg → Prop
  | .arrived place _ => Within root place
  | .met d _ _ => IsDir root d
  | .stopped _ => True

lemma leg_told (last : Bool) {here : Place} (ns : List Text) (h : IsDir root here) :
    Told root (leg root last here ns) := by
  fun_induction leg root last here ns with
  | case1 here => exact within_of_get? h.choose_spec
  | case2 here n ns _ ih => exact ih h
  | case3 here ns _ ih => exact ih h.dropLast
  | case4 | case6 | case10 => trivial
  | case5 here n => exact h.within n
  | case7 here n => exact h.within n
  | case8 => exact h
  | case9 here n => exact h.within n
  | case11 here n => exact h.within n
  | case12 here n ns _ _ _ es hnode _ ih => exact ih ⟨es, hnode⟩

/-- The node at the end of a walk is the one at that place. -/
lemma leg_node {last : Bool} {here : Place} {ns : List Text} {node : Option Node}
    (h : leg root last here ns = .arrived place node) : node = root.get? place := by
  fun_induction leg root last here ns with
  | case1 => cases h; rfl
  | case2 here n ns _ ih => exact ih h
  | case3 here ns _ ih => exact ih h
  | case4 | case6 | case8 | case10 => cases h
  | case5 here n _ _ _ hnode => cases h; exact hnode.symm
  | case7 here n ns _ _ _ t hnode => cases h; exact hnode.symm
  | case9 here n _ _ _ bs x hnode => cases h; exact hnode.symm
  | case11 here n _ _ _ es hnode => cases h; exact hnode.symm
  | case12 here n ns _ _ _ es hnode _ ih => exact ih h

/-- What a walk comes to in another tree if it comes to `l` in one: the same place, unless there was
nothing and is a link now, or the same link. -/
def Again (root' : Node) : Leg → Leg → Prop
  | .arrived place node, l =>
    (node = none → ∀ t, root'.get? place ≠ some (.link t)) → l = .arrived place (root'.get? place)
  | .met d t rest, l => l = .met d t rest
  | .stopped _, _ => True

lemma leg_again (hgrown : Grown root root') (last : Bool) (here : Place) (ns : List Text) :
    Again root' (leg root last here ns) (leg root' last here ns) := by
  fun_induction leg root last here ns with
  | case1 here => exact fun _ => rfl
  | case2 here n ns hdot ih => rwa [leg, if_pos hdot]
  | case3 here ns hdots ih => rwa [leg, if_neg hdots, if_pos rfl]
  | case4 | case6 | case10 => trivial
  | case5 here n hdot hdots hlong hnode =>
    -- There was nothing: a link that has been put there since would be followed.
    intro hlink
    rw [leg, if_neg hdot, if_neg hdots, if_neg hlong]
    cases hnode' : root'.get? (here ++ [n]) with
    | none => rfl
    | some node' =>
      cases node' with
      | file | dir => rfl
      | link t => exact absurd hnode' (hlink rfl t)
  | case7 here n ns hdot hdots hlong t hnode hlast =>
    intro _
    obtain ⟨node', hnode', halike⟩ := hgrown _ _ hnode
    cases halike
    rw [leg, if_neg hdot, if_neg hdots, if_neg hlong, hnode']
    exact if_pos hlast
  | case8 here n ns hdot hdots hlong t hnode hlast =>
    obtain ⟨node', hnode', halike⟩ := hgrown _ _ hnode
    cases halike
    show leg root' last here (n :: ns) = _
    rw [leg, if_neg hdot, if_neg hdots, if_neg hlong, hnode']
    exact if_neg hlast
  | case9 here n hdot hdots hlong bs x hnode =>
    intro _
    obtain ⟨node', hnode', halike⟩ := hgrown _ _ hnode
    cases halike
    rw [leg, if_neg hdot, if_neg hdots, if_neg hlong, hnode']
    rfl
  | case11 here n hdot hdots hlong es hnode =>
    intro _
    obtain ⟨node', hnode', halike⟩ := hgrown _ _ hnode
    cases halike
    rw [leg, if_neg hdot, if_neg hdots, if_neg hlong, hnode']
    rfl
  | case12 here n ns hdot hdots hlong es hnode hns ih =>
    obtain ⟨node', hnode', halike⟩ := hgrown _ _ hnode
    cases halike
    rw [leg.eq_def root' last here (n :: ns)]
    dsimp only
    rw [if_neg hdot, if_neg hdots, if_neg hlong, hnode']
    dsimp only
    rwa [if_neg hns]

lemma startOf_isDir {here : Place} (h : IsDir root here) (s : Text) :
    IsDir root (startOf here s) := by
  unfold startOf
  split
  · exact h.top
  · exact h

lemma followFrom_node {last : Bool} {links : ℕ} {here : Place} {ns : List Text}
    {node : Option Node} (h : followFrom root last links here ns = .ok (place, node)) :
    node = root.get? place := by
  fun_induction followFrom root last links here ns with
  | case1 links here ns q node' hleg =>
    cases h
    exact leg_node hleg
  | case2 | case3 => cases h
  | case4 here ns d target rest hleg n ih => exact ih h

lemma followFrom_told {last : Bool} {links : ℕ} {here : Place} {ns : List Text}
    {node : Option Node} (h : IsDir root here)
    (hwalk : followFrom root last links here ns = .ok (place, node)) : Within root place := by
  have htold := leg_told last ns h
  fun_induction followFrom root last links here ns with
  | case1 links here ns q node' hleg =>
    rw [hleg] at htold
    cases hwalk
    exact htold
  | case2 | case3 => cases hwalk
  | case4 here ns d target rest hleg n ih =>
    rw [hleg] at htold
    have hstart := startOf_isDir htold target
    exact ih hstart hwalk (leg_told last _ hstart)

/-- A walk that has arrived arrives there again. -/
lemma followFrom_again (hgrown : Grown root root') {last : Bool} {links : ℕ} {here : Place}
    {ns : List Text} {node : Option Node}
    (hwalk : followFrom root last links here ns = .ok (place, node))
    (hlink : node = none → ∀ t, root'.get? place ≠ some (.link t)) :
    followFrom root' last links here ns = .ok (place, root'.get? place) := by
  have hagain := leg_again hgrown last here ns
  fun_induction followFrom root last links here ns with
  | case1 links here ns q node' hleg =>
    cases hwalk
    rw [hleg] at hagain
    rw [followFrom, hagain hlink]
  | case2 | case3 => cases hwalk
  | case4 here ns d target rest hleg n ih =>
    -- The link has the same target in both trees, and the walk goes on from there.
    rw [hleg] at hagain
    rw [followFrom, hagain]
    exact ih hwalk (leg_again hgrown last _ _)

lemma follow_eq_ok {here : Place} {last : Bool} {s : Text} {r : Place × Option Node} :
    follow root here last s = .ok r ↔
      s ≠ [] ∧ (Utf8.encode s).length ≤ maxPathOctets ∧
        followFrom root last maxLinks (startOf here s) (stepsOf s) = .ok r := by
  unfold follow
  split
  · next hempty => simp [hempty]
  · next hempty =>
    split
    · next hlong => simp [Nat.not_le_of_lt hlong]
    · next hlong => simp [hempty, Nat.le_of_not_lt hlong]

lemma follow_again (hgrown : Grown root root') {here : Place} {last : Bool} {s : Text}
    {node : Option Node} (hwalk : follow root here last s = .ok (place, node))
    (hlink : node = none → ∀ t, root'.get? place ≠ some (.link t)) :
    follow root' here last s = .ok (place, root'.get? place) := by
  obtain ⟨hempty, hlong, hwalk⟩ := follow_eq_ok.mp hwalk
  exact follow_eq_ok.mpr ⟨hempty, hlong, followFrom_again hgrown hwalk hlink⟩

/-! ### Paths -/

variable {t u : FileTree} {p : Path} {last : Bool} {node : Option Node}

/-- The current directory is there. -/
def Sound (t : FileTree) : Prop := IsDir t.root t.here

/-- The two trees are seen from one directory on one machine. -/
structure Alongside (t u : FileTree) : Prop where
  here : u.here = t.here
  host : u.host = t.host

lemma Alongside.symm (h : Alongside t u) : Alongside u t := ⟨h.here.symm, h.host.symm⟩

lemma Alongside.misnamed? (h : Alongside t u) (s : Text) : u.misnamed? s = t.misnamed? s := by
  rw [FileTree.misnamed?, FileTree.misnamed?, h.host]

lemma locate_eq_ok {r : Place × Option Node} :
    t.locate last p = .ok r ↔
      t.misnamed? p.toText = none ∧ follow t.root t.here last p.toText = .ok r := by
  unfold locate
  dsimp only
  split
  · next e hname => simp only [hname, reduceCtorEq, false_and]
  · next hname =>
    split
    · next r' hfollow => simp only [hname, hfollow, true_and, Except.ok.injEq]
    · next c hfollow => simp only [hfollow, reduceCtorEq, and_false]

lemma locate_node (h : t.locate last p = .ok (place, node)) : node = t.root.get? place := by
  obtain ⟨-, hfollow⟩ := locate_eq_ok.mp h
  obtain ⟨-, -, hwalk⟩ := follow_eq_ok.mp hfollow
  exact followFrom_node hwalk

lemma locate_told (h : Sound t) (hwalk : t.locate last p = .ok (place, node)) :
    node = t.root.get? place ∧ Within t.root place := by
  refine ⟨locate_node hwalk, ?_⟩
  obtain ⟨-, hfollow⟩ := locate_eq_ok.mp hwalk
  obtain ⟨-, -, hwalk⟩ := follow_eq_ok.mp hfollow
  exact followFrom_told (startOf_isDir h _) hwalk

lemma locate_again (hgrown : Grown t.root u.root) (hview : Alongside t u)
    (hwalk : t.locate last p = .ok (place, node))
    (hlink : node = none → ∀ s, u.root.get? place ≠ some (.link s)) :
    u.locate last p = .ok (place, u.root.get? place) := by
  obtain ⟨hname, hfollow⟩ := locate_eq_ok.mp hwalk
  refine locate_eq_ok.mpr ⟨by rw [hview.misnamed?, hname], ?_⟩
  rw [hview.here]
  exact follow_again hgrown hfollow hlink

lemma readOctets_iff {bs : Utf8.Octets} :
    t.readOctets p = .ok bs ↔ ∃ place x, t.locate true p = .ok (place, some (.file bs x)) := by
  unfold readOctets stat
  cases h : t.locate true p with
  | error e => simp [Except.bind]
  | ok r =>
    obtain ⟨place, _ | node⟩ := r
    · simp [Except.bind]
    · cases node <;> simp [Except.bind]

/-- A file is read at the place at which the walk arrived before. -/
lemma read_again (hgrown : Grown t.root u.root) (hview : Alongside t u)
    (hwalk : t.locate true p = .ok (place, node)) {bs : Utf8.Octets} {x : Bool}
    (hfile : u.root.get? place = some (.file bs x)) : u.readOctets p = .ok bs := by
  have hagain := locate_again hgrown hview hwalk fun _ target => by
    rw [hfile]
    nofun
  rw [hfile] at hagain
  exact readOctets_iff.mpr ⟨place, x, hagain⟩

lemma locate_inj {place' : Place} {node' : Option Node}
    (h : t.locate last p = .ok (place, node)) (h' : t.locate last p = .ok (place', node')) :
    place = place' := by
  rw [h] at h'
  exact (Prod.mk.inj (Except.ok.inj h')).1

/-! ### Changes -/

/-- Nothing is lost from one tree to the other, and files that are not excepted stay as they are. -/
structure Kept (excepted : Place → Prop) (t u : FileTree) : Prop extends Alongside t u where
  grown : Grown t.root u.root
  files : ∀ {q bs x}, ¬ excepted q → t.root.get? q = some (.file bs x) →
    u.root.get? q = some (.file bs x)

lemma Kept.refl (excepted : Place → Prop) (t : FileTree) : Kept excepted t t :=
  ⟨⟨rfl, rfl⟩, .refl _, fun _ h => h⟩

lemma Kept.trans {excepted : Place → Prop} {v : FileTree} (h : Kept excepted t u)
    (h' : Kept excepted u v) : Kept excepted t v where
  here := h'.here.trans h.here
  host := h'.host.trans h.host
  grown := h.grown.trans h'.grown
  files hq hfile := h'.files hq (h.files hq hfile)

lemma Kept.mono {excepted excepted' : Place → Prop} (h : Kept excepted t u)
    (himp : ∀ q, excepted q → excepted' q) : Kept excepted' t u where
  toAlongside := h.toAlongside
  grown := h.grown
  files hq := h.files fun hq' => hq (himp _ hq')

lemma Kept.sound {excepted : Place → Prop} (h : Kept excepted t u) (ht : Sound t) : Sound u := by
  obtain ⟨es, hes⟩ := ht
  obtain ⟨node, hnode, halike⟩ := h.grown _ _ hes
  cases halike
  rw [Sound, h.here]
  exact ⟨_, hnode⟩

lemma kept_put {node : Node} {excepted : Place → Prop} (h : Fits node (t.root.get? place))
    (hplace : node.isFile = true → excepted place) :
    Kept excepted t { t with root := Node.put node place t.root } where
  here := rfl
  host := rfl
  grown := grown_put h
  files := by
    intro q bs x hq hfile
    refine get?_put_of_ne h ?_ hfile
    rintro rfl
    rw [hfile] at h
    cases h with
    | file hnode => exact hq (hplace hnode)

/-- A file that is not excepted is read as before. -/
lemma Kept.readOctets {excepted : Place → Prop} (h : Kept excepted t u) {bs : Utf8.Octets}
    {x : Bool} (hwalk : t.locate true p = .ok (place, some (.file bs x))) (ht : Sound t)
    (hplace : ¬ excepted place) : u.readOctets p = .ok bs :=
  read_again h.grown h.toAlongside hwalk (h.files hplace (locate_told ht hwalk).1.symm)

/-- A change of the octets of a file changes the file at the place that the path leads to. -/
lemma update_ok (ht : Sound t) {change : Utf8.Octets → Utf8.Octets}
    (h : t.update p change = .ok u) :
    ∃ place node old x, t.locate true p = .ok (place, node) ∧
      u.root.get? place = some (.file (change old) x) ∧ Kept (· = place) t u := by
  unfold update at h
  cases hwalk : t.locate true p with
  | error e =>
    rw [hwalk] at h
    cases h
  | ok r =>
    obtain ⟨place, node⟩ := r
    obtain ⟨hnode, hwithin⟩ := locate_told ht hwalk
    rw [hwalk] at h
    rcases node with _ | ⟨old, x⟩ | s | es
    · obtain rfl := Except.ok.inj h
      refine ⟨place, none, [], false, rfl, get?_put_self hwithin _, kept_put ?_ fun _ => rfl⟩
      rw [← hnode]
      exact .free
    · obtain rfl := Except.ok.inj h
      refine ⟨place, _, old, x, rfl, get?_put_self hwithin _, kept_put ?_ fun _ => rfl⟩
      rw [← hnode]
      exact .file rfl
    · cases h
    · cases h

/-- Writing changes the file at the place that the path leads to. -/
lemma writeOctets_ok (ht : Sound t) {bs : Utf8.Octets} (h : t.writeOctets p bs = .ok u) :
    ∃ place node x, t.locate true p = .ok (place, node) ∧
      u.root.get? place = some (.file bs x) ∧ Kept (· = place) t u := by
  obtain ⟨place, node, -, x, hwritten⟩ := update_ok ht h
  exact ⟨place, node, x, hwritten⟩

lemma make_dir_ok (ht : Sound t) {es : Entries} (h : t.make p (.dir es) = .ok u) :
    Kept (fun _ => False) t u := by
  unfold make at h
  cases hwalk : t.locate false p with
  | error e =>
    rw [hwalk] at h
    cases h
  | ok r =>
    obtain ⟨place, node⟩ := r
    obtain ⟨hnode, -⟩ := locate_told ht hwalk
    rw [hwalk] at h
    cases node with
    | some node => cases h
    | none =>
      obtain rfl := Except.ok.inj h
      refine kept_put ?_ nofun
      rw [← hnode]
      exact .free

lemma orPresent_ok {x : Outcome FileTree} (h : t.orPresent p x = .ok u) : x = .ok u ∨ u = t := by
  unfold orPresent at h
  cases x with
  | ok v => exact .inl h
  | error e =>
    dsimp only at h
    split at h
    · cases h
    · cases hdir : t.isDir p with
      | error e' =>
        rw [hdir] at h
        cases h
      | ok there =>
        rw [hdir] at h
        cases there with
        | false => cases h
        | true => exact .inr (Except.ok.inj h).symm

/-- A directory is made, or is there already. -/
lemma orPresent_make_ok (ht : Sound t) {es : Entries}
    (h : t.orPresent p (t.make p (.dir es)) = .ok u) : Kept (fun _ => False) t u := by
  rcases orPresent_ok h with h | rfl
  · exact make_dir_ok ht h
  · exact .refl _ _

lemma makeDirsIn_ok {n : ℕ} (ht : Sound t) (h : t.makeDirsIn p n = .ok u) :
    Kept (fun _ => False) t u := by
  induction n generalizing p u with
  | zero =>
    rw [makeDirsIn] at h
    split at h
    · split at h <;> cases h
    · exact orPresent_make_ok ht h
  | succ n ih =>
    rw [makeDirsIn] at h
    split at h
    · split at h
      · cases h
      · cases habove : t.makeDirsIn p.parent n with
        | error e =>
          rw [habove] at h
          cases h
        | ok v =>
          rw [habove] at h
          have hv := ih habove
          exact hv.trans (orPresent_make_ok (hv.sound ht) h)
    · exact orPresent_make_ok ht h

/-- Making directories leaves all files as they are. -/
lemma makeDirs_ok (ht : Sound t) (h : t.makeDirs p = .ok u) : Kept (fun _ => False) t u :=
  makeDirsIn_ok ht h

end TestWeaver.Proofs.FileWalks
