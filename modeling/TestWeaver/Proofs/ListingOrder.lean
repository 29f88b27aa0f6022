import Mathlib.Data.Option.Basic
import Mathlib.Order.Basic
import TestWeaver.Proofs.FileWalks
import TestWeaver.Proofs.RealPaths

/-!
Trees whose directories list their entries in another order.

Every place has a node of the same kind in both trees, so a walk comes to the same place. No
directory of an orderly tree has a name twice, and its names are ones that files can have; that does
not depend on the order either.
-/

namespace TestWeaver.Proofs.ListingOrder

open FileTree FileWalks RealPaths

variable {root root' node node' : Node} {es fs : Entries} {place q : Place}

mutual

/-- The same node, the entries of each directory in any order. -/
inductive Reordered : Node → Node → Prop
  | file (bs : Utf8.Octets) (x : Bool) : Reordered (.file bs x) (.file bs x)
  | link (target : Text) : Reordered (.link target) (.link target)
  | dir {es fs : Entries} (h : ReorderedIn es fs) : Reordered (.dir es) (.dir fs)

/-- The same entries in any order. -/
inductive ReorderedIn : Entries → Entries → Prop
  | nil : ReorderedIn .nil .nil
  | cons (n : Text) {e f : Node} {es fs : Entries} (hnode : Reordered e f)
      (hrest : ReorderedIn es fs) : ReorderedIn (.cons n e es) (.cons n f fs)
  | swap {m n : Text} (hne : m ≠ n) (e f : Node) (es : Entries) :
      ReorderedIn (.cons m e (.cons n f es)) (.cons n f (.cons m e es))
  | trans {es fs gs : Entries} (h : ReorderedIn es fs) (h' : ReorderedIn fs gs) :
      ReorderedIn es gs

end

/-! ### Nodes at places -/

lemma get?_cons (n m : Text) (e : Node) (es : Entries) (q : Place) :
    (Node.dir (.cons n e es)).get? (m :: q) =
      if n = m then e.get? q else (Node.dir es).get? (m :: q) := by
  show (if n = m then some e else es.find? m).bind _ = _
  split <;> rfl

/-- Nothing on both sides, or nodes of one kind. -/
abbrev Akin : Option Node → Option Node → Prop := Option.Rel Alike

lemma Akin.refl (x : Option Node) : Akin x x := by
  cases x with
  | none => exact .none
  | some node => exact .some (.refl node)

lemma Akin.trans {x y z : Option Node} (h : Akin x y) (h' : Akin y z) : Akin x z := by
  cases h with
  | none => exact h'
  | some h =>
    cases h' with
    | some h' => exact .some (h.trans h')

lemma Akin.symm {x y : Option Node} (h : Akin x y) : Akin y x := by
  cases h with
  | none => exact .none
  | some h => cases h <;> exact .some (by constructor)

/-- Every place has a node of the same kind in both trees, or none in either. -/
def Kindred (root root' : Node) : Prop := ∀ q, Akin (root.get? q) (root'.get? q)

lemma Kindred.symm (h : Kindred root root') : Kindred root' root := fun q => (h q).symm

lemma Kindred.grown (h : Kindred root root') : Grown root root' := by
  intro q node hq
  have hakin := h q
  rw [hq] at hakin
  generalize root'.get? q = x at hakin ⊢
  cases hakin with
  | some halike => exact ⟨_, rfl, halike⟩

/-- Reordering takes no node away and puts none in. -/
lemma Reordered.kindred (h : Reordered root root') : Kindred root root' := by
  intro q
  induction h using Reordered.rec
    (motive_2 := fun es fs _ => ∀ q, Akin ((Node.dir es).get? q) ((Node.dir fs).get? q))
    generalizing q with
  | file | link => exact .refl _
  | dir _ ih => exact ih q
  | nil => exact .refl _
  | cons n _ _ hnode hrest q =>
    cases q with
    | nil => exact .some .dir
    | cons m q =>
      rw [get?_cons, get?_cons]
      split
      · exact hnode q
      · exact hrest (m :: q)
  | swap hne e f es q =>
    cases q with
    | nil => exact .some .dir
    | cons k q =>
      rw [get?_cons, get?_cons, get?_cons, get?_cons]
      split
      · next hk =>
        subst hk
        rw [if_neg hne.symm]
        exact .refl _
      · exact .refl _
  | trans _ _ ih ih' q => exact (ih q).trans (ih' q)

/-! ### Walks to directories -/

lemma Kindred.isDir (h : Kindred root root') (hdir : IsDir root place) : IsDir root' place := by
  obtain ⟨es, hes⟩ := hdir
  obtain ⟨node', hnode', halike⟩ := h.grown _ _ hes
  cases halike
  exact ⟨_, hnode'⟩

/-- A walk that comes to a directory comes to the same place in both trees. -/
lemma Kindred.follow_dir (h : Kindred root root') {here : Place} {last : Bool} {s : Text}
    (hwalk : follow root here last s = .ok (place, some (.dir es))) :
    ∃ fs, follow root' here last s = .ok (place, some (.dir fs)) := by
  have hnode : some (.dir es) = root.get? place := by
    obtain ⟨-, -, hfrom⟩ := follow_eq_ok.mp hwalk
    exact followFrom_node hfrom
  obtain ⟨fs, hfs⟩ := h.isDir ⟨es, hnode.symm⟩
  exact ⟨fs, hfs ▸ follow_again h.grown hwalk nofun⟩

/-! ### Orderly trees -/

instance : DecidablePred IsFileName := fun n =>
  decidable_of_iff (PathNames.IsName n ∧ n ≠ PathNames.up)
    ⟨fun h => ⟨h.1, h.2⟩, fun h => ⟨h.1, h.2⟩⟩

mutual

/-- Whether all names below a node are ones that files can have, and no directory has one twice. -/
def orderly : Node → Bool
  | .file _ _ | .link _ => true
  | .dir es => orderlyIn es

def orderlyIn : Entries → Bool
  | .nil => true
  | .cons n e es => decide (IsFileName n) && (es.find? n).isNone && orderly e && orderlyIn es

end

lemma orderlyIn_cons {n : Text} {e : Node} :
    orderlyIn (.cons n e es) = true ↔
      IsFileName n ∧ es.find? n = none ∧ orderly e = true ∧ orderlyIn es = true := by
  simp [orderlyIn, and_assoc]

lemma orderly_entry {n : Text} (h : orderlyIn es = true) (hfind : es.find? n = some node) :
    IsFileName n ∧ orderly node = true := by
  induction es using Entries.rec (motive_1 := fun _ => True) with
  | file | link | dir => trivial
  | nil => cases hfind
  | cons m e rest _ ih =>
    obtain ⟨hm, -, he, hrest⟩ := orderlyIn_cons.mp h
    rw [Entries.find?] at hfind
    split at hfind
    · next hmn =>
      obtain rfl := Option.some.inj hfind
      exact ⟨hmn ▸ hm, he⟩
    · exact ih hrest hfind

lemma orderly_of_get? (h : orderly root = true) (hget : root.get? place = some node) :
    orderly node = true := by
  induction place generalizing root with
  | nil =>
    obtain rfl := Option.some.inj hget
    exact h
  | cons n ns ih =>
    cases root with
    | file | link => cases hget
    | dir es =>
      obtain ⟨e, he, hns⟩ := find?_of_get? hget
      exact ih (orderly_entry h he).2 hns

lemma isFileName_of_get? (h : orderly root = true) (hget : root.get? place = some node) :
    ∀ n ∈ place, IsFileName n := by
  induction place generalizing root with
  | nil => simp
  | cons n ns ih =>
    cases root with
    | file | link => cases hget
    | dir es =>
      obtain ⟨e, he, hns⟩ := find?_of_get? hget
      obtain ⟨hn, hbelow⟩ := orderly_entry h he
      exact List.forall_mem_cons.mpr ⟨hn, ih hbelow hns⟩

lemma get?_name (n : Text) (es : Entries) : (Node.dir es).get? [n] = es.find? n :=
  Option.bind_fun_some (es.find? n)

lemma ReorderedIn.isNone_find? (h : ReorderedIn es fs) (n : Text) :
    (es.find? n).isNone = (fs.find? n).isNone := by
  have hakin := (Reordered.dir h).kindred [n]
  rw [get?_name, get?_name] at hakin
  generalize es.find? n = x, fs.find? n = y at hakin
  cases hakin <;> rfl

lemma Reordered.orderly_eq (h : Reordered root root') : orderly root = orderly root' := by
  induction h using Reordered.rec (motive_2 := fun es fs _ => orderlyIn es = orderlyIn fs) with
  | file | link => rfl
  | dir _ ih => exact ih
  | nil => rfl
  | cons n _ hrest ihnode ihrest =>
    rw [orderlyIn, orderlyIn, hrest.isNone_find? n, ihnode, ihrest]
  | swap hne e f es =>
    rw [Bool.eq_iff_iff, orderlyIn_cons, orderlyIn_cons, orderlyIn_cons, orderlyIn_cons,
      Entries.find?, Entries.find?, if_neg hne, if_neg hne.symm]
    tauto
  | trans _ _ ih ih' => exact ih.trans ih'

end TestWeaver.Proofs.ListingOrder
