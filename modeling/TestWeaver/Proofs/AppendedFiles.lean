import TestWeaver.Proofs.ListingOrder
import TestWeaver.Proofs.WrittenMerge

/-!
Appending to a file that is there: the file at the place of the path is longer then, and every path
to another place reads as before, if it reads at all.
-/

namespace TestWeaver.Proofs.AppendedFiles

open FileTree FileWalks ListingOrder
open WrittenMerge (SamePlace)

variable {t u : FileTree} {p : Path} {root new : Node} {place : Place} {old : Utf8.Octets}
  {x : Bool}

/-- A file in place of a file leaves a node of the same kind at every place. -/
lemma kindred_put (hnew : new.isFile = true) (hfile : root.get? place = some (.file old x)) :
    Kindred root (Node.put new place root) := by
  induction place generalizing root with
  | nil =>
    obtain rfl := Option.some.inj hfile
    cases new with
    | link | dir => cases hnew
    | file bs y =>
      rintro (_ | ⟨m, q⟩)
      · exact .some .file
      · exact .none
  | cons n ns ih =>
    cases root with
    | file | link => cases hfile
    | dir es =>
      obtain ⟨e, he, hns⟩ := find?_of_get? hfile
      rintro (_ | ⟨m, q⟩)
      · exact .some .dir
      by_cases hm : m = n
      · subst hm
        have hbelow : (Node.dir es).get? (m :: q) = e.get? q := by
          show (es.find? m).bind _ = _
          rw [he]
          rfl
        rw [get?_put_same, he, hbelow]
        exact ih hns q
      · rw [get?_put_other hm]
        exact .refl _

/-- Between trees with nodes of the same kind, what is kept one way is kept the other way, too. -/
lemma kept_back {excepted : Place → Prop} (h : Kept excepted t u)
    (hkindred : Kindred t.root u.root) : Kept excepted u t where
  here := h.here.symm
  host := h.host.symm
  grown := hkindred.symm.grown
  files := by
    intro q bs y hq hfile
    obtain ⟨node, hnode, halike⟩ := hkindred.symm.grown _ _ hfile
    cases halike
    rw [← hfile, h.files hq hnode, hnode]

/-- Octets have been put at the end of the file that a path leads to, and nothing else has been
done. -/
structure Appended (t : FileTree) (p : Path) (bs : Utf8.Octets) (u : FileTree) : Prop where
  read : ∃ old, t.readOctets p = .ok old ∧ u.readOctets p = .ok (old ++ bs)
  others : ∀ q, ¬ SamePlace t p q → ∀ cs, u.readOctets q = .ok cs ↔ t.readOctets q = .ok cs

lemma append_ok (ht : Sound t) (hread : t.readOctets p = .ok old) (bs : Utf8.Octets) :
    ∃ u, t.appendOctets p bs = .ok u ∧ Sound u ∧ u.here = t.here ∧ Appended t p bs u := by
  obtain ⟨place, x, hwalk⟩ := readOctets_iff.mp hread
  obtain ⟨hnode, hwithin⟩ := locate_told ht hwalk
  let u : FileTree := { t with root := Node.put (.file (old ++ bs) x) place t.root }
  have hu : t.appendOctets p bs = .ok u := by
    rw [appendOctets, update, hwalk]
    rfl
  have hkept : Kept (· = place) t u := by
    refine kept_put ?_ fun _ => rfl
    rw [← hnode]
    exact .file rfl
  have hback : Kept (· = place) u t := kept_back hkept (kindred_put rfl hnode.symm)
  refine ⟨u, hu, hkept.sound ht, rfl, ⟨old, hread, ?_⟩, fun q hq cs => ⟨fun h => ?_, fun h => ?_⟩⟩
  · exact read_again hkept.grown hkept.toAlongside hwalk (get?_put_self hwithin _)
  · obtain ⟨there, y, hwalkq⟩ := readOctets_iff.mp h
    refine hback.readOctets hwalkq (hkept.sound ht) ?_
    -- The path led to the same place before.
    rintro rfl
    exact hq ⟨_, _, _, hwalk, locate_again hback.grown hback.toAlongside hwalkq nofun⟩
  · obtain ⟨there, y, hwalkq⟩ := readOctets_iff.mp h
    refine hkept.readOctets hwalkq ht ?_
    rintro rfl
    exact hq ⟨_, _, _, hwalk, hwalkq⟩

end TestWeaver.Proofs.AppendedFiles
