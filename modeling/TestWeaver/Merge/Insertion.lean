import TestWeaver.Text.Basic

/-!
An edit that only adds rows: every merge of this library is one, or none at all.
-/

namespace TestWeaver.Merge

/-- New rows and the number of rows that stay in front of them. -/
structure Insertion where
  position : Nat
  added : List Text
deriving DecidableEq, Repr

namespace Insertion

def apply (i : Insertion) (rows : List Text) : List Text :=
  rows.take i.position ++ i.added ++ rows.drop i.position

/-- Takes the inserted rows out again. -/
def undo (i : Insertion) (rows : List Text) : List Text :=
  rows.take i.position ++ rows.drop (i.position + i.added.length)

/-- The edit of a whole text. -/
def applyText (i : Insertion) (s : Text) : Text := Text.unrows (i.apply (Text.rows s))

theorem undo_apply {i : Insertion} {rows : List Text} (h : i.position ≤ rows.length) :
    i.undo (i.apply rows) = rows := by
  have hl : (rows.take i.position).length = i.position := by simp [h]
  unfold undo apply
  rw [List.append_assoc, List.take_left' hl, ← List.append_assoc,
    List.drop_left' (by simp [hl]), List.take_append_drop]

theorem length_apply {i : Insertion} {rows : List Text} :
    (i.apply rows).length = rows.length + i.added.length := by
  simp only [apply, List.length_append, List.length_take, List.length_drop]
  omega

end Insertion

end TestWeaver.Merge
