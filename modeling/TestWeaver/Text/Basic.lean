/-!
Text as the list of its code points, with the searches and cuts the library is written in.

A text has *rows*, which only the newline character ends, so the last row may be empty:
`rows` and `unrows` are inverse to each other. The wider notion of a line is in
`TestWeaver.Text.Lines`.
-/

namespace TestWeaver

/-- The code points of a text, in order. -/
abbrev Text := List Char

instance : LawfulBEq Text := inferInstance

namespace Text

/-- What follows `mark` in a text that starts with it. -/
def after? : Text → Text → Option Text
  | [], s => some s
  | _ :: _, [] => none
  | c :: m, d :: s => if c = d then after? m s else none

def startsWith (s mark : Text) : Bool := (after? mark s).isSome

def endsWith (s mark : Text) : Bool := startsWith s.reverse mark.reverse

/-- The first of the `marks` that the text starts with, and what follows it. -/
def afterAny? (marks : List Text) (s : Text) : Option (Text × Text) :=
  marks.findSome? fun m => (after? m s).map (m, ·)

/-- The texts before and after the first occurrence of `mark`. -/
def cut? (mark : Text) : Text → Option (Text × Text)
  | [] => (after? mark []).map ([], ·)
  | c :: s =>
    match after? mark (c :: s) with
    | some r => some ([], r)
    | none => (cut? mark s).map fun p => (c :: p.1, p.2)

def includes (mark s : Text) : Bool := (cut? mark s).isSome

/-- The pieces between the occurrences of one character; a text without it is one piece. -/
def splitAt (sep : Char) : Text → List Text
  | [] => [[]]
  | c :: s =>
    if c = sep then [] :: splitAt sep s
    else
      match splitAt sep s with
      | [] => [[c]]
      | p :: ps => (c :: p) :: ps

/-- The pieces with one character between each two. -/
def joinWith (sep : Char) : List Text → Text
  | [] => []
  | [p] => p
  | p :: ps => p ++ sep :: joinWith sep ps

/-- The texts before and after the last occurrence of a character. -/
def cutLast? (sep : Char) : Text → Option (Text × Text)
  | [] => none
  | c :: s =>
    match cutLast? sep s with
    | some (a, b) => some (c :: a, b)
    | none => if c = sep then some ([], s) else none

abbrev rows (s : Text) : List Text := splitAt '\n' s

abbrev unrows (rs : List Text) : Text := joinWith '\n' rs

def replaceChar (old new : Char) (s : Text) : Text := s.map fun c => if c = old then new else c

/-- The items from `0` up to `n`; a negative `n` counts from the end. -/
def upTo {α : Type} (n : Int) (s : List α) : List α :=
  if 0 ≤ n then s.take n.toNat else s.take (s.length - (-n).toNat)

@[simp] theorem after?_nil (s : Text) : after? [] s = some s := by simp [after?]

theorem eq_append_of_after? {m s r : Text} (h : after? m s = some r) : s = m ++ r := by
  induction m generalizing s with
  | nil => simpa using h
  | cons c m ih =>
    cases s with
    | nil => simp [after?] at h
    | cons d s =>
      by_cases hc : c = d
      · simp only [after?, hc, if_true] at h
        simp [hc, ih h]
      · simp [after?, hc] at h

theorem after?_append (m r : Text) : after? m (m ++ r) = some r := by
  induction m with
  | nil => simp
  | cons c m ih => simp [after?, ih]

theorem after?_eq_some_iff {m s r : Text} : after? m s = some r ↔ s = m ++ r :=
  ⟨eq_append_of_after?, fun h => h ▸ after?_append m r⟩

theorem startsWith_iff {s m : Text} : startsWith s m = true ↔ m <+: s := by
  rw [startsWith, Option.isSome_iff_exists]
  simp only [after?_eq_some_iff]
  exact ⟨fun ⟨r, h⟩ => ⟨r, h.symm⟩, fun ⟨r, h⟩ => ⟨r, h.symm⟩⟩

theorem endsWith_iff {s m : Text} : endsWith s m = true ↔ m <:+ s := by
  rw [endsWith, startsWith_iff, List.reverse_prefix]

theorem cut?_eq_some {mark s a b : Text} (h : cut? mark s = some (a, b)) :
    s = a ++ (mark ++ b) := by
  induction s generalizing a with
  | nil =>
    obtain ⟨r, hr, heq⟩ := Option.map_eq_some_iff.mp h
    obtain ⟨rfl, rfl⟩ := Prod.mk.inj heq
    rw [List.nil_append]
    exact eq_append_of_after? hr
  | cons c s ih =>
    rw [cut?] at h
    split at h
    · next r hr =>
      obtain ⟨rfl, rfl⟩ := Prod.mk.inj (Option.some.inj h)
      rw [List.nil_append]
      exact eq_append_of_after? hr
    · obtain ⟨⟨a', b'⟩, hcut, heq⟩ := Option.map_eq_some_iff.mp h
      obtain ⟨rfl, rfl⟩ := Prod.mk.inj heq
      rw [ih hcut]
      rfl

/-- A text that holds the mark is cut. -/
theorem exists_cut? (mark a b : Text) : ∃ p, cut? mark (a ++ (mark ++ b)) = some p := by
  induction a with
  | nil =>
    have hread := after?_append mark b
    rcases hs : mark ++ b with _ | ⟨c, s⟩
    · rw [hs] at hread
      exact ⟨([], b), by rw [List.nil_append, cut?, hread]; rfl⟩
    · rw [hs] at hread
      exact ⟨([], b), by rw [List.nil_append, cut?, hread]⟩
  | cons c a ih =>
    obtain ⟨p, hp⟩ := ih
    rw [List.cons_append, cut?, hp]
    split
    · exact ⟨_, rfl⟩
    · exact ⟨_, rfl⟩

theorem includes_iff {m s : Text} : includes m s = true ↔ m <:+: s := by
  rw [includes, Option.isSome_iff_exists]
  constructor
  · rintro ⟨⟨a, b⟩, h⟩
    exact ⟨a, b, by rw [cut?_eq_some h, List.append_assoc]⟩
  · rintro ⟨a, b, rfl⟩
    rw [List.append_assoc]
    exact exists_cut? m a b

theorem splitAt_ne_nil (sep : Char) (s : Text) : splitAt sep s ≠ [] := by
  cases s with
  | nil => simp [splitAt]
  | cons c s =>
    unfold splitAt
    split
    · simp
    · split <;> simp

theorem joinWith_splitAt (sep : Char) (s : Text) : joinWith sep (splitAt sep s) = s := by
  induction s with
  | nil => rfl
  | cons c s ih =>
    unfold splitAt
    split
    · next h =>
      subst h
      cases hs : splitAt c s with
      | nil => exact absurd hs (splitAt_ne_nil c s)
      | cons p ps => simp [joinWith, ← hs, ih]
    · cases hs : splitAt sep s with
      | nil => exact absurd hs (splitAt_ne_nil sep s)
      | cons p ps =>
        rw [hs] at ih
        cases ps with
        | nil => simpa [joinWith] using ih
        | cons q qs => simp [joinWith] at ih ⊢; exact ih

theorem unrows_rows (s : Text) : unrows (rows s) = s := joinWith_splitAt '\n' s

end Text

end TestWeaver
