import TestWeaver.Proofs.ImportRows
import TestWeaver.Text.Lines

/-!
The lines of texts that are put together.

A newline between two texts keeps their lines apart, whatever breaks they hold themselves, except
that it may end the last line of the first one or stand on a line of its own. So the lines of rows
put together are those of the parts with empty lines between them. Where only newlines break lines,
lines are rows, less an empty row at the end.
-/

namespace TestWeaver.Proofs.LineText

open Text RowText ImportRows

/-- A character in front of the first line. -/
def consLine (c : Char) : List Text → List Text
  | [] => [[c]]
  | l :: ls => (c :: l) :: ls

/-- A carriage return that belongs to the newline behind it. -/
def Joined (c : Char) (s : Text) : Prop := c = '\r' ∧ s.head? = some '\n'

lemma lines_of_joined {c : Char} {s : Text} (h : Joined c s) : lines (c :: s) = lines s := by
  simp [lines, h.1, h.2]

lemma lines_of_break {c : Char} {s : Text} (hb : isLineBreak c = true) (h : ¬ Joined c s) :
    lines (c :: s) = [] :: lines s := by
  have hr : (c = '\r' && s.head? = some '\n') = false := by simpa [Joined] using h
  rw [lines, hr, if_neg Bool.false_ne_true, if_pos hb]

lemma lines_of_not_break {c : Char} (hb : isLineBreak c = false) (s : Text) :
    lines (c :: s) = consLine c (lines s) := by
  have hr : (c = '\r' && s.head? = some '\n') = false := by
    have hc : c ≠ '\r' := by
      rintro rfl
      exact absurd hb (by decide)
    simp [hc]
  rw [lines, hr, if_neg Bool.false_ne_true, hb, if_neg Bool.false_ne_true]
  cases lines s <;> rfl

lemma lines_newline (s : Text) : lines ('\n' :: s) = [] :: lines s :=
  lines_of_break (by decide) fun h => absurd h.1 (by decide)

/-- What the first character does to the lines, case by case. -/
lemma lines_cases (c : Char) (s : Text) :
    (Joined c s ∧ lines (c :: s) = lines s) ∨
      (isLineBreak c = true ∧ ¬ Joined c s ∧ lines (c :: s) = [] :: lines s) ∨
      (isLineBreak c = false ∧ lines (c :: s) = consLine c (lines s)) := by
  by_cases hj : Joined c s
  · exact .inl ⟨hj, lines_of_joined hj⟩
  · rcases hb : isLineBreak c with _ | _
    · exact .inr (.inr ⟨rfl, lines_of_not_break hb s⟩)
    · exact .inr (.inl ⟨rfl, hj, lines_of_break hb hj⟩)

lemma lines_ne_nil {s : Text} (h : s ≠ []) : lines s ≠ [] := by
  induction s with
  | nil => exact absurd rfl h
  | cons c s ih =>
    rcases lines_cases c s with ⟨hj, hs⟩ | ⟨-, -, hs⟩ | ⟨-, hs⟩
    · rw [hs]
      refine ih ?_
      rintro rfl
      cases hj.2
    · rw [hs]
      exact List.cons_ne_nil _ _
    · rw [hs]
      cases lines s with
      | nil => exact List.cons_ne_nil _ _
      | cons l ls => exact List.cons_ne_nil _ _

lemma consLine_append {ls : List Text} (h : ls ≠ []) (c : Char) (ms : List Text) :
    consLine c (ls ++ ms) = consLine c ls ++ ms := by
  cases ls with
  | nil => exact absurd rfl h
  | cons l ls => rfl

/-- The first line is what the text starts with. -/
lemma prefix_of_head_lines {s l : Text} (h : (lines s).head? = some l) : l <+: s := by
  induction s generalizing l with
  | nil => cases h
  | cons c s ih =>
    rcases lines_cases c s with ⟨⟨-, hn⟩, hs⟩ | ⟨-, -, hs⟩ | ⟨-, hs⟩
    · obtain ⟨t, rfl⟩ := List.head?_eq_some_iff.mp hn
      rw [hs, lines_newline] at h
      obtain rfl := Option.some.inj h
      exact List.nil_prefix
    · rw [hs] at h
      obtain rfl := Option.some.inj h
      exact List.nil_prefix
    · rw [hs] at h
      rcases hl : lines s with _ | ⟨m, ms⟩
      · rw [hl] at h
        obtain rfl := Option.some.inj h
        exact ⟨s, rfl⟩
      · rw [hl] at h
        obtain rfl := Option.some.inj h
        exact (List.cons_prefix_cons).mpr ⟨rfl, ih (by rw [hl]; rfl)⟩

/-- A line is a part of its text. -/
lemma infix_of_mem_lines {s l : Text} (h : l ∈ lines s) : l <:+: s := by
  induction s with
  | nil => cases h
  | cons c s ih =>
    have hbelow : l ∈ lines s → l <:+: c :: s := fun hl => List.infix_cons (ih hl)
    rcases lines_cases c s with ⟨-, hs⟩ | ⟨-, -, hs⟩ | ⟨-, hs⟩
    · exact hbelow (hs ▸ h)
    · rw [hs, List.mem_cons] at h
      rcases h with rfl | h
      · exact List.nil_infix
      · exact hbelow h
    · have hfirst : (lines (c :: s)).head? = some l → l <:+: c :: s :=
        fun hl => (prefix_of_head_lines hl).isInfix
      rw [hs] at h hfirst
      rcases hl : lines s with _ | ⟨m, ms⟩
      · rw [hl, consLine, List.mem_singleton] at h
        exact hfirst (by rw [hl, h]; rfl)
      · rw [hl, consLine, List.mem_cons] at h
        rcases h with h | h
        · exact hfirst (by rw [hl, h]; rfl)
        · exact hbelow (by rw [hl]; exact List.mem_cons_of_mem _ h)

/-! ### Texts put together -/

/-- Behind a line break the lines begin anew. -/
lemma lines_append {a b : Text} (ha : ∀ c ∈ a.getLast?, isLineBreak c = true)
    (hb : b.head? ≠ some '\n') : lines (a ++ b) = lines a ++ lines b := by
  induction a with
  | nil => rfl
  | cons c a ih =>
    by_cases hnil : a = []
    · subst hnil
      have hc : isLineBreak c = true := ha c rfl
      rw [List.cons_append, List.nil_append, lines_of_break hc fun h => hb h.2,
        lines_of_break hc fun h => by cases h.2]
      rfl
    · have hlast : (c :: a).getLast? = a.getLast? := List.getLast?_cons_of_ne_nil hnil
      have ih := ih (hlast ▸ ha)
      have hhead : (a ++ b).head? = a.head? := List.head?_append_of_ne_nil a hnil
      have hjoined : Joined c (a ++ b) ↔ Joined c a := by rw [Joined, Joined, hhead]
      rw [List.cons_append]
      rcases lines_cases c a with ⟨hj, hs⟩ | ⟨hbreak, hj, hs⟩ | ⟨hbreak, hs⟩
      · rw [lines_of_joined (hjoined.mpr hj), ih, hs]
      · rw [lines_of_break hbreak (mt hjoined.mp hj), ih, hs]
        rfl
      · rw [lines_of_not_break hbreak, ih, hs, consLine_append (lines_ne_nil hnil)]

/-- A newline between two texts keeps their lines apart, perhaps with an empty one between. -/
lemma lines_append_newline (a b : Text) :
    ∃ gap, (∀ l ∈ gap, l = []) ∧ lines (a ++ '\n' :: b) = lines a ++ gap ++ lines b := by
  by_cases hnil : a = []
  · subst hnil
    exact ⟨[[]], by simp, by rw [List.nil_append, lines_newline]; rfl⟩
  induction a with
  | nil => exact absurd rfl hnil
  | cons c a ih =>
    by_cases ha : a = []
    · subst ha
      rw [List.cons_append, List.nil_append]
      rcases hc : isLineBreak c with _ | _
      · refine ⟨[], by simp, ?_⟩
        rw [lines_of_not_break hc, lines_of_not_break hc, lines_newline]
        rfl
      · have hone : lines [c] = [[]] := lines_of_break hc fun h => by cases h.2
        by_cases hr : c = '\r'
        · refine ⟨[], by simp, ?_⟩
          rw [lines_of_joined ⟨hr, rfl⟩, hone, lines_newline]
          rfl
        · refine ⟨[[]], by simp, ?_⟩
          rw [lines_of_break hc fun h => hr h.1, hone, lines_newline]
          rfl
    · obtain ⟨gap, hgap, hlines⟩ := ih ha
      have hhead : (a ++ '\n' :: b).head? = a.head? := List.head?_append_of_ne_nil a ha
      have hjoined : Joined c (a ++ '\n' :: b) ↔ Joined c a := by rw [Joined, Joined, hhead]
      refine ⟨gap, hgap, ?_⟩
      rw [List.cons_append]
      rcases lines_cases c a with ⟨hj, hs⟩ | ⟨hbreak, hj, hs⟩ | ⟨hbreak, hs⟩
      · rw [lines_of_joined (hjoined.mpr hj), hlines, hs]
      · rw [lines_of_break hbreak (mt hjoined.mp hj), hlines, hs]
        rfl
      · rw [lines_of_not_break hbreak, hlines, hs, List.append_assoc,
          consLine_append (lines_ne_nil ha), List.append_assoc]

/-- The lines of rows put together: those of both parts, with empty ones between. -/
lemma lines_unrows_append (above below : List Text) :
    ∃ gap, (∀ l ∈ gap, l = []) ∧
      lines (unrows (above ++ below)) = lines (unrows above) ++ gap ++ lines (unrows below) := by
  by_cases ha : above = []
  · subst ha
    exact ⟨[], by simp, rfl⟩
  by_cases hb : below = []
  · subst hb
    refine ⟨[], by simp, ?_⟩
    rw [List.append_nil, List.append_nil]
    exact (List.append_nil _).symm
  · rw [unrows_append ha hb]
    exact lines_append_newline _ _

/-! ### Texts that only newlines break -/

/-- Only newlines end lines. -/
def OnlyNewlines (s : Text) : Prop := ∀ c ∈ s, isLineBreak c = true → c = '\n'

instance : DecidablePred OnlyNewlines := fun s => List.decidableBAll _ s

/-- No character of the row ends a line. -/
def OneLine (r : Text) : Prop := ∀ c ∈ r, isLineBreak c = false

lemma lines_of_oneLine {r : Text} (h : OneLine r) (hne : r ≠ []) : lines r = [r] := by
  induction r with
  | nil => exact absurd rfl hne
  | cons c r ih =>
    obtain ⟨hc, hr⟩ := List.forall_mem_cons.mp h
    rw [lines_of_not_break hc]
    by_cases hnil : r = []
    · subst hnil
      rfl
    · rw [ih hr hnil]
      rfl

lemma lines_oneLine_newline {r : Text} (h : OneLine r) (s : Text) :
    lines (r ++ '\n' :: s) = r :: lines s := by
  induction r with
  | nil => exact lines_newline s
  | cons c r ih =>
    obtain ⟨hc, hr⟩ := List.forall_mem_cons.mp h
    rw [List.cons_append, lines_of_not_break hc, ih hr]
    rfl

/-- The lines of such rows are the rows, but for an empty one at the end. -/
lemma lines_unrows {rs : List Text} (h : ∀ r ∈ rs, OneLine r) :
    rs = lines (unrows rs) ∨ rs = lines (unrows rs) ++ [[]] := by
  induction rs with
  | nil => exact .inl rfl
  | cons r rs ih =>
    obtain ⟨hr, hrs⟩ := List.forall_mem_cons.mp h
    by_cases hnil : rs = []
    · subst hnil
      by_cases hempty : r = []
      · subst hempty
        exact .inr rfl
      · exact .inl (lines_of_oneLine hr hempty).symm
    · rw [unrows, joinWith_cons r hnil, lines_oneLine_newline hr]
      rcases ih hrs with ih | ih
      · exact .inl (congrArg _ ih)
      · exact .inr (congrArg _ ih)

lemma mem_of_mem_rows {s r : Text} {c : Char} (hr : r ∈ rows s) (hc : c ∈ r) : c ∈ s := by
  have hall : ∀ rs : List Text, r ∈ rs → c ∈ unrows rs := by
    intro rs
    induction rs with
    | nil => exact fun h => by cases h
    | cons q rs ih =>
      intro h
      obtain ⟨t, ht⟩ := exists_joinWith_cons '\n' q rs
      rcases List.mem_cons.mp h with rfl | h
      · rw [unrows, ht]
        exact List.mem_append_left _ hc
      · rw [unrows, joinWith_cons q (List.ne_nil_of_mem h)]
        exact List.mem_append_right _ (List.mem_cons_of_mem _ (ih h))
  have hmem := hall (rows s) hr
  rwa [unrows_rows] at hmem

lemma OnlyNewlines.oneLine {s : Text} (h : OnlyNewlines s) : ∀ r ∈ rows s, OneLine r := by
  intro r hr c hc
  rcases hb : isLineBreak c with _ | _
  · rfl
  · exact absurd (h c (mem_of_mem_rows hr hc) hb ▸ hc) (not_mem_of_mem_splitAt hr)

end TestWeaver.Proofs.LineText
