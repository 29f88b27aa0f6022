import Mathlib.Data.List.Basic
import TestWeaver.Source.Scan

/-!
What one line can do to the scan, case by case, and the invariant that every case keeps.

All later facts about a scan are read off `step_move` and `Good`; none of them opens `step`.
-/

namespace TestWeaver.Proofs.ScanMoves

open Source

/-- A header on this line is a whole member: its body closes on the line, or it has none. -/
def StandsAlone (l : Text) : Prop :=
  if l.contains '{' then braceDelta l ≤ 0 else Text.endsWith (Text.trimEnd l) [';'] = true

instance (l : Text) : Decidable (StandsAlone l) := by
  unfold StandsAlone; infer_instance

/-- The skip event of line `n`. -/
def skipped (n : Int) : ScanEvent := ⟨.skip, n, none⟩

/-- Everything that line `l`, being number `n`, can do in state `s`. -/
inductive Move (l : Text) (n : Int) (s : ScanState) : ScanState → Option ScanEvent → Prop
  | comment (hc : isCommentOrBlank l = true) : Move l n s s (some (skipped n))
  | closes (m : Member) (hc : isCommentOrBlank l = false) (hp : s.phase = .inBody)
      (hm : s.pending = some m) (ho : s.opened = true ∨ '{' ∈ l)
      (hd : s.depth + braceDelta l ≤ 0) :
      Move l n s { phase := .seekingMember }
        (some ⟨.memberEnd, n, some { m with endLine := n }⟩)
  | stays (hc : isCommentOrBlank l = false) (hp : s.phase = .inBody)
      (hn : s.pending ≠ none → s.opened = true ∨ '{' ∈ l → 0 < s.depth + braceDelta l) :
      Move l n s
        { s with depth := max (s.depth + braceDelta l) 0, opened := s.opened || l.contains '{' }
        none
  | type (hc : isCommentOrBlank l = false) (hp : s.phase ≠ .inBody)
      (ht : declaresType (dropAnnotations l) = true) :
      Move l n s { s with phase := .seekingMember } (some (skipped n))
  | before (hc : isCommentOrBlank l = false) (hp : s.phase = .seekingUnit)
      (ht : declaresType (dropAnnotations l) = false) : Move l n s s (some (skipped n))
  | other (e : Option ScanEvent) (hc : isCommentOrBlank l = false) (hp : s.phase = .seekingMember)
      (ht : declaresType (dropAnnotations l) = false) (hm : member? l n = none)
      (he : e = none ∨ e = some (skipped n)) : Move l n s s e
  | alone (m : Member) (hc : isCommentOrBlank l = false) (hp : s.phase = .seekingMember)
      (ht : declaresType (dropAnnotations l) = false) (hm : member? l n = some m)
      (ha : StandsAlone l) : Move l n s s (some ⟨.memberEnd, n, some m⟩)
  | opens (m : Member) (hc : isCommentOrBlank l = false) (hp : s.phase = .seekingMember)
      (ht : declaresType (dropAnnotations l) = false) (hm : member? l n = some m)
      (ha : ¬ StandsAlone l) :
      Move l n s ⟨.inBody, if '{' ∈ l then braceDelta l else 0, l.contains '{', some m⟩
        (some ⟨.memberStart, n, some m⟩)

lemma bodyStep_move {s : ScanState} {l : Text} {n : Int} (hc : isCommentOrBlank l = false)
    (hp : s.phase = .inBody) : Move l n s (bodyStep s l n).1 (bodyStep s l n).2 := by
  have hstays : (s.pending ≠ none → s.opened = true ∨ '{' ∈ l → 0 < s.depth + braceDelta l) →
      Move l n s
        { s with depth := max (s.depth + braceDelta l) 0, opened := s.opened || l.contains '{' }
        none := .stays hc hp
  rcases hm : s.pending with _ | m
  · simpa [bodyStep, hm] using hstays
  by_cases hb : (s.opened = true ∨ '{' ∈ l) ∧ s.depth + braceDelta l ≤ 0
  · have hclose : (s.opened || l.contains '{') && decide (s.depth + braceDelta l ≤ 0) := by
      simpa using hb
    simp only [bodyStep, hm, hclose]
    exact .closes m hc hp hm hb.1 hb.2
  · have hopen : ((s.opened || l.contains '{') && decide (s.depth + braceDelta l ≤ 0)) = false := by
      simpa using hb
    simp only [bodyStep, hm, hopen] at hstays ⊢
    refine hstays fun _ ho => ?_
    by_contra hd
    exact hb ⟨ho, by omega⟩

lemma memberStep_move {s : ScanState} {l : Text} {n : Int} {m : Member}
    (hc : isCommentOrBlank l = false) (hp : s.phase = .seekingMember)
    (ht : declaresType (dropAnnotations l) = false) (hm : member? l n = some m) :
    Move l n s (memberStep s m l n).1 (memberStep s m l n).2 := by
  have hopen : ¬ StandsAlone l → Move l n s
      ⟨.inBody, if '{' ∈ l then braceDelta l else 0, l.contains '{', some m⟩
      (some ⟨.memberStart, n, some m⟩) := .opens m hc hp ht hm
  have halone : StandsAlone l → Move l n s s (some ⟨.memberEnd, n, some m⟩) :=
    .alone m hc hp ht hm
  unfold memberStep
  by_cases hb : l.contains '{' = true
  · have hmem : '{' ∈ l := by simpa using hb
    simp only [StandsAlone, hb, hmem, if_true] at hopen halone ⊢
    split
    · next hd => exact halone hd
    · next hd => exact hopen hd
  · have hmem : '{' ∉ l := by simpa using hb
    simp only [StandsAlone, hb, hmem, if_false, Bool.false_eq_true] at hopen halone ⊢
    split
    · next hd => exact halone hd
    · next hd => simpa using hopen hd

/-- **One line makes one of the moves.** -/
theorem step_move (s : ScanState) (l : Text) (n : Int) :
    Move l n s (step s l n).1 (step s l n).2 := by
  unfold step
  by_cases hc : isCommentOrBlank l = true
  · rw [if_pos hc]
    exact .comment hc
  rw [if_neg hc]
  have hc : isCommentOrBlank l = false := by simpa using hc
  by_cases hb : s.phase = .inBody
  · rw [if_pos hb]
    exact bodyStep_move hc hb
  rw [if_neg hb]
  by_cases ht : declaresType (dropAnnotations l) = true
  · rw [if_pos ht]
    exact .type hc hb ht
  rw [if_neg ht]
  have ht : declaresType (dropAnnotations l) = false := by simpa using ht
  by_cases hu : s.phase = .seekingUnit
  · rw [if_pos hu]
    exact .before hc hu ht
  rw [if_neg hu]
  have hp : s.phase = .seekingMember := by
    cases h : s.phase <;> simp_all
  split
  · next m hm => exact memberStep_move hc hp ht hm
  · next hm =>
    refine .other _ hc hp ht hm ?_
    split
    · exact Or.inr rfl
    · exact Or.inl rfl

/-! ### The invariant -/

/-- A state that a scan can be in before line `n`: a member is pending exactly while its body is
read, its body is open exactly when braces are, and nothing is counted outside bodies. -/
structure Good (n : Int) (s : ScanState) : Prop where
  pending : s.phase = .inBody ↔ s.pending.isSome
  opened : s.phase = .inBody → (s.opened = true ↔ 0 < s.depth)
  idle : s.phase ≠ .inBody → s.depth = 0 ∧ s.opened = false
  began : ∀ m, s.pending = some m → m.startLine < n

lemma good_initial (n : Int) : Good n .initial :=
  ⟨by simp [ScanState.initial], by simp [ScanState.initial], by simp [ScanState.initial],
    by simp [ScanState.initial]⟩

lemma braceDelta_le_zero {l : Text} (h : '{' ∉ l) : braceDelta l ≤ 0 := by
  have h0 : l.count '{' = 0 := List.count_eq_zero.mpr h
  unfold braceDelta
  omega

lemma member?_lines {l : Text} {n : Int} {m : Member} (h : member? l n = some m) :
    m.startLine = n ∧ m.endLine = n := by
  unfold member? at h
  split at h
  · cases h
  · split at h
    · cases h
    · split at h
      · cases h
      · cases h
        exact ⟨rfl, rfl⟩

lemma Good.next {n : Int} {s : ScanState} (h : Good n s) : Good (n + 1) s :=
  ⟨h.pending, h.opened, h.idle, fun m hm => by have := h.began m hm; omega⟩

lemma move_good {l : Text} {n : Int} {s s' : ScanState} {e : Option ScanEvent}
    (h : Good n s) (hm : Move l n s s' e) : Good (n + 1) s' := by
  cases hm with
  | comment => exact h.next
  | closes m => exact ⟨by simp, by simp, by simp, by simp⟩
  | stays hc hp hn =>
    have hsome : s.pending ≠ none := by
      have := h.pending.mp hp
      exact Option.isSome_iff_ne_none.mp this
    refine ⟨h.pending, fun _ => ?_, fun hq => absurd hp hq, h.next.began⟩
    simp only [Bool.or_eq_true, List.contains_iff_mem]
    constructor
    · intro ho
      have := hn hsome ho
      omega
    · intro hd
      by_contra ho
      obtain ⟨ho, hb⟩ := not_or.mp ho
      have hdepth : ¬ 0 < s.depth := fun h0 => ho ((h.opened hp).mpr h0)
      have := braceDelta_le_zero hb
      omega
  | type hc hp ht =>
    have hnone : s.pending = none := by
      cases hq : s.pending with
      | none => rfl
      | some m => exact absurd (h.pending.mpr (by simp [hq])) hp
    exact ⟨by simp [hnone], by simp, fun _ => h.idle hp, by simp [hnone]⟩
  | before => exact h.next
  | other => exact h.next
  | alone => exact h.next
  | opens m hc hp ht hm ha =>
    refine ⟨by simp, fun _ => ?_, by simp, ?_⟩
    · by_cases hb : '{' ∈ l
      · simp only [StandsAlone, List.contains_iff_mem, hb, if_true] at ha
        simp [hb]
        omega
      · simp [hb]
    · intro m' hm'
      cases hm'
      have := (member?_lines hm).1
      omega

/-- The event of a line has the number of that line. -/
lemma move_line {l : Text} {n : Int} {s s' : ScanState} {e : ScanEvent}
    (h : Move l n s s' (some e)) : e.line = n := by
  cases h with
  | other e' hc hp ht hm he =>
    rcases he with he | he
    · cases he
    · cases he
      rfl
  | _ => rfl

/-- Once a type has been found the scan never looks for one again. -/
lemma move_phase {l : Text} {n : Int} {s s' : ScanState} {e : Option ScanEvent}
    (h : Move l n s s' e) (hs : s.phase ≠ .seekingUnit) : s'.phase ≠ .seekingUnit := by
  cases h with
  | closes => simp
  | stays hc hp => simp [hp]
  | type => simp
  | opens => simp
  | _ => exact hs

end TestWeaver.Proofs.ScanMoves
