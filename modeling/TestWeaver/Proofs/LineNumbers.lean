import Mathlib.Data.List.Basic
import TestWeaver.Proofs.ScanReference

/-!
The numbers of lines.

The scan copies the numbers of lines and never looks at them, so a text whose lines are numbered
otherwise has the same members on the other numbers. It passes over comments and blank lines. The
members of a text in which comments and blank lines come in between are therefore the old ones, on
the numbers that their lines have there.
-/

namespace TestWeaver.Source

/-- The same member on other lines. -/
def Member.renumber (f : Int → Int) (m : Member) : Member :=
  { m with startLine := f m.startLine, endLine := f m.endLine }

def ScanState.renumber (f : Int → Int) (s : ScanState) : ScanState :=
  { s with pending := s.pending.map (·.renumber f) }

def ScanEvent.renumber (f : Int → Int) (e : ScanEvent) : ScanEvent :=
  { e with line := f e.line, member := e.member.map (·.renumber f) }

end TestWeaver.Source

namespace TestWeaver.Proofs.LineNumbers

open Source ScanReference

/-! ### Other numbers -/

/-- The state and event of a step on a line of another number. -/
def renumbered (f : Int → Int) (p : ScanState × Option ScanEvent) :
    ScanState × Option ScanEvent :=
  (p.1.renumber f, p.2.map (·.renumber f))

lemma member?_renumber (f : Int → Int) (l : Text) (n : Int) :
    member? l (f n) = (member? l n).map (·.renumber f) := by
  unfold member?
  split
  · rfl
  · split
    · rfl
    · split <;> rfl

lemma bodyStep_renumber (f : Int → Int) (s : ScanState) (l : Text) (n : Int) :
    bodyStep (s.renumber f) l (f n) = renumbered f (bodyStep s l n) := by
  obtain ⟨phase, depth, opened, pending⟩ := s
  dsimp only [bodyStep, ScanState.renumber]
  generalize ((opened || l.contains '{') && decide (depth + braceDelta l ≤ 0)) = closes
  cases closes <;> cases pending <;> rfl

lemma memberStep_renumber (f : Int → Int) (s : ScanState) (m : Member) (l : Text) (n : Int) :
    memberStep (s.renumber f) (m.renumber f) l (f n) = renumbered f (memberStep s m l n) := by
  unfold memberStep
  split
  · split <;> rfl
  · split <;> rfl

/-- **One line of another number** does the same. -/
theorem step_renumber (f : Int → Int) (s : ScanState) (l : Text) (n : Int) :
    step (s.renumber f) l (f n) = renumbered f (step s l n) := by
  have hphase : (s.renumber f).phase = s.phase := rfl
  unfold step
  rw [hphase, bodyStep_renumber, member?_renumber]
  split
  · rfl
  split
  · rfl
  split
  · rfl
  split
  · rfl
  rcases member? l n with _ | m
  · simp only [Option.map_none]
    split <;> rfl
  · exact memberStep_renumber f s m l n

lemma completed?_renumber (f : Int → Int) (e : ScanEvent) :
    (e.renumber f).completed? = e.completed?.map (·.renumber f) := by
  unfold ScanEvent.completed?
  have hkind : (e.renumber f).kind = e.kind := rfl
  rw [hkind]
  split <;> rfl

/-- What a step completes on a line of another number. -/
lemma step_completed (f : Int → Int) (s : ScanState) (l : Text) (n : Int) :
    ((step (s.renumber f) l (f n)).2.bind ScanEvent.completed?).toList =
      ((step s l n).2.bind ScanEvent.completed?).toList.map (·.renumber f) := by
  rw [step_renumber, renumbered]
  rcases (step s l n).2 with _ | e
  · rfl
  · simp only [Option.map_some, Option.bind_some, completed?_renumber]
    cases e.completed? <;> rfl

/-- A scan of rows with other numbers completes the same members on these. -/
lemma completed_renumber {f : Int → Int} {g : ℕ → ℕ} (hfg : ∀ n : ℕ, f n = g n) (s : ScanState)
    (rows : List Row) :
    completed (s.renumber f) (rows.map fun r => (r.1, g r.2)) =
      (completed s rows).map (·.renumber f) := by
  induction rows generalizing s with
  | nil => rfl
  | cons r rows ih =>
    rw [List.map_cons, completed, completed, ← hfg, step_completed, step_renumber, renumbered, ih,
      List.map_append]

/-! ### Comments in between -/

/-- Puts new lines directly above each line of a text from line `n` on; those that belong to a
number behind the last line stand at the end. -/
def withLines (added : ℕ → List Text) (n : ℕ) : List Text → List Text
  | [] => added n
  | l :: ls => added n ++ l :: withLines added (n + 1) ls

/-- How many new lines stand above line `n`, or directly above it. -/
def addedAbove (added : ℕ → List Text) : ℕ → ℕ
  | 0 => 0
  | n + 1 => addedAbove added n + (added (n + 1)).length

/-- The number of an old line among the new ones. -/
def movedLine (added : ℕ → List Text) (n : Int) : Int := n + addedAbove added n.toNat

variable {added : ℕ → List Text}

lemma filter_comments {ls : List Text} (h : ∀ l ∈ ls, isCommentOrBlank l = true) (n : ℕ) :
    (ls.zipIdx n).filter (fun r => !isCommentOrBlank r.1) = [] := by
  refine List.filter_eq_nil_iff.mpr fun r hr => ?_
  simp [h r.1 (List.fst_mem_of_mem_zipIdx hr)]

/-- The first line with what stands above it, and the rest. -/
lemma zipIdx_withLines_cons (n : ℕ) (l : Text) (ls : List Text) :
    (withLines added (n + 1) (l :: ls)).zipIdx (n + 1 + addedAbove added n) =
      (added (n + 1)).zipIdx (n + 1 + addedAbove added n) ++
        (l, n + 1 + addedAbove added (n + 1)) ::
          (withLines added (n + 2) ls).zipIdx (n + 2 + addedAbove added (n + 1)) := by
  have hnumber : n + 1 + addedAbove added n + (added (n + 1)).length =
      n + 1 + addedAbove added (n + 1) := by rw [addedAbove, Nat.add_assoc]
  have hnext : n + 1 + addedAbove added (n + 1) + 1 = n + 2 + addedAbove added (n + 1) := by
    omega
  rw [withLines, List.zipIdx_append, hnumber, List.zipIdx_cons, hnext]

/-- The lines of code are the old ones, on their new numbers. -/
lemma code_withLines (h : ∀ n, ∀ l ∈ added n, isCommentOrBlank l = true) (n : ℕ)
    (ls : List Text) :
    ((withLines added (n + 1) ls).zipIdx (n + 1 + addedAbove added n)).filter
        (fun r => !isCommentOrBlank r.1) =
      ((ls.zipIdx (n + 1)).filter fun r => !isCommentOrBlank r.1).map
        fun r => (r.1, r.2 + addedAbove added r.2) := by
  induction ls generalizing n with
  | nil => exact filter_comments (h _) _
  | cons l ls ih =>
    rw [zipIdx_withLines_cons, List.filter_append, filter_comments (h _), List.nil_append,
      List.zipIdx_cons, List.filter_cons, List.filter_cons, ih]
    split <;> rfl

/-- Every old line is there, on its new number. -/
lemma mem_withLines {n : ℕ} {ls : List Text} {r : Row} (h : r ∈ ls.zipIdx (n + 1)) :
    (r.1, r.2 + addedAbove added r.2) ∈
      (withLines added (n + 1) ls).zipIdx (n + 1 + addedAbove added n) := by
  induction ls generalizing n with
  | nil => cases h
  | cons l ls ih =>
    rw [zipIdx_withLines_cons]
    refine List.mem_append_right _ ?_
    rw [List.zipIdx_cons, List.mem_cons] at h
    rcases h with rfl | h
    · exact List.mem_cons_self
    · exact List.mem_cons_of_mem _ (ih h)

/-- **Comments and blank lines do not matter.** Wherever they come in between the lines of a text,
its members are the old ones on other lines: each one on the number that its line now has. -/
theorem members_withLines {source source' : Text}
    (hadded : ∀ n, ∀ l ∈ added n, isCommentOrBlank l = true)
    (hlines : Text.lines source' = withLines added 1 (Text.lines source)) :
    members source' = (members source).map (·.renumber (movedLine added)) ∧
      ∀ l n, (l, n) ∈ (Text.lines source).zipIdx 1 →
        ∃ k, (l, k) ∈ (Text.lines source').zipIdx 1 ∧ (k : Int) = movedLine added n := by
  have hmoved : ∀ n : ℕ, movedLine added n = (n + addedAbove added n : ℕ) := fun n => by
    rw [movedLine, Int.toNat_natCast, Int.natCast_add]
  constructor
  · have hcode : codeRows source' =
        (codeRows source).map fun r => (r.1, r.2 + addedAbove added r.2) := by
      rw [codeRows, hlines]
      exact code_withLines hadded 0 (Text.lines source)
    have hinitial : ScanState.initial.renumber (movedLine added) = .initial := rfl
    rw [members_eq_completed, members_eq_completed, hcode]
    conv_lhs => rw [← hinitial]
    exact completed_renumber hmoved .initial (codeRows source)
  · intro l n h
    have hmem : (l, n + addedAbove added n) ∈
        (withLines added 1 (Text.lines source)).zipIdx 1 := mem_withLines h
    rw [← hlines] at hmem
    exact ⟨_, hmem, (hmoved n).symm⟩

/-- Comments above a class, in front of a body, in it and behind it. -/
theorem members_withLines_braces :
    let source := "class A \x7b\n  int f()\n  \x7b\n  \x7d\n\x7d".toList
    let source' := "// class B \x7b\nclass A \x7b\n\n  int f()\n  /* \x7b */\n  \x7b\n".toList ++
      "  // \x7d\n  * int g();\n  \x7d\n\x7d\n//".toList
    let added : ℕ → List Text := fun n =>
      match n with
      | 1 => ["// class B \x7b".toList]
      | 2 => [[]]
      | 3 => ["  /* \x7b */".toList]
      | 4 => ["  // \x7d".toList, "  * int g();".toList]
      | 6 => ["//".toList]
      | _ => []
    (∀ n, ∀ l ∈ added n, isCommentOrBlank l = true) ∧
      Text.lines source' = withLines added 1 (Text.lines source) ∧
      (members source').map (fun m => (String.ofList m.name, m.startLine, m.endLine)) =
        [("f", 4, 9)] := by
  intro source source' added
  have hadded : ∀ n, ∀ l ∈ added n, isCommentOrBlank l = true
    | 0 => by decide
    | 1 => by decide
    | 2 => by decide
    | 3 => by decide
    | 4 => by decide
    | 5 => by decide
    | 6 => by decide
    | n + 7 => fun l hl => by cases hl
  have hlines : Text.lines source' = withLines added 1 (Text.lines source) := by decide +kernel
  refine ⟨hadded, hlines, ?_⟩
  rw [(members_withLines hadded hlines).1]
  decide +kernel

end TestWeaver.Proofs.LineNumbers
