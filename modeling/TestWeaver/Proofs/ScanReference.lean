import Mathlib.Algebra.Ring.Int.Defs
import Mathlib.Data.List.Basic
import TestWeaver.Proofs.ScanStream

/-!
The members of a text without a scan.

Comments and blank lines are taken out first. From the first line that declares a type on, each
header stands alone or has a body, and the body ends on the first line at which the braces
counted from the first opening one on balance. Nothing is counted from line to line: every end
is found by the sum over all the lines of the body.
-/

namespace TestWeaver.Proofs.ScanReference

open Source ScanMoves ScanStream

/-- A line with its number. -/
abbrev Row := Text × ℕ

/-- The lines that are neither comments nor blank. -/
def codeRows (source : Text) : List Row :=
  ((Text.lines source).zipIdx 1).filter fun r => !isCommentOrBlank r.1

/-- Opening less closing braces on all the rows. -/
def net (rows : List Row) : Int := (rows.map fun r => braceDelta r.1).sum

/-- The row on which the body of a header ends, the header being the first row. -/
def bodyEnd? (rows : List Row) : Option ℕ :=
  (rows.findIdx? fun r => '{' ∈ r.1).bind fun f =>
    (List.range rows.length).find? fun e => f ≤ e ∧ 0 < e ∧ net ((rows.take (e + 1)).drop f) ≤ 0

def lineNumber (rows : List Row) (e : ℕ) : ℕ := (rows.map Prod.snd).getD e 0

/-- The method that a row declares; a type declaration is none. -/
def header? (r : Row) : Option Member :=
  if declaresType (dropAnnotations r.1) then none else member? r.1 r.2

def membersIn : List Row → List Member
  | [] => []
  | r :: rest =>
    match header? r with
    | none => membersIn rest
    | some m =>
      if StandsAlone r.1 then m :: membersIn rest
      else
        match bodyEnd? (r :: rest) with
        | none => []
        | some e => { m with endLine := lineNumber (r :: rest) e } :: membersIn (rest.drop e)
termination_by rows => rows.length

/-- The members of a text, read off its lines of code. -/
def reference (source : Text) : List Member :=
  membersIn ((codeRows source).dropWhile fun r => !declaresType (dropAnnotations r.1))

/-! ### The scan on numbered rows -/

/-- The members that a scan completes on numbered rows. -/
def completed (s : ScanState) : List Row → List Member
  | [] => []
  | r :: rows => ((step s r.1 r.2).2.bind ScanEvent.completed?).toList ++
      completed (step s r.1 r.2).1 rows

lemma completed_events (s : ScanState) (n : ℕ) (ls : List Text) :
    (events s n ls).filterMap ScanEvent.completed? = completed s (ls.zipIdx n) := by
  induction ls generalizing s n with
  | nil => rfl
  | cons l ls ih =>
    have hn : ((n : Int) + 1) = ((n + 1 : ℕ) : Int) := by simp
    rw [events_cons, List.filterMap_append, List.zipIdx_cons, completed, hn, ih]
    congr 1
    cases (step s l n).2 with
    | none => rfl
    | some e => cases h : e.completed? <;> simp [h]

/-- Comments and blank lines are invisible. -/
lemma completed_code (s : ScanState) (rows : List Row) :
    completed s (rows.filter fun r => !isCommentOrBlank r.1) = completed s rows := by
  induction rows generalizing s with
  | nil => rfl
  | cons r rows ih =>
    by_cases hc : isCommentOrBlank r.1 = true
    · have hs : step s r.1 r.2 = (s, some (skipped r.2)) := by
        simp [step, hc, skipped]
      simp [hc, completed, hs, ih, skipped, ScanEvent.completed?]
    · have hc : isCommentOrBlank r.1 = false := by simpa using hc
      simp [hc, completed, ih]

lemma members_eq_completed (source : Text) :
    members source = completed .initial (codeRows source) := by
  have h := completed_events .initial 1 (Text.lines source)
  unfold members
  rw [scan_eq, codeRows, completed_code]
  simpa using h

/-! ### One row of code -/

/-- The state between members. -/
def between : ScanState := { phase := .seekingMember }

/-- The state in the body of `m`, once it is open. -/
def inside (m : Member) (depth : Int) : ScanState := ⟨.inBody, depth, true, some m⟩

/-- The state behind the header of `m`, as long as no body has opened. -/
def ahead (m : Member) : ScanState := ⟨.inBody, 0, false, some m⟩

variable {r : Row} {rows : List Row} {m : Member}

lemma completed_initial (hc : isCommentOrBlank r.1 = false) :
    completed .initial (r :: rows) =
      if declaresType (dropAnnotations r.1) then completed between rows
      else completed .initial rows := by
  have hm := step_move .initial r.1 r.2
  rw [completed]
  revert hm
  generalize (step .initial r.1 r.2).1 = s', (step .initial r.1 r.2).2 = e
  intro hm
  cases hm with
  | comment h => simp [h] at hc
  | type _ _ ht => simp [ht, skipped, ScanEvent.completed?, between, ScanState.initial]
  | before _ _ ht => simp [ht, skipped, ScanEvent.completed?]
  | _ => simp_all [ScanState.initial]

lemma completed_between (hc : isCommentOrBlank r.1 = false) :
    completed between (r :: rows) =
      match header? r with
      | none => completed between rows
      | some m =>
        if StandsAlone r.1 then m :: completed between rows
        else if '{' ∈ r.1 then completed (inside m (braceDelta r.1)) rows
        else completed (ahead m) rows := by
  have hm := step_move between r.1 r.2
  rw [completed]
  revert hm
  generalize (step between r.1 r.2).1 = s', (step between r.1 r.2).2 = e
  intro hm
  cases hm with
  | comment h => simp [h] at hc
  | type _ _ ht => simp [header?, ht, skipped, ScanEvent.completed?, between]
  | other e _ _ ht hn he =>
    rcases he with rfl | rfl
    · simp [header?, ht, hn]
    · simp [header?, ht, hn, skipped, ScanEvent.completed?]
  | alone m _ _ ht hn ha => simp [header?, ht, hn, ha, ScanEvent.completed?]
  | opens m _ _ ht hn ha =>
    by_cases hb : '{' ∈ r.1
    · simp [header?, ht, hn, ha, hb, ScanEvent.completed?, inside]
    · simp [header?, ht, hn, ha, hb, ScanEvent.completed?, ahead]
  | _ => simp_all [between]

lemma completed_inside (d : Int) (hc : isCommentOrBlank r.1 = false) :
    completed (inside m d) (r :: rows) =
      if d + braceDelta r.1 ≤ 0 then { m with endLine := r.2 } :: completed between rows
      else completed (inside m (d + braceDelta r.1)) rows := by
  have hm := step_move (inside m d) r.1 r.2
  rw [completed]
  revert hm
  generalize (step (inside m d) r.1 r.2).1 = s', (step (inside m d) r.1 r.2).2 = e
  intro hm
  cases hm with
  | comment h => simp [h] at hc
  | closes m' _ _ hm _ hd =>
    obtain rfl : m = m' := by simpa [inside] using hm
    have hd : d + braceDelta r.1 ≤ 0 := hd
    simp [hd, ScanEvent.completed?, between]
  | stays _ _ hn =>
    have hd : 0 < d + braceDelta r.1 := hn (by simp [inside]) (Or.inl rfl)
    have hmax : max (d + braceDelta r.1) 0 = d + braceDelta r.1 := by omega
    rw [if_neg (by omega)]
    simp [inside, hmax]
  | _ => simp_all [inside]

/-- A closing brace before the body opens is forgotten. -/
lemma completed_ahead (hc : isCommentOrBlank r.1 = false) :
    completed (ahead m) (r :: rows) =
      if '{' ∈ r.1 then completed (inside m 0) (r :: rows) else completed (ahead m) rows := by
  have hm := step_move (ahead m) r.1 r.2
  have hin : completed (inside m 0) (r :: rows) = _ := completed_inside 0 hc
  rw [completed]
  revert hm
  generalize (step (ahead m) r.1 r.2).1 = s', (step (ahead m) r.1 r.2).2 = e
  intro hm
  cases hm with
  | comment h => simp [h] at hc
  | closes m' _ _ hm ho hd =>
    obtain rfl : m = m' := by simpa [ahead] using hm
    have hb : '{' ∈ r.1 := by simpa [ahead] using ho
    have hd : 0 + braceDelta r.1 ≤ 0 := hd
    rw [if_pos hb, hin, if_pos hd]
    simp [ScanEvent.completed?, between]
  | stays _ _ hn =>
    by_cases hb : '{' ∈ r.1
    · have hd : 0 < 0 + braceDelta r.1 := hn (by simp [ahead]) (Or.inr hb)
      have hmax : max (0 + braceDelta r.1) 0 = 0 + braceDelta r.1 := by omega
      rw [if_pos hb, hin, if_neg (by omega)]
      simp only [ahead, hmax, Option.bind_none, Option.toList_none, List.nil_append]
      simp [inside, hb]
    · have hd := braceDelta_le_zero hb
      have hmax : max (0 + braceDelta r.1) 0 = 0 := by omega
      simp only [ahead, hmax, Option.bind_none, Option.toList_none, List.nil_append]
      simp [hb]
  | _ => simp_all [ahead]

/-! ### Bodies -/

lemma find?_range_succ (p : ℕ → Bool) (k : ℕ) :
    (List.range (k + 1)).find? p =
      if p 0 then some 0 else ((List.range k).find? fun e => p (e + 1)).map (· + 1) := by
  rw [List.range_succ_eq_map, List.find?_cons, List.find?_map]
  cases p 0 <;> rfl

/-- The first row at whose end `d` and the braces so far balance. -/
def crossing? (d : Int) (rows : List Row) : Option ℕ :=
  (List.range rows.length).find? fun e => d + net (rows.take (e + 1)) ≤ 0

lemma crossing?_cons (d : Int) (r : Row) (rows : List Row) :
    crossing? d (r :: rows) =
      if d + braceDelta r.1 ≤ 0 then some 0
      else (crossing? (d + braceDelta r.1) rows).map (· + 1) := by
  unfold crossing?
  rw [List.length_cons, find?_range_succ]
  simp [net, add_assoc]

/-- As `bodyEnd?`, on the rows behind a header that has no brace. -/
def laterEnd? (rows : List Row) : Option ℕ :=
  (rows.findIdx? fun r => '{' ∈ r.1).bind fun f =>
    (List.range rows.length).find? fun e => f ≤ e ∧ net ((rows.take (e + 1)).drop f) ≤ 0

lemma laterEnd?_cons (r : Row) (rows : List Row) :
    laterEnd? (r :: rows) =
      if '{' ∈ r.1 then crossing? 0 (r :: rows) else (laterEnd? rows).map (· + 1) := by
  unfold laterEnd?
  by_cases hb : '{' ∈ r.1
  · simp [List.findIdx?_cons, hb, crossing?]
  · rw [List.findIdx?_cons, List.length_cons]
    cases rows.findIdx? fun r => '{' ∈ r.1 with
    | none => simp [hb]
    | some f => simp [hb, find?_range_succ]

lemma bodyEnd?_brace (hb : '{' ∈ r.1) (rows : List Row) :
    bodyEnd? (r :: rows) = (crossing? (braceDelta r.1) rows).map (· + 1) := by
  unfold bodyEnd? crossing?
  simp [List.findIdx?_cons, hb, find?_range_succ, net]

lemma bodyEnd?_plain (hb : '{' ∉ r.1) (rows : List Row) :
    bodyEnd? (r :: rows) = (laterEnd? rows).map (· + 1) := by
  unfold bodyEnd? laterEnd?
  rw [List.findIdx?_cons, List.length_cons]
  cases rows.findIdx? fun r => '{' ∈ r.1 with
  | none => simp [hb]
  | some f => simp [hb, find?_range_succ]

/-- The members from the body of `m` on, if that ends on the given row. -/
def closeAt (m : Member) (rows : List Row) : Option ℕ → List Member
  | none => []
  | some e => { m with endLine := lineNumber rows e } :: completed between (rows.drop (e + 1))

lemma closeAt_succ (m : Member) (r : Row) (rows : List Row) (e : Option ℕ) :
    closeAt m (r :: rows) (e.map (· + 1)) = closeAt m rows e := by
  cases e <;> simp [closeAt, lineNumber]

/-- The depth kept from line to line is the sum over the body so far. -/
lemma completed_crossing (d : Int) (hcode : ∀ r ∈ rows, isCommentOrBlank r.1 = false) :
    completed (inside m d) rows = closeAt m rows (crossing? d rows) := by
  induction rows generalizing d with
  | nil => rfl
  | cons r rows ih =>
    obtain ⟨hc, hrest⟩ := List.forall_mem_cons.mp hcode
    rw [completed_inside d hc, crossing?_cons]
    split
    · simp [closeAt, lineNumber]
    · rw [closeAt_succ, ih _ hrest]

lemma completed_later (hcode : ∀ r ∈ rows, isCommentOrBlank r.1 = false) :
    completed (ahead m) rows = closeAt m rows (laterEnd? rows) := by
  induction rows with
  | nil => rfl
  | cons r rows ih =>
    obtain ⟨hc, hrest⟩ := List.forall_mem_cons.mp hcode
    rw [completed_ahead hc, laterEnd?_cons]
    split
    · exact completed_crossing 0 hcode
    · rw [closeAt_succ, ih hrest]

lemma closeAt_bodyEnd (hcode : ∀ r ∈ rows, isCommentOrBlank r.1 = false) :
    (if '{' ∈ r.1 then completed (inside m (braceDelta r.1)) rows else completed (ahead m) rows) =
      closeAt m (r :: rows) (bodyEnd? (r :: rows)) := by
  by_cases hb : '{' ∈ r.1
  · rw [if_pos hb, bodyEnd?_brace hb, closeAt_succ, completed_crossing _ hcode]
  · rw [if_neg hb, bodyEnd?_plain hb, closeAt_succ, completed_later hcode]

/-! ### The whole text -/

lemma completed_eq_membersIn (rows : List Row)
    (hcode : ∀ r ∈ rows, isCommentOrBlank r.1 = false) :
    completed between rows = membersIn rows := by
  induction hk : rows.length using Nat.strongRecOn generalizing rows with
  | _ k ih =>
    rcases rows with _ | ⟨r, rows⟩
    · simp [completed, membersIn]
    obtain ⟨hc, hrest⟩ := List.forall_mem_cons.mp hcode
    have hlen : rows.length < k := by simp at hk; omega
    rw [completed_between hc, membersIn]
    split
    · exact ih _ hlen rows hrest rfl
    · next m hm =>
      split
      · rw [ih _ hlen rows hrest rfl]
      rw [closeAt_bodyEnd hrest]
      split
      · next he => rw [he]; rfl
      · next e he =>
        have hdrop : (rows.drop e).length < k := by simp; omega
        rw [he, closeAt, List.drop_succ_cons,
          ih _ hdrop (rows.drop e) (fun a ha => hrest a (List.mem_of_mem_drop ha)) rfl]

/-- **The scan finds the members of the reference**, no more and no fewer. -/
theorem members_eq_reference (source : Text) : members source = reference source := by
  have hcode : ∀ r ∈ codeRows source, isCommentOrBlank r.1 = false := by
    intro r hr
    simpa using (List.mem_filter.mp hr).2
  rw [members_eq_completed, reference]
  revert hcode
  generalize codeRows source = rows
  intro hcode
  induction rows with
  | nil => simp [completed, membersIn]
  | cons r rows ih =>
    obtain ⟨hc, hrest⟩ := List.forall_mem_cons.mp hcode
    rw [completed_initial hc, List.dropWhile_cons]
    by_cases ht : declaresType (dropAnnotations r.1) = true
    · simp [ht, membersIn, header?, completed_eq_membersIn rows hrest]
    · simp [ht, ih hrest]

end TestWeaver.Proofs.ScanReference
