import TestWeaver.Proofs.LineNumbers
import TestWeaver.Proofs.LineText
import TestWeaver.Proofs.MergedBraces
import TestWeaver.Proofs.MethodPlace
import TestWeaver.Proofs.ScanReference

/-!
The members of a merged text.

A scan of lines put together is the scan of the first part and then that of the second from the
state in between, and a scan further down finds the same members further down. Where the scan
stands between members above the closing row and again behind the new methods, the three parts of
the merged text are therefore scanned each on its own.
-/

namespace TestWeaver.Source

/-- The same member `k` lines further down. -/
def Member.shift (m : Member) (k : Int) : Member :=
  { m with startLine := m.startLine + k, endLine := m.endLine + k }

def ScanState.shift (s : ScanState) (k : Int) : ScanState :=
  { s with pending := s.pending.map (·.shift k) }

def ScanEvent.shift (e : ScanEvent) (k : Int) : ScanEvent :=
  { e with line := e.line + k, member := e.member.map (·.shift k) }

end TestWeaver.Source

namespace TestWeaver.Proofs.MergedMembers

open Merge Source Text RowText LineText LineNumbers Splice ScanMoves ScanStream ScanReference

/-- The members that a scan from state `s` completes on lines the first of which is number `n`. -/
def membersFrom (s : ScanState) (n : Int) (ls : List Text) : List Member :=
  (events s n ls).filterMap ScanEvent.completed?

variable {s : ScanState} {n k : Int} {l : Text} {ls ms : List Text}

lemma membersFrom_cons :
    membersFrom s n (l :: ls) = ((step s l n).2.bind ScanEvent.completed?).toList ++
      membersFrom (step s l n).1 (n + 1) ls := by
  rw [membersFrom, events_cons, List.filterMap_append, membersFrom]
  congr 1
  cases (step s l n).2 with
  | none => rfl
  | some e => cases h : e.completed? <;> simp [h]

/-! ### Lines put together -/

lemma membersFrom_append : membersFrom s n (ls ++ ms) =
    membersFrom s n ls ++ membersFrom (run s n ls) (n + ls.length) ms := by
  simp [membersFrom, events, trace_append]

lemma good_run (h : Good n s) (ls : List Text) : Good (n + ls.length) (run s n ls) := by
  induction ls generalizing s n with
  | nil => simpa [run] using h
  | cons l ls ih =>
    have hnext := ih (move_good h (step_move s l n))
    have hn : n + 1 + (ls.length : Int) = n + ((l :: ls).length : Int) := by
      rw [List.length_cons]
      omega
    rwa [hn] at hnext

/-- While members are looked for the state holds nothing else. -/
lemma eq_between (h : Good n s) (hp : s.phase = .seekingMember) : s = between := by
  have hbody : s.phase ≠ .inBody := by simp [hp]
  obtain ⟨hdepth, hopened⟩ := h.idle hbody
  have hpending : s.pending = none := by
    rcases hq : s.pending with _ | m
    · rfl
    · exact absurd (h.pending.mpr (by simp [hq])) hbody
  obtain ⟨phase, depth, opened, pending⟩ := s
  simp only at hp hdepth hopened hpending
  subst hp hdepth hopened hpending
  rfl

/-- Comments and blank lines leave the scan where it is. -/
lemma scan_quiet (h : ∀ l ∈ ls, isCommentOrBlank l = true) (s : ScanState) (n : Int) :
    membersFrom s n ls = [] ∧ run s n ls = s := by
  induction ls generalizing n with
  | nil => exact ⟨rfl, rfl⟩
  | cons l ls ih =>
    obtain ⟨hl, hls⟩ := List.forall_mem_cons.mp h
    have hstep : step s l n = (s, some (skipped n)) := by
      rw [step, if_pos hl]
      rfl
    rw [membersFrom_cons, run, hstep]
    exact ⟨(ih hls (n + 1)).1, (ih hls (n + 1)).2⟩

/-- The scan of rows that hold no line breaks is that of the lines of their text. -/
lemma scan_lines_unrows {rs : List Text} (h : ∀ r ∈ rs, OneLine r) (s : ScanState) (n : Int) :
    membersFrom s n (lines (unrows rs)) = membersFrom s n rs ∧
      run s n (lines (unrows rs)) = run s n rs := by
  have hquiet : ∀ l ∈ [([] : Text)], isCommentOrBlank l = true := by decide
  rcases lines_unrows h with hrs | hrs
  · rw [← hrs]
    exact ⟨rfl, rfl⟩
  · obtain ⟨hm, hr⟩ := scan_quiet hquiet (run s n (lines (unrows rs)))
      (n + (lines (unrows rs)).length)
    rw [hrs, membersFrom_append, run_append, ← hrs, hm, hr]
    exact ⟨(List.append_nil _).symm, rfl⟩

/-! ### Further down -/

/-- The state and event of a step `k` lines further down. -/
def shifted (k : Int) (p : ScanState × Option ScanEvent) : ScanState × Option ScanEvent :=
  (p.1.shift k, p.2.map (·.shift k))

lemma step_shift (s : ScanState) (l : Text) (n k : Int) :
    step (s.shift k) l (n + k) = shifted k (step s l n) := step_renumber (· + k) s l n

/-- **A scan further down** completes the same members further down. -/
theorem membersFrom_shift (s : ScanState) (n k : Int) (ls : List Text) :
    membersFrom (s.shift k) (n + k) ls = (membersFrom s n ls).map (·.shift k) := by
  induction ls generalizing s n with
  | nil => rfl
  | cons l ls ih =>
    have hn : n + k + 1 = n + 1 + k := by omega
    have hdone : ((step (s.shift k) l (n + k)).2.bind ScanEvent.completed?).toList =
        ((step s l n).2.bind ScanEvent.completed?).toList.map (·.shift k) :=
      step_completed (· + k) s l n
    rw [membersFrom_cons, membersFrom_cons, hdone, step_shift, hn, shifted, ih, List.map_append]

lemma run_shift (s : ScanState) (n k : Int) (ls : List Text) :
    run (s.shift k) (n + k) ls = (run s n ls).shift k := by
  induction ls generalizing s n with
  | nil => rfl
  | cons l ls ih =>
    have hn : n + k + 1 = n + 1 + k := by omega
    rw [run, run, step_shift, hn, shifted, ih]

/-! ### Where members end -/

lemma endLine_of_move {s' : ScanState} {e : Option ScanEvent} {m : Member}
    (h : Move l n s s' e) (hm : e.bind ScanEvent.completed? = some m) : m.endLine = n := by
  cases h with
  | closes m' =>
    obtain rfl := Option.some.inj hm
    rfl
  | alone m' _ _ _ hread =>
    obtain rfl := Option.some.inj hm
    exact (member?_lines hread).2
  | other e _ _ _ _ he =>
    rcases he with rfl | rfl
    · cases hm
    · cases hm
  | _ => cases hm

lemma endLine_bounds {m : Member} (hm : m ∈ membersFrom s n ls) :
    n ≤ m.endLine ∧ m.endLine < n + ls.length := by
  induction ls generalizing s n with
  | nil => cases hm
  | cons l ls ih =>
    rw [membersFrom_cons, List.mem_append, Option.mem_toList] at hm
    rw [List.length_cons]
    rcases hm with hm | hm
    · have := endLine_of_move (step_move s l n) hm
      omega
    · have := ih hm
      omega

/-! ### The merged text -/

lemma onlyNewlines_members {fragment : Text} (h : OnlyNewlines fragment) :
    OnlyNewlines (fragmentMembers fragment) :=
  fun c hc => h c ((MergedBraces.fragmentMembers_infix fragment).subset hc)

/-- New methods are scanned as their own text is, the empty row and the comment above them being
passed over. -/
lemma scan_methodBlock {fragment : Text} (h : OnlyNewlines fragment)
    (hp : (run between 1 (lines (fragmentMembers fragment))).phase = .seekingMember) (n : Int) :
    membersFrom between n (methodBlock fragment) =
        (membersFrom between 1 (lines (fragmentMembers fragment))).map (·.shift (n + 1)) ∧
      run between n (methodBlock fragment) = between := by
  have hblock : methodBlock fragment = [[], marker] ++ rows (fragmentMembers fragment) := rfl
  have hquiet : ∀ l ∈ [[], marker], isCommentOrBlank l = true := by decide
  obtain ⟨hmembers, hrun⟩ := scan_quiet hquiet between n
  obtain ⟨hlines, hend⟩ := scan_lines_unrows (onlyNewlines_members h).oneLine between 1
  rw [unrows_rows] at hlines hend
  have hgood : Good (1 + (rows (fragmentMembers fragment)).length)
      (run between 1 (rows (fragmentMembers fragment))) :=
    good_run ⟨by simp [between], by simp [between], by simp [between], by simp [between]⟩ _
  have hbetween := eq_between hgood (hend ▸ hp)
  have hn : n + ([[], marker] : List Text).length = 1 + (n + 1) := by
    simp only [List.length_cons, List.length_nil]
    omega
  have hdown : membersFrom between (1 + (n + 1)) (rows (fragmentMembers fragment)) =
      (membersFrom between 1 (rows (fragmentMembers fragment))).map (·.shift (n + 1)) :=
    membersFrom_shift between 1 (n + 1) _
  have hstop : run between (1 + (n + 1)) (rows (fragmentMembers fragment)) = between :=
    (run_shift between 1 (n + 1) _).trans (congrArg (·.shift (n + 1)) hbetween)
  rw [hblock, membersFrom_append, run_append, hmembers, hrun, hn, hdown, hstop, hlines]
  exact ⟨rfl, rfl⟩

lemma members_of_oneLine {source : Text} (h : ∀ r ∈ rows source, OneLine r) :
    members source = membersFrom .initial 1 (rows source) := by
  have hlines := (scan_lines_unrows h .initial 1).1
  rwa [unrows_rows] at hlines

/-- The scan up to a row inside the text. -/
lemma run_take {source : Text} (h : ∀ r ∈ rows source, OneLine r) {c : ℕ}
    (hc : c < (rows source).length)
    (hp : (run .initial 1 ((lines source).take c)).phase = .seekingMember) :
    run .initial 1 ((rows source).take c) = between := by
  have hrows := lines_unrows h
  rw [unrows_rows] at hrows
  have htake : (lines source).take c = (rows source).take c := by
    rcases hrows with hrows | hrows
    · rw [← hrows]
    · have hle : c ≤ (lines source).length := by
        rw [hrows, List.length_append, List.length_singleton] at hc
        omega
      rw [hrows, List.take_append_of_le_length hle]
  exact eq_between (good_run (good_initial 1) _) (htake ▸ hp)

lemma oneLine_mergeFragment {existing fragment : Text} {c : ℕ} (he : OnlyNewlines existing)
    (hf : OnlyNewlines fragment) (hc : closingRow? existing = some c) :
    ∀ r ∈ rows (mergeFragment existing fragment), OneLine r := by
  intro r hr
  simp only [rows_mergeFragment hc, methodBlock, List.mem_append, List.mem_cons] at hr
  rcases hr with hr | (rfl | rfl | hr) | hr
  · exact he.oneLine r (List.mem_of_mem_take hr)
  · exact fun c hc => by cases hc
  · exact List.forall_iff_forall_mem.mp (by decide)
  · exact (onlyNewlines_members hf).oneLine r hr
  · exact he.oneLine r (List.mem_of_mem_drop hr)

/-- **The members of a merged text**: those that end above the closing row, then those of the
fragment's methods, and then the remaining ones, further down by the rows put in. -/
theorem members_mergeFragment {existing fragment : Text} {c : ℕ} (he : OnlyNewlines existing)
    (hf : OnlyNewlines fragment) (hc : closingRow? existing = some c)
    (habove : (run .initial 1 ((lines existing).take c)).phase = .seekingMember)
    (hwithin : (run between 1 (lines (fragmentMembers fragment))).phase = .seekingMember) :
    members (mergeFragment existing fragment) =
      (members existing).filter (fun m => m.endLine ≤ (c : Int)) ++
        (membersFrom between 1 (lines (fragmentMembers fragment))).map (·.shift (c + 2)) ++
        ((members existing).filter fun m => (c : Int) < m.endLine).map
          (·.shift (methodBlock fragment).length) := by
  have hlt := MethodPlace.closingRow_lt hc
  have hlen : ((rows existing).take c).length = c := List.length_take_of_le hlt.le
  have hbetween := run_take he.oneLine hlt habove
  obtain ⟨hmethods, hstop⟩ := scan_methodBlock hf hwithin (1 + c)
  set above := membersFrom .initial 1 ((rows existing).take c)
  set below := membersFrom between (1 + c) ((rows existing).drop c)
  have hold : members existing = above ++ below := by
    rw [members_of_oneLine he.oneLine, ← List.take_append_drop c (rows existing),
      membersFrom_append, hlen, hbetween]
  have hdown : membersFrom between (1 + c + (methodBlock fragment).length)
      ((rows existing).drop c) = below.map (·.shift (methodBlock fragment).length) :=
    membersFrom_shift between (1 + c) _ _
  have hn : (1 + c + 1 : Int) = c + 2 := by omega
  have hle : ∀ m ∈ above, m.endLine ≤ (c : Int) := by
    intro m hm
    have := endLine_bounds hm
    omega
  have hgt : ∀ m ∈ below, (c : Int) < m.endLine := by
    intro m hm
    have := endLine_bounds hm
    omega
  have htop : (above ++ below).filter (fun m => m.endLine ≤ (c : Int)) = above := by
    rw [List.filter_append, List.filter_eq_self.mpr (by simpa using hle),
      List.filter_eq_nil_iff.mpr (by simpa using hgt), List.append_nil]
  have hrest : (above ++ below).filter (fun m => (c : Int) < m.endLine) = below := by
    rw [List.filter_append, List.filter_eq_nil_iff.mpr (by simpa using hle),
      List.filter_eq_self.mpr (by simpa using hgt), List.nil_append]
  rw [members_of_oneLine (oneLine_mergeFragment he hf hc), rows_mergeFragment hc,
    membersFrom_append, membersFrom_append, hlen, hbetween, hmethods, hstop, hdown, hn, hold, htop,
    hrest, List.append_assoc]

/-- A test comes in between the method of a class and one that stands below it. -/
theorem members_mergeFragment_behindClass :
    let existing := "class A \x7b\n  int f();\n\x7d\nint g();".toList
    let fragment := "class T \x7b\n  @Test\n  void t() \x7b\n  \x7d\n\x7d".toList
    OnlyNewlines existing ∧ OnlyNewlines fragment ∧ closingRow? existing = some 2 ∧
      (run .initial 1 ((lines existing).take 2)).phase = .seekingMember ∧
      (run between 1 (lines (fragmentMembers fragment))).phase = .seekingMember ∧
      (members (mergeFragment existing fragment)).map
          (fun m => (String.ofList m.name, m.startLine, m.endLine)) =
        [("f", 2, 2), ("t", 6, 7), ("g", 9, 9)] := by
  intro existing fragment
  have he : OnlyNewlines existing := by decide +kernel
  have hf : OnlyNewlines fragment := by decide +kernel
  have hc : closingRow? existing = some 2 := by decide +kernel
  have habove : (run .initial 1 ((lines existing).take 2)).phase = .seekingMember := by
    decide +kernel
  have hwithin : (run between 1 (lines (fragmentMembers fragment))).phase = .seekingMember := by
    decide +kernel
  refine ⟨he, hf, hc, habove, hwithin, ?_⟩
  rw [members_mergeFragment he hf hc habove hwithin]
  decide +kernel

end TestWeaver.Proofs.MergedMembers
