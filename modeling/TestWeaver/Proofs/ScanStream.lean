import Mathlib.Data.List.Basic
import TestWeaver.Proofs.ScanMoves

/-!
The events of a whole scan: they come in the order of their lines, each start of a member is
followed by the end of the same member, and so the members of a text do not overlap.
-/

namespace TestWeaver.Proofs.ScanStream

open Source ScanMoves

/-- The states between the lines, the one before the first line included. -/
def states (s : ScanState) (n : Int) (ls : List Text) : List ScanState :=
  s :: (trace s n ls).map Prod.fst

def events (s : ScanState) (n : Int) (ls : List Text) : List ScanEvent :=
  (trace s n ls).filterMap Prod.snd

lemma states_cons (s : ScanState) (n : Int) (l : Text) (ls : List Text) :
    states s n (l :: ls) = s :: states (step s l n).1 (n + 1) ls := by
  simp [states, trace]

@[simp] lemma events_nil (s : ScanState) (n : Int) : events s n [] = [] := rfl

lemma events_cons (s : ScanState) (n : Int) (l : Text) (ls : List Text) :
    events s n (l :: ls) = (step s l n).2.toList ++ events (step s l n).1 (n + 1) ls := by
  cases h : (step s l n).2 <;> simp [events, trace, h]

lemma scan_eq (source : Text) : scan source = events .initial 1 (Text.lines source) := rfl

/-! ### States -/

lemma states_good {s : ScanState} {n : Int} {ls : List Text} (h : Good n s) :
    ∀ t ∈ states s n ls, ∃ k, Good k t := by
  induction ls generalizing s n with
  | nil => simpa [states, trace] using ⟨n, h⟩
  | cons l ls ih =>
    intro t ht
    rw [states_cons] at ht
    rcases List.mem_cons.mp ht with rfl | ht
    · exact ⟨n, h⟩
    · exact ih (move_good h (step_move s l n)) t ht

lemma states_found {s : ScanState} {n : Int} {ls : List Text} (h : s.phase ≠ .seekingUnit) :
    ∀ t ∈ states s n ls, t.phase ≠ .seekingUnit := by
  induction ls generalizing s n with
  | nil => simpa [states, trace] using h
  | cons l ls ih =>
    intro t ht
    rw [states_cons] at ht
    rcases List.mem_cons.mp ht with rfl | ht
    · exact h
    · exact ih (move_phase (step_move s l n) h) t ht

lemma states_phase (s : ScanState) (n : Int) (ls : List Text) :
    (states s n ls).Pairwise fun a b => a.phase ≠ .seekingUnit → b.phase ≠ .seekingUnit := by
  induction ls generalizing s n with
  | nil => simp [states, trace]
  | cons l ls ih =>
    rw [states_cons, List.pairwise_cons]
    refine ⟨fun t ht hs => ?_, ih _ _⟩
    exact states_found (move_phase (step_move s l n) hs) t ht

/-! ### Events -/

lemma events_bounds (s : ScanState) (n : Int) (ls : List Text) :
    ∀ e ∈ events s n ls, n ≤ e.line ∧ e.line < n + ls.length := by
  induction ls generalizing s n with
  | nil => simp
  | cons l ls ih =>
    intro e he
    rw [events_cons, List.mem_append, Option.mem_toList] at he
    simp only [List.length_cons, Int.natCast_add]
    rcases he with he | he
    · have hm := step_move s l n
      rw [he] at hm
      have := move_line hm
      omega
    · have := ih _ _ e he
      omega

lemma events_increasing (s : ScanState) (n : Int) (ls : List Text) :
    (events s n ls).Pairwise fun a b => a.line < b.line := by
  induction ls generalizing s n with
  | nil => simp
  | cons l ls ih =>
    rw [events_cons, List.pairwise_append]
    refine ⟨?_, ih _ _, fun a ha b hb => ?_⟩
    · cases (step s l n).2 <;> simp
    · have hm := step_move s l n
      rw [Option.mem_toList.mp ha] at hm
      have := move_line hm
      have := events_bounds _ _ _ b hb
      omega

/-- Members one after the other: one that ends on the line it starts on, or a start and the end
of the same member. The last one may be left open. -/
inductive Paired : List ScanEvent → Prop
  | nil : Paired []
  | alone (m : Member) (n : Int) (es : List ScanEvent) (hs : m.startLine = n) (he : m.endLine = n)
      (h : Paired es) : Paired (⟨.memberEnd, n, some m⟩ :: es)
  | pair (m : Member) (n k : Int) (es : List ScanEvent) (hs : m.startLine = n)
      (he : m.endLine = n) (h : Paired es) :
      Paired (⟨.memberStart, n, some m⟩ :: ⟨.memberEnd, k, some { m with endLine := k }⟩ :: es)
  | unfinished (m : Member) (n : Int) (hs : m.startLine = n) (he : m.endLine = n) :
      Paired [⟨.memberStart, n, some m⟩]

/-- What is left of the stream while the member `m` is pending: its end comes first. -/
inductive Closing (m : Member) : List ScanEvent → Prop
  | nil : Closing m []
  | close (k : Int) (es : List ScanEvent) (h : Paired es) :
      Closing m (⟨.memberEnd, k, some { m with endLine := k }⟩ :: es)

lemma Closing.paired {m : Member} {n : Int} {es : List ScanEvent} (h : Closing m es)
    (hs : m.startLine = n) (he : m.endLine = n) : Paired (⟨.memberStart, n, some m⟩ :: es) := by
  cases h with
  | nil => exact .unfinished m n hs he
  | close k es h => exact .pair m n k es hs he h

/-- The events that concern members. -/
def memberEvents (es : List ScanEvent) : List ScanEvent := es.filter fun e => e.kind ≠ .skip

@[simp] lemma memberEvents_skipped (n : Int) (es : List ScanEvent) :
    memberEvents (skipped n :: es) = memberEvents es := by
  simp [memberEvents, skipped]

/-- The rest of the stream, according to the state: the run lemma behind `scan_shape`. -/
lemma events_paired {s : ScanState} {n : Int} (ls : List Text) (h : Good n s) :
    (s.pending = none → Paired (memberEvents (events s n ls))) ∧
    (∀ m, s.pending = some m → Closing m (memberEvents (events s n ls))) := by
  induction ls generalizing s n with
  | nil => exact ⟨fun _ => .nil, fun m _ => .nil⟩
  | cons l ls ih =>
    have hstep := step_move s l n
    have hnext := ih (move_good h hstep)
    rw [events_cons]
    revert hstep hnext
    generalize (step s l n).1 = s', (step s l n).2 = e
    intro hstep hnext
    cases hstep with
    | comment => simpa using hnext
    | closes m hc hp hm ho hd =>
      refine ⟨fun hn => by simp [hm] at hn, fun m' hm' => ?_⟩
      obtain rfl : m = m' := by simpa [hm] using hm'
      exact .close n _ (hnext.1 rfl)
    | stays hc hp hn => simpa using hnext
    | type hc hp ht => simpa using hnext
    | before => simpa using hnext
    | other e hc hp ht hm he =>
      rcases he with rfl | rfl
      · simpa using hnext
      · simpa using hnext
    | alone m hc hp ht hm ha =>
      have hl := member?_lines hm
      refine ⟨fun hn => .alone m n _ hl.1 hl.2 (hnext.1 hn), fun m' hm' => ?_⟩
      have : s.phase = .inBody := h.pending.mpr (by simp [hm'])
      simp [hp] at this
    | opens m hc hp ht hm ha =>
      have hl := member?_lines hm
      refine ⟨fun _ => (hnext.2 m rfl).paired hl.1 hl.2, fun m' hm' => ?_⟩
      have : s.phase = .inBody := h.pending.mpr (by simp [hm'])
      simp [hp] at this

/-! ### Members -/

lemma completed_memberEvents (es : List ScanEvent) :
    (memberEvents es).filterMap ScanEvent.completed? = es.filterMap ScanEvent.completed? := by
  induction es with
  | nil => rfl
  | cons e es ih =>
    by_cases he : e.kind = .skip
    · have hn : e.completed? = none := by simp [ScanEvent.completed?, he]
      simpa [memberEvents, he, List.filterMap_cons, hn] using ih
    · have hf : memberEvents (e :: es) = e :: memberEvents es := by simp [memberEvents, he]
      rw [hf, List.filterMap_cons, List.filterMap_cons, ih]

/-- A completed member starts on the line of an event and ends on the line of another, or of
the same. -/
lemma Paired.lines {es : List ScanEvent} (h : Paired es) :
    ∀ m ∈ es.filterMap ScanEvent.completed?,
      (∃ e ∈ es, e.line = m.startLine) ∧ ∃ e ∈ es, e.line = m.endLine := by
  induction h with
  | nil => simp
  | alone m n es hs he h ih =>
    intro m' hm'
    have hm' : m' = m ∨ m' ∈ es.filterMap ScanEvent.completed? := by
      simpa [ScanEvent.completed?] using hm'
    rcases hm' with rfl | hm'
    · exact ⟨⟨_, List.mem_cons_self .., hs.symm⟩, _, List.mem_cons_self .., he.symm⟩
    · obtain ⟨⟨a, ha, hal⟩, b, hb, hbl⟩ := ih m' hm'
      exact ⟨⟨a, List.mem_cons_of_mem _ ha, hal⟩, b, List.mem_cons_of_mem _ hb, hbl⟩
  | pair m n k es hs he h ih =>
    intro m' hm'
    have hm' : m' = { m with endLine := k } ∨ m' ∈ es.filterMap ScanEvent.completed? := by
      simpa [ScanEvent.completed?] using hm'
    rcases hm' with rfl | hm'
    · exact ⟨⟨_, List.mem_cons_self .., hs.symm⟩,
        ⟨.memberEnd, k, some { m with endLine := k }⟩, by simp, rfl⟩
    · obtain ⟨⟨a, ha, hal⟩, b, hb, hbl⟩ := ih m' hm'
      exact ⟨⟨a, by simp [ha], hal⟩, b, by simp [hb], hbl⟩
  | unfinished m n hs he => simp [ScanEvent.completed?]

/-- Members that lie one behind the other. -/
def Ordered (ms : List Member) : Prop :=
  (∀ m ∈ ms, m.startLine ≤ m.endLine) ∧ ms.Pairwise fun a b => a.endLine < b.startLine

/-- A member that ends before all the events of the others comes in front. -/
lemma Ordered.cons {m : Member} {es : List ScanEvent} (hm : m.startLine ≤ m.endLine)
    (hlater : ∀ e ∈ es, m.endLine < e.line) (hpaired : Paired es)
    (h : Ordered (es.filterMap ScanEvent.completed?)) :
    Ordered (m :: es.filterMap ScanEvent.completed?) := by
  obtain ⟨hle, hsep⟩ := h
  refine ⟨List.forall_mem_cons.mpr ⟨hm, hle⟩, List.pairwise_cons.mpr ⟨fun b hb => ?_, hsep⟩⟩
  obtain ⟨⟨e, hem, hel⟩, -⟩ := hpaired.lines b hb
  have := hlater e hem
  omega

lemma Paired.members_ordered {es : List ScanEvent} (h : Paired es)
    (hlt : es.Pairwise fun a b => a.line < b.line) :
    Ordered (es.filterMap ScanEvent.completed?) := by
  induction h with
  | nil => simp [Ordered]
  | alone m n es hs he h ih =>
    obtain ⟨hfirst, hrest⟩ := List.pairwise_cons.mp hlt
    have hcons : (⟨.memberEnd, n, some m⟩ :: es : List ScanEvent).filterMap
        ScanEvent.completed? = m :: es.filterMap ScanEvent.completed? := by
      simp [ScanEvent.completed?]
    rw [hcons]
    refine Ordered.cons (by omega) (fun e he' => ?_) h (ih hrest)
    have : n < e.line := hfirst e he'
    omega
  | pair m n k es hs he h ih =>
    obtain ⟨hfirst, hlt⟩ := List.pairwise_cons.mp hlt
    obtain ⟨hsecond, hrest⟩ := List.pairwise_cons.mp hlt
    have hcons : (⟨.memberStart, n, some m⟩ :: ⟨.memberEnd, k, some { m with endLine := k }⟩ ::
        es : List ScanEvent).filterMap ScanEvent.completed? =
        { m with endLine := k } :: es.filterMap ScanEvent.completed? := by
      simp [ScanEvent.completed?]
    have hnk : n < k := hfirst ⟨.memberEnd, k, some { m with endLine := k }⟩ (by simp)
    have hmk : m.startLine ≤ k := by omega
    rw [hcons]
    exact Ordered.cons hmk hsecond h (ih hrest)
  | unfinished m n hs he => simp [ScanEvent.completed?, Ordered]

/-- **The shape of a scan.** Events stand in the order of their lines, which are lines of the
text. Those about members pair up. A member is pending exactly while its body is read, the body
is open exactly when braces are, and nothing is counted outside; the type is found once. So the
members of a text lie one behind the other. -/
theorem scan_shape (source : Text) :
    (scan source).Pairwise (fun a b => a.line < b.line) ∧
    (∀ e ∈ scan source, 1 ≤ e.line ∧ e.line ≤ (Text.lines source).length) ∧
    Paired ((scan source).filter fun e => e.kind ≠ .skip) ∧
    (∀ s ∈ states .initial 1 (Text.lines source),
      (s.phase = .inBody ↔ s.pending.isSome) ∧
      (s.phase = .inBody → (s.opened = true ↔ 0 < s.depth)) ∧
      (s.phase ≠ .inBody → s.depth = 0 ∧ s.opened = false)) ∧
    (states .initial 1 (Text.lines source)).Pairwise
      (fun s t => s.phase ≠ .seekingUnit → t.phase ≠ .seekingUnit) ∧
    (∀ m ∈ members source, m.startLine ≤ m.endLine) ∧
    (members source).Pairwise (fun a b => a.endLine < b.startLine) := by
  have hlt := events_increasing .initial 1 (Text.lines source)
  have hpaired := (events_paired (Text.lines source) (good_initial 1)).1 rfl
  have hmembers : members source =
      (memberEvents (scan source)).filterMap ScanEvent.completed? :=
    (completed_memberEvents _).symm
  obtain ⟨hle, hsep⟩ := hpaired.members_ordered (hlt.filter _)
  refine ⟨hlt, ?_, hpaired, ?_, states_phase _ _ _, ?_, ?_⟩
  · intro e he
    have := events_bounds _ _ _ e he
    omega
  · intro s hs
    obtain ⟨k, hk⟩ := states_good (good_initial 1) s hs
    exact ⟨hk.pending, hk.opened, hk.idle⟩
  · rw [hmembers]
    exact hle
  · rw [hmembers]
    exact hsep

end TestWeaver.Proofs.ScanStream
