import Mathlib.Data.List.Infix
import TestWeaver.Proofs.FirstType

/-!
The braces that are open where a member starts.

A member closes as many braces as it opens, at the least. So a brace that stands inside a member is
closed where the next one starts: no member lies in the body of another. Braces outside members are
not counted by the scan. They may be those of types, but those of a constructor, an initializer or
the value of a field too, and methods in these are members like any other.
-/

namespace TestWeaver.Proofs.OpenBraces

open Source Text MergedBraces ScanMoves ScanStream ScanReference FirstType

/-- No brace is closed that was opened in front of the text. -/
def StaysOpen (s : Text) : Prop := ∀ w ∈ s.inits, 0 ≤ braceDelta w

instance : DecidablePred StaysOpen := fun s =>
  inferInstanceAs (Decidable (∀ w ∈ s.inits, 0 ≤ braceDelta w))

/-- The rows of code from line `a` on, up to line `b`. -/
def rowsBetween (source : Text) (a b : Int) : List Row :=
  (codeRows source).filter fun r => a ≤ r.2 ∧ r.2 < b

/-- The code from line `a` on, up to line `b`. -/
def codeBetween (source : Text) (a b : Int) : Text := (rowsBetween source a b).flatMap Prod.fst

/-- A brace above line `n` that is still open in front of that line. -/
structure OpenBrace (source : Text) (n : Int) where
  before : Text
  after : Text
  line : ℕ
  mem : (before ++ '{' :: after, line) ∈ codeRows source
  above : line < n
  still_open : StaysOpen (after ++ codeBetween source (line + 1) n)

namespace OpenBrace

variable {source : Text} {n : Int}

/-- The brace opens the body of a type: it stands on the line of a declaration or is the first one
behind that line. -/
def OfType (b : OpenBrace source n) : Prop :=
  declaresType (dropAnnotations (b.before ++ '{' :: b.after)) = true ∨
    '{' ∉ b.before ∧ ∃ r ∈ codeRows source, r.2 < b.line ∧
      declaresType (dropAnnotations r.1) = true ∧ '{' ∉ codeBetween source r.2 b.line

/-- The brace stands on a line of the member, in front of any brace that closes what was open above
the member. -/
def Inside (b : OpenBrace source n) (m : Member) : Prop :=
  m.startLine ≤ b.line ∧ b.line ≤ m.endLine ∧
    StaysOpen (codeBetween source m.startLine b.line ++ b.before)

end OpenBrace

/-! ### Rows -/

lemma codeRows_increasing (source : Text) : (codeRows source).Pairwise fun a b => a.2 < b.2 := by
  have hsnd : ((lines source).zipIdx 1).Pairwise fun a b => a.2 < b.2 := by
    rw [← List.pairwise_map (f := Prod.snd), List.zipIdx_map_snd]
    exact List.pairwise_lt_range'
  exact hsnd.filter _

/-- Rows that come first are those that a filter keeps, if it keeps all in front of one it keeps. -/
lemma filter_append_filter {p : Row → Bool} {rows : List Row}
    (h : rows.Pairwise fun a b => p b = true → p a = true) :
    rows.filter p ++ rows.filter (fun r => !p r) = rows := by
  induction rows with
  | nil => rfl
  | cons r rows ih =>
    obtain ⟨hr, hrows⟩ := List.pairwise_cons.mp h
    by_cases hp : p r = true
    · simp [hp, ih hrows]
    · -- what stands behind a row that is left out is left out too
      have hnone : ∀ q ∈ rows, p q = false := fun q hq => by simpa using mt (hr q hq) hp
      have hkept : rows.filter p = [] := List.filter_eq_nil_iff.mpr fun q hq => by simp [hnone q hq]
      have hrest : rows.filter (fun r => !p r) = rows :=
        List.filter_eq_self.mpr fun q hq => by simp [hnone q hq]
      simp [hp, hkept, hrest]

lemma rowsBetween_append (source : Text) {a b c : Int} (hab : a ≤ b) (hbc : b ≤ c) :
    rowsBetween source a c = rowsBetween source a b ++ rowsBetween source b c := by
  have hsorted : (rowsBetween source a c).Pairwise
      fun q r => decide ((r.2 : Int) < b) = true → decide ((q.2 : Int) < b) = true := by
    refine ((codeRows_increasing source).filter _).imp fun hlt h => ?_
    rw [decide_eq_true_iff] at h ⊢
    omega
  rw [← filter_append_filter hsorted]
  congr 1
  · rw [rowsBetween, rowsBetween, List.filter_filter]
    refine List.filter_congr fun r _ => ?_
    rw [← Bool.decide_and, decide_eq_decide]
    omega
  · rw [rowsBetween, rowsBetween, List.filter_filter]
    refine List.filter_congr fun r _ => ?_
    rw [← decide_not, ← Bool.decide_and, decide_eq_decide]
    omega

/-- A line of code is one row. -/
lemma rowsBetween_single {source : Text} {r : Row} (hr : r ∈ codeRows source) :
    rowsBetween source r.2 (r.2 + 1) = [r] := by
  have hline : ∀ q ∈ rowsBetween source r.2 (r.2 + 1), q.2 = r.2 := by
    intro q hq
    have := of_decide_eq_true (List.mem_filter.mp hq).2
    omega
  have hmem : r ∈ rowsBetween source r.2 (r.2 + 1) := by
    refine List.mem_filter.mpr ⟨hr, decide_eq_true ?_⟩
    omega
  have hsorted : (rowsBetween source r.2 (r.2 + 1)).Pairwise fun a b => a.2 < b.2 :=
    (codeRows_increasing source).filter _
  revert hline hmem hsorted
  generalize rowsBetween source r.2 (r.2 + 1) = rows
  intro hline hmem hsorted
  rcases rows with _ | ⟨p, _ | ⟨q, rows⟩⟩
  · cases hmem
  · rw [List.mem_singleton.mp hmem]
  · have hp := hline p (by simp)
    have hq := hline q (by simp)
    have := (List.pairwise_cons.mp hsorted).1 q (by simp)
    omega

@[simp] lemma net_append (as bs : List Row) : net (as ++ bs) = net as + net bs := by
  simp [net]

lemma braceDelta_flatMap (rows : List Row) : braceDelta (rows.flatMap Prod.fst) = net rows := by
  induction rows with
  | nil => rfl
  | cons r rows ih =>
    rw [List.flatMap_cons, braceDelta_append, ih]
    rfl

lemma net_le_zero {rows : List Row} (h : ∀ r ∈ rows, '{' ∉ r.1) : net rows ≤ 0 := by
  rw [← braceDelta_flatMap]
  refine braceDelta_le_zero fun hmem => ?_
  obtain ⟨r, hr, hin⟩ := List.mem_flatMap.mp hmem
  exact h r hr hin

/-! ### Members -/

/-- The rows of a member, which leave no brace open. -/
structure Span (m : Member) (rows : List Row) : Prop where
  first : ∃ r ∈ rows.head?, (r.2 : Int) = m.startLine
  last : ∃ r ∈ rows.getLast?, (r.2 : Int) = m.endLine
  closed : net rows ≤ 0

/-- A body closes what it opens, and the rows in front of its first brace open nothing. -/
lemma bodyEnd?_closed {rows : List Row} {e : ℕ} (h : bodyEnd? rows = some e) :
    e < rows.length ∧ net (rows.take (e + 1)) ≤ 0 := by
  obtain ⟨f, hf, he⟩ := Option.bind_eq_some_iff.mp h
  have hrange := List.mem_range.mp (List.mem_of_find?_eq_some he)
  have hbody := List.find?_some he
  rw [decide_eq_true_iff] at hbody
  obtain ⟨hfe, -, hbody⟩ := hbody
  have hhead : net (rows.take f) ≤ 0 := by
    obtain ⟨_, -, hfree⟩ := List.findIdx?_eq_some_iff_getElem.mp hf
    refine net_le_zero fun r hr => ?_
    obtain ⟨i, hi, rfl⟩ := List.mem_take_iff_getElem.mp hr
    simpa using hfree i (by omega)
  have hsplit : rows.take (e + 1) = rows.take f ++ (rows.take (e + 1)).drop f := by
    have hmin : min f (e + 1) = f := by omega
    conv_lhs => rw [← List.take_append_drop f (rows.take (e + 1)), List.take_take, hmin]
  refine ⟨hrange, ?_⟩
  rw [hsplit, net_append]
  omega

lemma header?_lines {r : Row} {m : Member} (h : ScanReference.header? r = some m) :
    m.startLine = r.2 ∧ m.endLine = r.2 := by
  rw [ScanReference.header?] at h
  split at h
  · cases h
  · exact member?_lines h

lemma span_alone {r : Row} {m : Member} (h : ScanReference.header? r = some m)
    (ha : StandsAlone r.1) : Span m [r] := by
  obtain ⟨hfirst, hlast⟩ := header?_lines h
  refine ⟨⟨r, rfl, hfirst.symm⟩, ⟨r, rfl, hlast.symm⟩, ?_⟩
  have hnet : net [r] = braceDelta r.1 := by simp [net]
  rw [hnet]
  by_cases hb : '{' ∈ r.1
  · simpa [StandsAlone, hb] using ha
  · exact braceDelta_le_zero hb

lemma span_body {r : Row} {rest : List Row} {m : Member} {e : ℕ}
    (h : ScanReference.header? r = some m) (he : bodyEnd? (r :: rest) = some e) :
    Span { m with endLine := lineNumber (r :: rest) e } ((r :: rest).take (e + 1)) := by
  obtain ⟨hlt, hclosed⟩ := bodyEnd?_closed he
  refine ⟨⟨r, rfl, (header?_lines h).1.symm⟩, ⟨(r :: rest)[e], ?_, ?_⟩, hclosed⟩
  · rw [List.getLast?_take]
    simp
  · have hlt : e < ((r :: rest).map Prod.snd).length := by rwa [List.length_map]
    rw [lineNumber, List.getD_eq_getElem?_getD, List.getElem?_eq_getElem hlt, Option.getD_some,
      List.getElem_map]

/-- A member takes up rows that lie together. -/
lemma exists_span (rows : List Row) : ∀ m ∈ membersIn rows,
    ∃ above span below, rows = above ++ (span ++ below) ∧ Span m span := by
  fun_induction membersIn rows with
  | case1 => simp
  | case2 r rest hm ih =>
    intro m hm
    obtain ⟨above, span, below, rfl, hspan⟩ := ih m hm
    exact ⟨r :: above, span, below, rfl, hspan⟩
  | case3 r rest m hheader halone ih =>
    intro m' hm'
    rcases List.mem_cons.mp hm' with rfl | hm'
    · exact ⟨[], [r], rest, rfl, span_alone hheader halone⟩
    · obtain ⟨above, span, below, rfl, hspan⟩ := ih m' hm'
      exact ⟨r :: above, span, below, rfl, hspan⟩
  | case4 => simp
  | case5 r rest m hheader halone e hend ih =>
    intro m' hm'
    rcases List.mem_cons.mp hm' with rfl | hm'
    · exact ⟨[], _, (r :: rest).drop (e + 1), (List.take_append_drop _ _).symm,
        span_body hheader hend⟩
    · obtain ⟨above, span, below, hrest, hspan⟩ := ih m' hm'
      refine ⟨(r :: rest).take (e + 1) ++ above, span, below, ?_, hspan⟩
      rw [List.append_assoc, ← hrest, List.take_succ_cons, List.cons_append, List.take_append_drop]

lemma Span.bounds {m : Member} {span : List Row} (h : Span m span)
    (hsorted : span.Pairwise fun a b => a.2 < b.2) :
    ∀ r ∈ span, m.startLine ≤ r.2 ∧ (r.2 : Int) ≤ m.endLine := by
  obtain ⟨first, hfirst, hstart⟩ := h.first
  obtain ⟨last, hlast, hend⟩ := h.last
  intro r hr
  constructor
  · obtain ⟨tail, rfl⟩ := List.head?_eq_some_iff.mp hfirst
    rcases List.mem_cons.mp hr with rfl | hr
    · omega
    · have := (List.pairwise_cons.mp hsorted).1 r hr
      omega
  · obtain ⟨init, rfl⟩ := List.getLast?_eq_some_iff.mp hlast
    rcases List.mem_append.mp hr with hr | hr
    · have := (List.pairwise_append.mp hsorted).2.2 r hr last (List.mem_singleton_self _)
      omega
    · rw [List.mem_singleton.mp hr]
      omega

/-- The rows of a member are those between its lines. -/
lemma rowsBetween_span {source : Text} {m : Member} {above span below : List Row}
    (hrows : codeRows source = above ++ (span ++ below)) (h : Span m span) :
    rowsBetween source m.startLine (m.endLine + 1) = span := by
  have hsorted := codeRows_increasing source
  rw [hrows] at hsorted
  obtain ⟨-, hsorted, habove⟩ := List.pairwise_append.mp hsorted
  obtain ⟨hsorted, -, hbelow⟩ := List.pairwise_append.mp hsorted
  obtain ⟨first, hfirst, hstart⟩ := h.first
  obtain ⟨last, hlast, hend⟩ := h.last
  have hout : ∀ rows : List Row, (∀ r ∈ rows, r.2 < first.2 ∨ last.2 < r.2) →
      rows.filter (fun r => m.startLine ≤ r.2 ∧ r.2 < m.endLine + 1) = [] := by
    intro rows hrows
    refine List.filter_eq_nil_iff.mpr fun r hr hkept => ?_
    have := of_decide_eq_true hkept
    have := hrows r hr
    omega
  have hin : span.filter (fun r => m.startLine ≤ r.2 ∧ r.2 < m.endLine + 1) = span := by
    refine List.filter_eq_self.mpr fun r hr => decide_eq_true ?_
    have := h.bounds hsorted r hr
    omega
  rw [rowsBetween, hrows, List.filter_append, List.filter_append, hin,
    hout above fun r hr => .inl (habove r hr first
      (List.mem_append_left _ (List.mem_of_mem_head? hfirst))),
    hout below fun r hr => .inr (hbelow last (List.mem_of_mem_getLast? hlast) r hr),
    List.append_nil, List.nil_append]

/-- A member of the text stands below the declaration of a type and leaves no brace open. -/
lemma closed_of_mem {source : Text} {m : Member} (hm : m ∈ members source) :
    (∃ r ∈ codeRows source, (r.2 : Int) < m.startLine ∧
      declaresType (dropAnnotations r.1) = true) ∧
      net (rowsBetween source m.startLine (m.endLine + 1)) ≤ 0 := by
  rw [members_eq_completed] at hm
  obtain ⟨front, t, rest, hrows, ht, hm⟩ := exists_declaration (codeRows_code source) hm
  obtain ⟨above, span, below, rfl, hspan⟩ := exists_span rest m hm
  refine ⟨⟨t, by simp [hrows], ?_, ht⟩, ?_⟩
  · obtain ⟨first, hfirst, hstart⟩ := hspan.first
    have hsorted := codeRows_increasing source
    rw [hrows] at hsorted
    have hlt := (List.pairwise_cons.mp (List.pairwise_append.mp hsorted).2.1).1 first (by
      simp [List.mem_of_mem_head? hfirst])
    omega
  · have hrows : codeRows source = (front ++ t :: above) ++ (span ++ below) := by simp [hrows]
    rw [rowsBetween_span hrows hspan]
    exact hspan.closed

/-- Members lie one behind the other. -/
lemma members_ordered (source : Text) : Ordered (members source) := by
  have hmembers : members source =
      (memberEvents (events .initial 1 (lines source))).filterMap ScanEvent.completed? :=
    (completed_memberEvents _).symm
  rw [hmembers]
  exact ((events_paired _ (good_initial 1)).1 rfl).members_ordered
    ((events_increasing _ _ _).filter _)

/-- Two members are the same, or one of them ends above the other. -/
lemma apart_of_ordered {ms : List Member} (h : Ordered ms) {a b : Member} (ha : a ∈ ms)
    (hb : b ∈ ms) : a = b ∨ a.endLine < b.startLine ∨ b.endLine < a.startLine := by
  have hsep := List.pairwise_iff_getElem.mp h.2
  obtain ⟨i, hi, rfl⟩ := List.getElem_of_mem ha
  obtain ⟨j, hj, rfl⟩ := List.getElem_of_mem hb
  rcases Nat.lt_trichotomy i j with hij | rfl | hij
  · exact .inr (.inl (hsep i j hi hj hij))
  · exact .inl rfl
  · exact .inr (.inr (hsep j i hj hi hij))

lemma StaysOpen.nonneg {s w : Text} (h : StaysOpen s) (hw : w <+: s) : 0 ≤ braceDelta w :=
  h w ((List.mem_inits _ _).mpr hw)

/-- **Members lie outside each other**: every member stands below the declaration of a type, and no
brace that is open where it starts was opened inside a member. -/
theorem members_outside (source : Text) : ∀ m ∈ members source,
    (∃ r ∈ codeRows source, (r.2 : Int) < m.startLine ∧
      declaresType (dropAnnotations r.1) = true) ∧
    ∀ b : OpenBrace source m.startLine, ∀ m' ∈ members source, ¬ b.Inside m' := by
  intro m hm
  refine ⟨(closed_of_mem hm).1, ?_⟩
  rintro b m' hm' ⟨hstart, hend, hinside⟩
  have hbefore : m'.endLine < m.startLine := by
    have hordered := members_ordered source
    have := hordered.1 m hm
    have := b.above
    rcases apart_of_ordered hordered hm' hm with rfl | hlt | hlt
    · omega
    · exact hlt
    · omega
  -- the rows of the other member: those above the line of the brace, that line, those below it
  have hrow : rowsBetween source b.line (b.line + 1) = [(b.before ++ '{' :: b.after, b.line)] :=
    rowsBetween_single b.mem
  have hclosed := (closed_of_mem hm').2
  rw [rowsBetween_append source hstart (by omega), rowsBetween_append source (a := b.line)
    (b := b.line + 1) (by omega) (by omega), hrow, net_append, net_append] at hclosed
  -- the brace counts one, and neither what stands in front of it nor what stands behind it less
  -- than nothing, so the rows would leave a brace open
  have hopened := hinside.nonneg List.prefix_rfl
  have hkept : 0 ≤ braceDelta (b.after ++ codeBetween source (b.line + 1) (m'.endLine + 1)) := by
    refine b.still_open.nonneg ?_
    rw [codeBetween, codeBetween, rowsBetween_append source (b := m'.endLine + 1)
      (c := m.startLine) (by omega) (by omega), List.flatMap_append, ← List.append_assoc]
    exact List.prefix_append _ _
  have hline : net [(b.before ++ '{' :: b.after, b.line)] =
      braceDelta b.before + (braceDelta b.after + 1) := by simp [net]
  simp only [braceDelta_append, codeBetween, braceDelta_flatMap] at hopened hkept
  omega

/-- A method in the body of another one is none, and the one below it is in the type only. -/
theorem members_outside_second :
    let source := ("class A \x7b\n  void f() \x7b\n    B b = new B() \x7b\n" ++
      "      void h() \x7b\x7d\n    \x7d;\n  \x7d\n  void g() \x7b\x7d\n\x7d").toList
    let g : Member :=
      { name := ['g'], modifiers := [], resultType := "void".toList, parameters := [],
        startLine := 7, endLine := 7 }
    g ∈ members source ∧ (∃ r ∈ codeRows source, (r.2 : Int) < g.startLine ∧
      declaresType (dropAnnotations r.1) = true) ∧
      ∃ b : OpenBrace source g.startLine, b.OfType ∧ ∀ m ∈ members source, ¬ b.Inside m := by
  intro source g
  have hg : g ∈ members source := by decide +kernel
  obtain ⟨htype, hbrace⟩ := members_outside source g hg
  let b : OpenBrace source g.startLine :=
    { before := "class A ".toList
      after := []
      line := 1
      mem := by decide +kernel
      above := by decide
      still_open := by decide +kernel }
  exact ⟨hg, htype, b, .inl (by decide +kernel), hbrace b⟩

/-- Braces of a constructor are not counted: a method in its body is a member. -/
theorem members_outside_constructor :
    let source := ("class A \x7b\n  A() \x7b\n    B b = new B() \x7b\n" ++
      "      void f() \x7b\x7d\n    \x7d;\n  \x7d\n\x7d").toList
    source.all (fun c => isWordChar c || isBlank c || "=();\x7b\x7d".toList.contains c) ∧
      StaysOpen source ∧ Balanced source ∧
      ∃ m ∈ members source, ∃ b : OpenBrace source m.startLine, ¬ b.OfType := by
  intro source
  let f : Member :=
    { name := ['f'], modifiers := [], resultType := "void".toList, parameters := [],
      startLine := 4, endLine := 4 }
  let b : OpenBrace source f.startLine :=
    { before := "  A() ".toList
      after := []
      line := 2
      mem := by decide +kernel
      above := by decide
      still_open := by decide +kernel }
  have hother : ¬ b.OfType := by
    unfold OpenBrace.OfType
    decide +kernel
  exact ⟨by decide +kernel, by decide +kernel, by decide +kernel, f, by decide +kernel, b, hother⟩

end TestWeaver.Proofs.OpenBraces
