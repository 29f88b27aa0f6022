import TestWeaver.Path.Basic
import TestWeaver.Proofs.RowText

/-!
Paths and the names in them: reading a path gives the names that it was written with, and a last
name is cut into a stem and a suffix that are put together again.
-/

namespace TestWeaver.Proofs.PathNames

open Text RowText

/-- A text that a path can have as one of its names. -/
structure IsName (n : Text) : Prop where
  ne_nil : n ≠ []
  ne_dot : n ≠ ['.']
  slash : '/' ∉ n

instance : DecidablePred IsName := fun n =>
  decidable_of_iff (n ≠ [] ∧ n ≠ ['.'] ∧ '/' ∉ n)
    ⟨fun h => ⟨h.1, h.2.1, h.2.2⟩, fun h => ⟨h.ne_nil, h.ne_dot, h.slash⟩⟩

/-- The name of the directory above. -/
abbrev up : Text := "..".toList

/-! ### Names of a text -/

lemma isName_of_mem_namesOf {s n : Text} (h : n ∈ Path.namesOf s) : IsName n := by
  obtain ⟨hmem, hne⟩ := List.mem_filter.mp h
  obtain ⟨hnil, hdot⟩ : n ≠ [] ∧ n ≠ ['.'] := by simpa using hne
  exact ⟨hnil, hdot, not_mem_of_mem_splitAt hmem⟩

lemma filter_names {ns : List Text} (h : ∀ n ∈ ns, IsName n) :
    (ns.filter fun p => p ≠ [] && p ≠ ['.']) = ns :=
  List.filter_eq_self.mpr fun n hn => by simp [(h n hn).ne_nil, (h n hn).ne_dot]

/-- The names of a text that is put together from pieces. -/
lemma namesOf_pieces {ps : List Text} (hne : ps ≠ []) (h : ∀ p ∈ ps, '/' ∉ p) :
    Path.namesOf (joinWith '/' ps) = ps.filter fun p => p ≠ [] && p ≠ ['.'] := by
  rw [Path.namesOf, splitAt_joinWith hne h]

lemma namesOf_joinWith {ns : List Text} (h : ∀ n ∈ ns, IsName n) :
    Path.namesOf (joinWith '/' ns) = ns := by
  by_cases hnil : ns = []
  · subst hnil
    rfl
  · rw [namesOf_pieces hnil fun n hn => (h n hn).slash, filter_names h]

/-- The names of a directory below others stand between those around it. -/
lemma namesOf_around {a b : List Text} (s : Text) (ha : ∀ p ∈ a, '/' ∉ p) (hb : ∀ p ∈ b, '/' ∉ p) :
    Path.namesOf (joinWith '/' (a ++ splitAt '/' s ++ b)) =
      a.filter (fun p => p ≠ [] && p ≠ ['.']) ++ Path.namesOf s ++
        b.filter fun p => p ≠ [] && p ≠ ['.'] := by
  have hs : ∀ p ∈ splitAt '/' s, '/' ∉ p := fun p => RowText.not_mem_of_mem_splitAt
  rw [namesOf_pieces (by simp [splitAt_ne_nil]) (List.forall_mem_append.mpr
    ⟨List.forall_mem_append.mpr ⟨ha, hs⟩, hb⟩), List.filter_append, List.filter_append]
  rfl

lemma rootOf_eq_none {s : Text} : Path.rootOf s = .none ↔ s.head? ≠ some '/' := by
  unfold Path.rootOf
  split
  · simp
  · simp
  · simp
  · next hslash =>
    refine iff_of_true rfl fun h => ?_
    obtain ⟨s', rfl⟩ := List.head?_eq_some_iff.mp h
    exact hslash s' rfl

/-- Names put together do not begin with a slash. -/
lemma head?_joinWith {ns : List Text} (h : ∀ n ∈ ns, IsName n) :
    (joinWith '/' ns).head? ≠ some '/' := by
  cases ns with
  | nil => simp [joinWith]
  | cons n ns =>
    obtain ⟨hn, -⟩ := List.forall_mem_cons.mp h
    obtain ⟨s, hs⟩ := exists_joinWith_cons '/' n ns
    rw [hs, List.head?_append_of_ne_nil _ hn.ne_nil]
    intro hhead
    exact hn.slash (List.mem_of_head? hhead)

lemma ofText_joinWith {ns : List Text} (h : ∀ n ∈ ns, IsName n) :
    Path.ofText (joinWith '/' ns) = ⟨.none, ns⟩ := by
  rw [Path.ofText, rootOf_eq_none.mpr (head?_joinWith h), namesOf_joinWith h]

lemma join_relative {root q : Path} (h : q.root = .none) :
    root / q = ⟨root.root, root.parts ++ q.parts⟩ := if_pos h

lemma join_absolute {a b : Path} (h : b.root ≠ .none) : a / b = b := if_neg h

/-! ### Writing paths -/

lemma toText_of_parts {p : Path} (h : p.parts ≠ []) :
    p.toText = Path.PathRoot.text p.root ++ joinWith '/' p.parts := by
  obtain ⟨r, ps⟩ := p
  cases ps with
  | nil => exact absurd rfl h
  | cons n ns => cases r <;> rfl

lemma toText_relative {ns : List Text} (h : ns ≠ []) :
    (⟨.none, ns⟩ : Path).toText = joinWith '/' ns := toText_of_parts h

@[simp] lemma namesOf_slash (s : Text) : Path.namesOf ('/' :: s) = Path.namesOf s := by
  simp [Path.namesOf, splitAt_cons_self]

lemma rootOf_slash {s : Text} (h : s.head? ≠ some '/') : Path.rootOf ('/' :: s) = .slash := by
  cases s with
  | nil => rfl
  | cons c s =>
    have hc : c ≠ '/' := fun hc => h (by rw [hc]; rfl)
    simp [Path.rootOf, hc]

/-- Reading a path that was written gives it back. -/
lemma ofText_toText {p : Path} (h : ∀ n ∈ p.parts, IsName n) : Path.ofText p.toText = p := by
  obtain ⟨r, ps⟩ := p
  by_cases hps : ps = []
  · subst hps
    cases r <;> rfl
  · have hhead := head?_joinWith h
    rw [toText_of_parts hps]
    cases r with
    | none => exact ofText_joinWith h
    | slash =>
      show Path.ofText ('/' :: joinWith '/' ps) = _
      rw [Path.ofText, rootOf_slash hhead, namesOf_slash, namesOf_joinWith h]
    | doubleSlash =>
      show Path.ofText ('/' :: '/' :: joinWith '/' ps) = _
      rw [Path.ofText, namesOf_slash, namesOf_slash, namesOf_joinWith h]
      rcases hjoin : joinWith '/' ps with _ | ⟨c, s⟩
      · rfl
      · have hc : c ≠ '/' := fun hc => hhead (by rw [hjoin, hc]; rfl)
        simp [Path.rootOf, hc]

/-- A path that starts somewhere is written with a slash in front. -/
lemma head?_toText {p : Path} (h : p.root ≠ .none) : p.toText.head? = some '/' := by
  obtain ⟨r, ps⟩ := p
  cases r with
  | none => exact absurd rfl h
  | slash => cases ps <;> rfl
  | doubleSlash => cases ps <;> rfl

/-! ### Stem and suffix -/

lemma cutLast?_eq_none {sep : Char} {s : Text} : cutLast? sep s = none ↔ sep ∉ s := by
  induction s with
  | nil => simp [cutLast?]
  | cons c s ih =>
    rcases hs : cutLast? sep s with _ | ⟨a, b⟩
    · have hrest := ih.mp hs
      by_cases hc : c = sep
      · simp [cutLast?, hs, hc]
      · simp [cutLast?, hs, hc, hrest, Ne.symm hc]
    · have hrest : sep ∈ s := by
        by_contra hnot
        rw [ih.mpr hnot] at hs
        cases hs
      simp [cutLast?, hs, hrest]

lemma cutLast?_append {sep : Char} {b : Text} (h : sep ∉ b) (a : Text) :
    cutLast? sep (a ++ sep :: b) = some (a, b) := by
  induction a with
  | nil => simp [cutLast?, cutLast?_eq_none.mpr h]
  | cons c a ih => simp [cutLast?, ih]

lemma eq_append_of_cutLast? {sep : Char} {s a b : Text} (h : cutLast? sep s = some (a, b)) :
    s = a ++ sep :: b ∧ sep ∉ b := by
  induction s generalizing a with
  | nil => cases h
  | cons c s ih =>
    rw [cutLast?] at h
    split at h
    · next a' b' hs =>
      obtain ⟨rfl, rfl⟩ := Prod.mk.inj (Option.some.inj h)
      obtain ⟨rfl, hb⟩ := ih hs
      exact ⟨rfl, hb⟩
    · next hs =>
      split at h
      · next hc =>
        obtain ⟨rfl, rfl⟩ := Prod.mk.inj (Option.some.inj h)
        exact ⟨by rw [hc]; rfl, cutLast?_eq_none.mp hs⟩
      · cases h

/-- The two parts of a name: a suffix is empty or a dot and something without dots. -/
lemma cutName_cases (n : Text) :
    Path.cutName n = (n, []) ∨ ∃ a b, a ≠ [] ∧ b ≠ [] ∧ '.' ∉ b ∧ n = a ++ '.' :: b ∧
      Path.cutName n = (a, '.' :: b) := by
  unfold Path.cutName
  split
  · next c a d b h =>
    obtain ⟨hn, hb⟩ := eq_append_of_cutLast? h
    exact .inr ⟨c :: a, d :: b, by simp, by simp, hb, hn, rfl⟩
  · exact .inl rfl

lemma cutName_append {a b : Text} (ha : a ≠ []) (hb : b ≠ []) (hdot : '.' ∉ b) :
    Path.cutName (a ++ '.' :: b) = (a, '.' :: b) := by
  obtain ⟨c, a, rfl⟩ := List.exists_cons_of_ne_nil ha
  obtain ⟨d, b, rfl⟩ := List.exists_cons_of_ne_nil hb
  rw [Path.cutName, cutLast?_append hdot]

lemma stem_ne_nil {n : Text} (h : n ≠ []) : (Path.cutName n).1 ≠ [] := by
  rcases cutName_cases n with hn | ⟨a, b, ha, -, -, -, hn⟩
  · rw [hn]
    exact h
  · rw [hn]
    exact ha

lemma stem_append_suffix (n : Text) : (Path.cutName n).1 ++ (Path.cutName n).2 = n := by
  rcases cutName_cases n with hn | ⟨a, b, -, -, -, hsplit, hn⟩
  · rw [hn]
    exact List.append_nil n
  · rw [hn]
    exact hsplit.symm

lemma isName_isName {n : Text} (h : IsName n) : Path.isName n = true := by
  have hroot : Path.rootOf n = .none :=
    rootOf_eq_none.mpr fun hhead => h.slash (List.mem_of_head? hhead)
  have hsingle : ∀ m ∈ [n], IsName m := List.forall_mem_singleton.mpr h
  have hnames : Path.namesOf n = [n] := namesOf_joinWith hsingle
  have hlast : n.getLast? ≠ some '/' := fun hl => h.slash (List.mem_of_getLast? hl)
  simp [Path.isName, hroot, hnames, hlast]

end TestWeaver.Proofs.PathNames
