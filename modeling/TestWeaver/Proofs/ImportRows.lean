import TestWeaver.Proofs.ImportStatement
import TestWeaver.Proofs.RowText

/-!
The directives of a text, row by row.

Each row starts at most one statement, and the rows inside a statement start none. So the
directives of rows put together are those of the parts, but for a statement that starts in the
upper part and ends in the lower one.
-/

namespace TestWeaver.Proofs.ImportRows

open Source Text ImportStatement RowText

/-! ### The search for statements -/

section Search

variable {α : Type} {read : Text → Option (α × Text)}

variable (read) in
/-- Characters that are taken already are passed over. -/
lemma statementsFrom_taken (x : Text) (c : Char) (t : Text) (atRow : Bool) :
    statementsFrom read (x.length + 1) atRow (x ++ c :: t) =
      statementsFrom read 0 (c = '\n') t := by
  induction x generalizing atRow with
  | nil => simp [statementsFrom]
  | cons d x ih => simpa [statementsFrom] using ih _

variable (read) in
/-- Inside a row nothing starts. -/
lemma statementsFrom_inside {r : Text} (hr : '\n' ∉ r) (t : Text) :
    statementsFrom read 0 false (r ++ t) = statementsFrom read 0 false t := by
  induction r with
  | nil => rfl
  | cons c r ih =>
    obtain ⟨hc, hr⟩ := List.ne_and_not_mem_of_not_mem_cons hr
    have := ih hr
    simpa [statementsFrom, Ne.symm hc] using this

lemma statementsFrom_newline (t : Text) :
    statementsFrom read 0 false ('\n' :: t) = statements read t := by
  simp [statementsFrom, statements]

@[simp] lemma statements_nil : statements read [] = [] := rfl

lemma statements_of_none {r : Text} (hr : '\n' ∉ r) (hne : r ≠ []) (t : Text)
    (h : read (r ++ t) = none) : statements read (r ++ t) = statementsFrom read 0 false t := by
  obtain ⟨c, r, rfl⟩ := List.exists_cons_of_ne_nil hne
  obtain ⟨hc, hr⟩ := List.ne_and_not_mem_of_not_mem_cons hr
  rw [← statementsFrom_inside read hr t]
  simp only [List.cons_append] at h ⊢
  simp [statements, statementsFrom, h, Ne.symm hc]

lemma statements_row_of_none {r : Text} (hr : '\n' ∉ r) (t : Text)
    (h : read (r ++ '\n' :: t) = none) :
    statements read (r ++ '\n' :: t) = statements read t := by
  by_cases hne : r = []
  · subst hne
    simp only [List.nil_append] at h ⊢
    simp [statements, statementsFrom, h]
  · rw [statements_of_none hr hne _ h, statementsFrom_newline]

lemma statements_of_some {x t : Text} {c : Char} {a : α} (hc : c ≠ '\n') (hx : x ≠ [])
    (h : read (x ++ c :: t) = some (a, t)) :
    statements read (x ++ c :: t) = a :: statementsFrom read 0 false t := by
  obtain ⟨d, x, rfl⟩ := List.exists_cons_of_ne_nil hx
  have hlen : (x ++ c :: t).length - t.length = x.length + 1 := by
    simp only [List.length_append, List.length_cons]
    omega
  have htaken := statementsFrom_taken read x c t (d = '\n')
  simp only [List.cons_append] at h ⊢
  simp only [statements, statementsFrom, if_true, h, hlen, htaken]
  simp [hc]

end Search

/-! ### One row more -/

lemma directives_tail {v : Text} (h : Tail v) (t : Text) :
    directives (v ++ t) = statementsFrom directive? 0 false t := by
  induction hk : v.length using Nat.strongRecOn generalizing v with
  | _ k ih =>
    have hnone := h.directive? t
    have hne : v ≠ [] := by
      rcases h with ⟨-, -⟩ | ⟨-, -, -⟩ <;> simp
    by_cases hv : '\n' ∈ v
    · obtain ⟨x, y, rfl, hx⟩ := List.eq_append_cons_of_mem hv
      have hlen : y.length < k := by
        simp only [List.length_append, List.length_cons] at hk
        omega
      rw [List.append_assoc, List.cons_append] at hnone ⊢
      rw [directives, statements_row_of_none hx _ hnone]
      exact ih _ hlen (h.below rfl) rfl
    · exact statements_of_none hv hne t hnone

/-- The directive of the statement that starts on the first row. -/
def opening (rows : List Text) : List Text :=
  match rows with
  | [] => []
  | r :: rs =>
    if trimStart r = [] then [] else ((directive? (unrows (r :: rs))).map Prod.fst).toList

lemma directives_of_some {s d t : Text} (h : directive? s = some (d, t)) :
    directives s = d :: statementsFrom directive? 0 false t := by
  obtain ⟨u, hu, rfl⟩ := directive?_eq_some_iff.mp h
  obtain ⟨x, hx, rfl⟩ := hu.shape
  rw [List.append_assoc, List.singleton_append] at h ⊢
  exact statements_of_some (by decide) hx h

lemma directives_blank {r : Text} (hr : '\n' ∉ r) (h : Blanks r) (s : Text) :
    directives (r ++ '\n' :: s) = directives s := by
  have hs : directive? (r ++ '\n' :: s) = directive? s := by
    have hb : Blanks (r ++ ['\n']) := h.append (by simp [Blanks]; decide)
    simpa using directive?_blank hb s
  rcases hd : directive? s with _ | ⟨d, t⟩
  · exact statements_row_of_none hr s (hs.trans hd)
  · rw [directives_of_some hd, directives_of_some (hs.trans hd)]

lemma directives_of_none {r : Text} (hr : '\n' ∉ r) (rs : List Text)
    (h : directive? (unrows (r :: rs)) = none) :
    directives (unrows (r :: rs)) = directives (unrows rs) := by
  by_cases hrs : rs = []
  · subst hrs
    by_cases hne : r = []
    · subst hne
      rfl
    · have := statements_of_none hr hne [] (by simpa [joinWith] using h)
      simpa [directives, joinWith, statementsFrom] using this
  · rw [unrows, joinWith_cons r hrs] at h ⊢
    exact statements_row_of_none hr _ h

/-- Behind a statement that starts on the first row, the search finds what the rows below hold,
whether the statement ends on its own row or on one of these. -/
lemma statementsFrom_behind {r u d t : Text} (hr : '\n' ∉ r) (hb : trimStart r ≠ [])
    (rs : List Text) (hu : Statement u d) (hut : unrows (r :: rs) = u ++ t) :
    statementsFrom directive? 0 false t = directives (unrows rs) := by
  by_cases hrs : rs = []
  · subst hrs
    have ht : '\n' ∉ t := by
      intro ht
      exact hr (by rw [show r = u ++ t by simpa [joinWith] using hut]; simp [ht])
    have := statementsFrom_inside directive? ht []
    simpa [directives, statementsFrom, joinWith] using this
  rw [unrows, joinWith_cons r hrs] at hut
  rcases newline_split hut.symm with ⟨z, hz, hy⟩ | ⟨z, hz, ht⟩
  · rw [unrows, hy]
    exact (directives_tail (hu.tail hz hb) t).symm
  · have hzr : '\n' ∉ z := fun h => hr (by rw [hz]; simp [h])
    rw [ht, statementsFrom_inside directive? hzr, statementsFrom_newline]
    rfl

/-- **One row more**: its own statement, then those of the rows below. -/
theorem directives_cons {r : Text} (hr : '\n' ∉ r) (rs : List Text) :
    directives (unrows (r :: rs)) = opening (r :: rs) ++ directives (unrows rs) := by
  by_cases hb : trimStart r = []
  · have hblank := blanks_of_trimStart hb
    simp only [opening, hb, if_true, List.nil_append]
    by_cases hrs : rs = []
    · subst hrs
      have hnone := directive?_blank hblank []
      rw [List.append_nil] at hnone
      exact directives_of_none hr [] hnone
    · rw [unrows, joinWith_cons r hrs]
      exact directives_blank hr hblank _
  simp only [opening, hb, if_false]
  rcases hd : directive? (unrows (r :: rs)) with _ | ⟨d, t⟩
  · exact directives_of_none hr rs hd
  · obtain ⟨u, hu, hut⟩ := directive?_eq_some_iff.mp hd
    rw [directives_of_some hd, statementsFrom_behind hr hb rs hu hut]
    rfl

/-! ### Rows put together -/

/-- The directive of the statement that starts in the rows above and ends in those below. -/
def crossing : List Text → List Text → List Text
  | [], _ => []
  | r :: above, below =>
    if trimStart r = [] then crossing above below
    else
      match directive? (unrows (r :: above)), directive? (unrows (r :: above ++ below)) with
      | none, some (d, _) => [d]
      | _, _ => crossing above below

lemma unrows_append {above below : List Text} (ha : above ≠ []) (hb : below ≠ []) :
    unrows (above ++ below) = unrows above ++ '\n' :: unrows below := joinWith_append ha hb

/-- A statement that the rows above do not hold on their own ends in the rows below. -/
lemma statement_of_crossing {above below : List Text} {d t : Text} (ha : above ≠ [])
    (hb : below ≠ []) (hown : directive? (unrows above) = none)
    (hall : directive? (unrows (above ++ below)) = some (d, t)) :
    ∃ u v, Statement u d ∧ u = unrows above ++ '\n' :: v ∧ unrows below = v ++ t := by
  obtain ⟨u, hu, hut⟩ := directive?_eq_some_iff.mp hall
  rw [unrows_append ha hb] at hut
  rcases newline_split hut.symm with ⟨v, hv, hy⟩ | ⟨z, hz, -⟩
  · exact ⟨u, v, hu, hv, hy⟩
  · rw [hz, directive?_append hu z] at hown
    cases hown

/-- Rows inside a statement add nothing, neither with what follows nor on their own. -/
lemma directives_inside {above below : List Text} {v t : Text} (ha : ∀ r ∈ above, '\n' ∉ r)
    (hb : below ≠ []) (ht : above ≠ [] → Tail (unrows above ++ '\n' :: v))
    (hv : unrows below = v ++ t) :
    directives (unrows (above ++ below)) = directives (unrows below) ∧
      directives (unrows above) = [] := by
  induction above with
  | nil => exact ⟨rfl, rfl⟩
  | cons a as ih =>
    obtain ⟨har, hasr⟩ := List.forall_mem_cons.mp ha
    have ht := ht (by simp)
    have hwhole : directive? (unrows (a :: as ++ below)) = none := by
      rw [unrows_append (by simp) hb, hv]
      simpa using ht.directive? t
    have hown : directive? (unrows (a :: as)) = none := by
      by_contra hsome
      obtain ⟨⟨d, t'⟩, hd⟩ := Option.ne_none_iff_exists'.mp hsome
      have := directive?_extend hd ('\n' :: unrows below)
      rw [← unrows_append (by simp) hb, hwhole] at this
      cases this
    have h1 : opening (a :: as ++ below) = [] := by
      rw [List.cons_append] at hwhole ⊢
      simp [opening, hwhole]
    have h2 : opening (a :: as) = [] := by simp [opening, hown]
    rw [List.cons_append, directives_cons har, directives_cons har, ← List.cons_append, h1, h2,
      List.nil_append, List.nil_append]
    refine ih hasr fun has => ht.below (x := a) ?_
    rw [unrows, joinWith_cons a has]
    simp

lemma crossing_nil (above : List Text) : crossing above [] = [] := by
  induction above with
  | nil => rfl
  | cons r above ih =>
    rw [crossing, List.append_nil, ih]
    split
    · rfl
    · cases directive? (unrows (r :: above)) <;> rfl

/-- **Rows put together**: the directives of both parts, and between them that of a statement
that runs across the border. -/
theorem directives_append {above : List Text} (ha : ∀ r ∈ above, '\n' ∉ r) (below : List Text) :
    directives (unrows (above ++ below)) =
      directives (unrows above) ++ crossing above below ++ directives (unrows below) := by
  by_cases hb : below = []
  · subst hb
    have hnil : directives (unrows []) = [] := rfl
    rw [List.append_nil, crossing_nil, hnil, List.append_nil, List.append_nil]
  induction above with
  | nil => rfl
  | cons r above ih =>
    obtain ⟨hr, hrest⟩ := List.forall_mem_cons.mp ha
    have ih := ih hrest
    rw [List.cons_append, directives_cons hr, directives_cons hr]
    by_cases hblank : trimStart r = []
    · simpa only [opening, crossing, hblank, if_true, List.nil_append] using ih
    rcases hown : directive? (unrows (r :: above)) with _ | ⟨d, t⟩
    · rcases hall : directive? (unrows (r :: above ++ below)) with _ | ⟨d, t⟩
      · rw [List.cons_append] at hall
        simp [opening, crossing, hblank, hown, hall, ih]
      -- the statement runs across the border, so the rows above it hold nothing else
      have hcross : crossing (r :: above) below = [d] := by
        simp only [crossing, hblank, if_false, hown, hall]
      have hfirst : opening (r :: (above ++ below)) = [d] := by
        rw [List.cons_append] at hall
        simp [opening, hblank, hall]
      have hnone : opening (r :: above) = [] := by simp [opening, hown]
      rw [hcross, hfirst, hnone, List.nil_append]
      obtain ⟨u, v, hu, hv, hy⟩ := statement_of_crossing (by simp) hb hown hall
      have htail : above ≠ [] → Tail (unrows above ++ '\n' :: v) := by
        intro habove
        rw [unrows, joinWith_cons r habove, List.append_assoc] at hv
        exact hu.tail hv hblank
      obtain ⟨hinside, halone⟩ := directives_inside hrest hb htail hy
      rw [hinside, halone]
      rfl
    · have hall := directive?_extend hown ('\n' :: unrows below)
      rw [← unrows_append (by simp) hb, List.cons_append] at hall
      simp [opening, crossing, hblank, hown, hall, ih]

lemma trimStart_unrows_ne_nil {r : Text} (h : trimStart r ≠ []) (rs : List Text) :
    trimStart (unrows (r :: rs)) ≠ [] := by
  obtain ⟨s, hs⟩ := exists_joinWith_cons '\n' r rs
  intro hnil
  rw [unrows, hs] at hnil
  exact h (trimStart_eq_nil (blanks_of_trimStart hnil).of_append.1)

/-- Nothing crosses into rows that do not go on with a statement. -/
lemma crossing_eq_nil {below : List Text} (hb : ∀ v t, Tail v → unrows below ≠ v ++ t)
    (above : List Text) : crossing above below = [] := by
  by_cases hnil : below = []
  · rw [hnil, crossing_nil]
  induction above with
  | nil => rfl
  | cons r above ih =>
    by_cases hblank : trimStart r = []
    · simpa only [crossing, hblank, if_true] using ih
    rcases hown : directive? (unrows (r :: above)) with _ | p
    · rcases hall : directive? (unrows (r :: above ++ below)) with _ | ⟨d, t⟩
      · simpa only [crossing, hblank, if_false, hown, hall] using ih
      · obtain ⟨u, v, hu, hv, hy⟩ := statement_of_crossing (by simp) hnil hown hall
        exact absurd hy (hb v t (hu.tail hv (trimStart_unrows_ne_nil hblank above)))
    · simpa only [crossing, hblank, if_false, hown] using ih

end TestWeaver.Proofs.ImportRows
