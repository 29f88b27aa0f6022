import TestWeaver.FileTree.RealPath
import TestWeaver.Proofs.Outcomes
import TestWeaver.Proofs.PathNames

/-!
Real paths: they start at the top of a tree, and all names in them are names of files.
-/

namespace TestWeaver.Proofs.RealPaths

open FileTree Outcomes PathNames

/-- A name that a file can have. -/
structure IsFileName (n : Text) : Prop extends IsName n where
  ne_up : n ≠ up

/-- No step goes through a slash. -/
def Plain (ss : List Step) : Prop := ∀ n, Step.name n ∈ ss → '/' ∉ n

lemma Plain.tail {s : Step} {ss : List Step} (h : Plain (s :: ss)) : Plain ss :=
  fun n hn => h n (List.mem_cons_of_mem _ hn)

lemma isName_names {ss : List Step} (h : Plain ss) : ∀ n ∈ Step.names ss, IsName n := by
  intro n hn
  obtain ⟨s, hs, heq⟩ := List.mem_filterMap.mp hn
  cases s with
  | name m =>
    by_cases hm : m = [] ∨ m = ['.']
    · rcases hm with rfl | rfl <;> cases heq
    · obtain ⟨hnil, hdot⟩ := not_or.mp hm
      obtain rfl : m = n := by simpa [hnil, hdot] using heq
      exact ⟨hnil, hdot, h m hs⟩
  | leave l => cases heq

lemma plain_stepsOf (s : Text) : Plain ((stepsOf s).map .name) := by
  intro n hn
  obtain ⟨m, hm, heq⟩ := List.mem_map.mp hn
  obtain rfl := Step.name.inj heq
  rcases List.mem_append.mp hm with hm | hm
  · exact RowText.not_mem_of_mem_splitAt (List.mem_filter.mp hm).1
  · split at hm
    · obtain rfl := List.mem_singleton.mp hm
      simp
    · cases hm

lemma isName_up : IsName up := by decide

lemma isName_above {p : Path} (h : ∀ n ∈ p.parts, IsName n) :
    ∀ n ∈ (above p).parts, IsName n := by
  have hup : ∀ n ∈ [up], IsName n := List.forall_mem_singleton.mpr isName_up
  unfold above
  split
  · split
    · exact hup
    · exact h
  · split
    · next hn =>
      subst hn
      exact List.forall_mem_append.mpr ⟨h, hup⟩
    · exact fun n hn => h n (List.dropLast_subset _ hn)

variable {t : FileTree}

lemma isNaming_misnamed? {s : Text} {e : Trouble} (h : t.misnamed? s = some e) :
    e.isNaming = true := by
  unfold misnamed? at h
  split at h
  · obtain rfl := Option.some.inj h
    rfl
  · split at h
    · obtain rfl := Option.some.inj h
      rfl
    · cases h

lemma isName_snoc {p : Path} {n : Text} {ss : List Step} (hp : ∀ m ∈ p.parts, IsName m)
    (hss : Plain (.name n :: ss)) (hskip : ¬ (n = [] || n = ['.']) = true) :
    ∀ m ∈ p.parts ++ [n], IsName m := by
  obtain ⟨hnil, hdot⟩ := not_or.mp (by simpa using hskip)
  exact List.forall_mem_append.mpr ⟨hp, List.forall_mem_singleton.mpr
    ⟨hnil, hdot, hss n List.mem_cons_self⟩⟩

/-- Following links adds names only. -/
lemma isName_realFrom {k : ℕ} {opened : List Path} {p q : Path} {ss : List Step}
    (hp : ∀ n ∈ p.parts, IsName n) (hss : Plain ss) (h : t.realFrom k opened p ss = .ok q) :
    ∀ n ∈ q.parts, IsName n := by
  fun_induction realFrom t k opened p ss with
  | case1 | case2 =>
    obtain rfl := Except.ok.inj h
    exact hp
  | case3 opened p k l ss ih | case4 opened p k n ss _ ih => exact ih hp hss.tail h
  | case5 opened p k ss _ ih => exact ih (isName_above hp) hss.tail h
  | case6 | case8 => cases h
  | case7 opened p k n ss hskip =>
    obtain rfl := Except.ok.inj h
    exact List.forall_mem_append.mpr ⟨isName_snoc hp hss hskip, isName_names hss.tail⟩
  | case9 opened p k n ss hskip _ _ target _ _ _ _ ih =>
    refine ih ?_ ?_ h
    · split
      · simp
      · exact hp
    · intro m hm
      rcases List.mem_append.mp hm with hm | hm
      · exact plain_stepsOf target m hm
      · rcases List.mem_cons.mp hm with hm | hm
        · cases hm
        · exact hss.tail m hm
  | case10 opened p k n ss hskip _ _ _ _ ih => exact ih (isName_snoc hp hss hskip) hss.tail h

/-- Following links fails at a name that no file can have, or too deep inside of links. -/
lemma realFrom_error {k : ℕ} {opened : List Path} {p : Path} {ss : List Step} {e : Trouble}
    (h : t.realFrom k opened p ss = .error e) : e.isNaming = true ∨ e = .tooDeep := by
  fun_induction realFrom t k opened p ss with
  | case1 | case2 | case7 => cases h
  | case3 _ _ _ _ _ ih | case4 _ _ _ _ _ _ ih | case5 _ _ _ _ _ ih => exact ih h
  | case6 opened p k n ss _ _ q e' hname =>
    obtain rfl := Except.error.inj h
    exact .inl (isNaming_misnamed? hname)
  | case8 => exact .inr (Except.error.inj h).symm
  | case9 _ _ _ _ _ _ _ _ _ _ _ _ _ ih | case10 _ _ _ _ _ _ _ _ _ _ ih => exact ih h

/-- One step up or down at a time stays among the names of files. -/
lemma isFileName_foldl {ns : List Text} {start : Place} (hstart : ∀ n ∈ start, IsFileName n)
    (hns : ∀ n ∈ ns, IsName n) :
    ∀ n ∈ ns.foldl (fun ns n => if n = ['.', '.'] then ns.dropLast else ns ++ [n]) start,
      IsFileName n := by
  induction ns generalizing start with
  | nil => exact hstart
  | cons m ns ih =>
    obtain ⟨hm, hns⟩ := List.forall_mem_cons.mp hns
    refine ih ?_ hns
    dsimp only
    split
    · exact fun n hn => hstart n (List.dropLast_subset _ hn)
    · next hup =>
      exact List.forall_mem_append.mpr ⟨hstart, List.forall_mem_singleton.mpr ⟨hm, hup⟩⟩

lemma isFileName_placeOf {here : Place} {p : Path} (hhere : ∀ n ∈ here, IsFileName n)
    (hp : ∀ n ∈ p.parts, IsName n) : ∀ n ∈ placeOf here p, IsFileName n := by
  refine isFileName_foldl ?_ hp
  split
  · exact hhere
  · simp

/-- What looking for a real path comes to once its place is known. -/
lemma realPath_of_place {p : Path} {place : Place} (h : t.realPlace p = .ok place) :
    t.realPath p =
      match t.misnamed? place.toPath.toText, follow t.root [] true place.toPath.toText with
      | some e, _ => .error e
      | none, .error .linkLoop => .error (.linkCircle place.toPath.toText)
      | none, _ => .ok place.toPath := by
  rw [realPath, h]
  rfl

/-- No real path is found for a name that no file can have, too deep inside of links, and where
links lead in a circle. -/
lemma realPath_error {p : Path} {e : Trouble} (h : t.realPath p = .error e) :
    e.isNaming = true ∨ e = .tooDeep ∨ ∃ s, e = .linkCircle s := by
  rcases bind_eq_error.mp h with h | ⟨place, hplace, -⟩
  · exact (realFrom_error (map_eq_error.mp h)).imp_right .inl
  · rw [realPath_of_place hplace] at h
    split at h
    · next e' _ hname =>
      obtain rfl := Except.error.inj h
      exact .inl (isNaming_misnamed? hname)
    · exact .inr (.inr ⟨_, (Except.error.inj h).symm⟩)
    · cases h

/-- A real path starts at the top and goes through names of files. -/
lemma realPath_ok (hhere : ∀ n ∈ t.here, IsFileName n) {p q : Path}
    (hp : ∀ n ∈ p.parts, IsName n) (h : t.realPath p = .ok q) :
    ∃ place, q = ⟨.slash, place⟩ ∧ ∀ n ∈ place, IsFileName n := by
  obtain ⟨place, hplace, -⟩ := bind_eq_ok.mp h
  rw [realPath_of_place hplace] at h
  have hq : q = ⟨.slash, place⟩ := by
    split at h
    · cases h
    · cases h
    · exact (Except.ok.inj h).symm
  obtain ⟨r, hfrom, rfl⟩ := map_eq_ok.mp hplace
  refine ⟨_, hq, isFileName_placeOf hhere (isName_realFrom (by simp) (fun n hn => ?_) hfrom)⟩
  obtain ⟨m, hm, heq⟩ := List.mem_map.mp hn
  obtain rfl := Step.name.inj heq
  exact (hp m hm).slash

end TestWeaver.Proofs.RealPaths
