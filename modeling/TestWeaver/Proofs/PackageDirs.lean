import Mathlib.Data.List.Infix
import TestWeaver.Layout.Resolver
import TestWeaver.Proofs.PathNames
import TestWeaver.Proofs.RootSearch

/-!
The package of a path.

It is read off the text of the path, but only at the names of directories: it is all that stands
behind the first language directory that has others behind it, all on one row.
-/

namespace TestWeaver.Proofs.PackageDirs

open Text Layout PathNames RootSearch RowText

def languages : List Text := ["java".toList, "kotlin".toList]

/-- The names are on one row together. -/
def OneRow (ds : List Text) : Prop := ∀ d ∈ ds, '\n' ∉ d

instance (ds : List Text) : Decidable (OneRow ds) :=
  inferInstanceAs (Decidable (∀ d ∈ ds, '\n' ∉ d))

/-- The package in some directories: all behind the first language directory that has others
behind it, on one row. -/
def packageIn : List Text → Option (List Text)
  | [] => none
  | d :: ds => if d ∈ languages ∧ ds ≠ [] ∧ OneRow ds then some ds else packageIn ds

/-! ### Reading the package off a path -/

lemma afterAny?_language {d s : Text} (hd : '/' ∉ d) (hs : Slashes s) :
    (afterAny? ["java/".toList, "kotlin/".toList] (d ++ s)).map Prod.snd =
      if d ∈ languages then after? ['/'] s else none := by
  have hjava : after? "java/".toList (d ++ s) =
      if "java".toList = d then after? ['/'] s else none :=
    after?_piece (r := "java".toList) (m := ['/']) (by decide) hd rfl hs
  have hkotlin : after? "kotlin/".toList (d ++ s) =
      if "kotlin".toList = d then after? ['/'] s else none :=
    after?_piece (r := "kotlin".toList) (m := ['/']) (by decide) hd rfl hs
  rw [afterAny?, List.findSome?_cons, List.findSome?_cons, List.findSome?_nil, hjava, hkotlin]
  by_cases hj : "java".toList = d
  · subst hj
    rw [if_pos rfl, if_neg (by decide), if_pos (by decide)]
    cases after? ['/'] s <;> rfl
  · by_cases hk : "kotlin".toList = d
    · subst hk
      rw [if_neg (by decide), if_pos rfl, if_pos (by decide)]
      cases after? ['/'] s <;> rfl
    · have hlanguage : d ∉ languages := by
        simpa [languages, eq_comm] using And.intro hj hk
      rw [if_neg hj, if_neg hk, if_neg hlanguage]
      rfl

lemma packageDirsAt?_eq_bind (s : Text) :
    packageDirsAt? s = ((afterAny? ["java/".toList, "kotlin/".toList] s).map Prod.snd).bind fun r =>
      (cutLast? '/' r).bind fun q =>
        if q.1 = [] || q.1.contains '\n' || q.2 = [] then none else some q.1 := by
  unfold packageDirsAt?
  rcases afterAny? ["java/".toList, "kotlin/".toList] s with _ | ⟨m, r⟩ <;> rfl

lemma cutLast?_joinWith {ds : List Text} {file : Text} (hne : ds ≠ []) (hfile : '/' ∉ file) :
    cutLast? '/' (joinWith '/' (ds ++ [file])) = some (joinWith '/' ds, file) := by
  rw [joinWith_append hne (by simp)]
  exact cutLast?_append hfile _

lemma newline_joinWith {sep : Char} (h : '\n' ≠ sep) {ds : List Text} :
    '\n' ∉ joinWith sep ds ↔ OneRow ds := by
  rw [mem_joinWith h]
  simp [OneRow]

lemma joinWith_ne_nil {ds : List Text} (hne : ds ≠ []) (h : ∀ n ∈ ds, IsName n) :
    joinWith '/' ds ≠ [] := by
  obtain ⟨d, ds, rfl⟩ := List.exists_cons_of_ne_nil hne
  obtain ⟨s, hs⟩ := exists_joinWith_cons '/' d ds
  rw [hs]
  exact List.append_ne_nil_of_left_ne_nil (h d List.mem_cons_self).ne_nil s

/-- Nothing is read at the name of the file. -/
lemma packageDirsAt?_file {file : Text} (hfile : '/' ∉ file) : packageDirsAt? file = none := by
  have hread := afterAny?_language hfile (s := []) (by simp [Slashes])
  rw [List.append_nil] at hread
  rw [packageDirsAt?_eq_bind, hread]
  split <;> rfl

/-- What is read at a directory is all behind it but the file. -/
lemma packageDirsAt?_dir {d file : Text} {ds : List Text} (hd : '/' ∉ d)
    (hds : ∀ n ∈ ds, IsName n) (hfile : IsName file) :
    packageDirsAt? (d ++ '/' :: joinWith '/' (ds ++ [file])) =
      if d ∈ languages ∧ ds ≠ [] ∧ OneRow ds then some (joinWith '/' ds) else none := by
  rw [packageDirsAt?_eq_bind, afterAny?_language hd (by simp [Slashes])]
  by_cases hlanguage : d ∈ languages
  · rw [if_pos hlanguage]
    by_cases hne : ds = []
    · subst hne
      simp [after?, joinWith, cutLast?_eq_none.mpr hfile.slash]
    · have hnil := joinWith_ne_nil hne hds
      have hcut := cutLast?_joinWith hne hfile.slash
      by_cases hrow : OneRow ds
      · have hmem : '\n' ∉ joinWith '/' ds := (newline_joinWith (by decide)).mpr hrow
        rw [if_pos ⟨hlanguage, hne, hrow⟩]
        simp [after?, hcut, hnil, hfile.ne_nil, hmem]
      · have hmem : '\n' ∈ joinWith '/' ds :=
          not_not.mp (mt (newline_joinWith (by decide)).mp hrow)
        rw [if_neg fun h => hrow h.2.2]
        simp [after?, hcut, hmem]
  · rw [if_neg hlanguage, if_neg fun h => hlanguage h.1]
    rfl

/-- Inside a name nothing is read. -/
lemma packageDirsFrom?_piece {p : Text} (hp : '/' ∉ p) (s : Text) :
    packageDirsFrom? false (p ++ '/' :: s) = packageDirsFrom? true s := by
  induction p with
  | nil => simp [packageDirsFrom?]
  | cons c p ih =>
    obtain ⟨hc, hp⟩ := List.ne_and_not_mem_of_not_mem_cons hp
    simpa [packageDirsFrom?, Ne.symm hc] using ih hp

lemma packageDirsFrom?_file {p : Text} (hp : '/' ∉ p) : packageDirsFrom? false p = none := by
  induction p with
  | nil => rfl
  | cons c p ih =>
    obtain ⟨hc, hp⟩ := List.ne_and_not_mem_of_not_mem_cons hp
    simpa [packageDirsFrom?, Ne.symm hc] using ih hp

/-- The package of a path is that of the directories in it. -/
lemma packageDirs?_joinWith {ds : List Text} {file : Text} (hds : ∀ n ∈ ds, IsName n)
    (hfile : IsName file) :
    packageDirs? (joinWith '/' (ds ++ [file])) = (packageIn ds).map (joinWith '/') := by
  induction ds with
  | nil =>
    obtain ⟨c, rest, rfl⟩ := List.exists_cons_of_ne_nil hfile.ne_nil
    obtain ⟨hc, hrest⟩ := List.ne_and_not_mem_of_not_mem_cons hfile.slash
    show packageDirsFrom? true (c :: rest) = none
    rw [packageDirsFrom?, if_pos rfl, packageDirsAt?_file hfile.slash]
    simpa [Ne.symm hc] using packageDirsFrom?_file hrest
  | cons d ds ih =>
    obtain ⟨hd, hds⟩ := List.forall_mem_cons.mp hds
    have hread := packageDirsAt?_dir hd.slash hds hfile
    have hnext := ih hds
    obtain ⟨c, rest, rfl⟩ := List.exists_cons_of_ne_nil hd.ne_nil
    obtain ⟨hc, hrest⟩ := List.ne_and_not_mem_of_not_mem_cons hd.slash
    have hfrom : packageDirsFrom? (decide (c = '/')) (rest ++ '/' :: joinWith '/' (ds ++ [file])) =
        (packageIn ds).map (joinWith '/') := by
      rw [decide_eq_false (Ne.symm hc), packageDirsFrom?_piece hrest]
      exact hnext
    rw [List.cons_append, joinWith_cons _ (by simp), packageDirs?, List.cons_append,
      packageDirsFrom?, if_pos rfl, hfrom, ← List.cons_append, hread, packageIn]
    split
    · rfl
    · simp

/-! ### The package behind a source root -/

/-- The package stands at the end of the directories, on one row. -/
lemma packageIn_suffix (ds : List Text) :
    (packageIn ds).getD [] <:+ ds ∧ OneRow ((packageIn ds).getD []) := by
  induction ds with
  | nil => exact ⟨List.nil_suffix, by simp [packageIn, OneRow]⟩
  | cons d ds ih =>
    rw [packageIn]
    split
    · next h => exact ⟨List.suffix_cons d ds, h.2.2⟩
    · exact ⟨ih.1.trans (List.suffix_cons d ds), ih.2⟩

/-- A language directory among those above a source root hides what is behind the root. -/
def HidesRoot (above : List Text) : Prop :=
  ∃ l b, l :: b <:+ above ∧ l ∈ languages ∧ OneRow b

lemma hidesRoot_cons {d : Text} {above : List Text} :
    HidesRoot (d :: above) ↔ d ∈ languages ∧ OneRow above ∨ HidesRoot above := by
  constructor
  · rintro ⟨l, b, hsuffix, hl, hb⟩
    rcases List.suffix_cons_iff.mp hsuffix with heq | hsuffix
    · obtain ⟨rfl, rfl⟩ := List.cons.inj heq
      exact .inl ⟨hl, hb⟩
    · exact .inr ⟨l, b, hsuffix, hl, hb⟩
  · rintro (⟨hd, hrow⟩ | ⟨l, b, hsuffix, hl, hb⟩)
    · exact ⟨d, above, List.suffix_refl _, hd, hrow⟩
    · exact ⟨l, b, hsuffix.trans (List.suffix_cons d above), hl, hb⟩

lemma not_hidesRoot {above : List Text} (h : ∀ n ∈ above, n ∉ languages) : ¬ HidesRoot above :=
  fun ⟨l, _, hsuffix, hl, _⟩ => h l (hsuffix.subset List.mem_cons_self) hl

lemma oneRow_language {d : Text} (h : d ∈ languages) : '\n' ∉ d := by
  have hall : ∀ d ∈ languages, '\n' ∉ d := by decide
  exact hall d h

lemma oneRow_append {as bs : List Text} : OneRow (as ++ bs) ↔ OneRow as ∧ OneRow bs :=
  List.forall_mem_append

/-- The package is what is behind the source root, which ends with a language directory, just where
that is on one row and not hidden. -/
lemma packageIn_behind {language : Text} (hl : language ∈ languages) (above dirs : List Text) :
    (packageIn (above ++ language :: dirs)).getD [] = dirs ↔ OneRow dirs ∧ ¬ HidesRoot above := by
  induction above with
  | nil =>
    have hnot : ¬ HidesRoot [] := not_hidesRoot (by simp)
    rw [List.nil_append, packageIn]
    by_cases hrow : OneRow dirs
    · refine iff_of_true ?_ ⟨hrow, hnot⟩
      by_cases hne : dirs = []
      · subst hne
        simp [packageIn]
      · rw [if_pos ⟨hl, hne, hrow⟩]
        rfl
    · rw [if_neg fun h => hrow h.2.2]
      refine iff_of_false (fun heq => hrow ?_) fun h => hrow h.1
      rw [← heq]
      exact (packageIn_suffix dirs).2
  | cons d above ih =>
    have hrest : OneRow (above ++ language :: dirs) ↔ OneRow above ∧ OneRow dirs := by
      rw [oneRow_append]
      simp [OneRow, oneRow_language hl]
    rw [List.cons_append, packageIn, hidesRoot_cons]
    by_cases hd : d ∈ languages ∧ OneRow (above ++ language :: dirs)
    · obtain ⟨hd, hrow⟩ := hd
      rw [if_pos ⟨hd, by simp, hrow⟩]
      refine iff_of_false (fun heq => ?_) fun h => h.2 (.inl ⟨hd, (hrest.mp hrow).1⟩)
      have hlength := congrArg List.length heq
      simp only [Option.getD_some, List.length_append, List.length_cons] at hlength
      omega
    · rw [if_neg fun h => hd ⟨h.1, h.2.2⟩, ih]
      refine and_congr_right fun hrow => not_congr (Iff.symm (or_iff_right fun h => hd ?_))
      exact ⟨h.1, hrest.mpr ⟨h.2, hrow⟩⟩

/-! ### Another directory in place of one -/

/-- A directory that is none of a language can be replaced by another: the package begins at the
same place. -/
lemma packageIn_replace {x y : Text} (hx : x ∉ languages) (hy : y ∉ languages) (hxrow : '\n' ∉ x)
    (hyrow : '\n' ∉ y) (a b : List Text) :
    (packageIn (a ++ y :: b)).getD [] = (a ++ y :: b).drop
      ((a ++ x :: b).length - ((packageIn (a ++ x :: b)).getD []).length) := by
  induction a with
  | nil =>
    have hsuffix := (packageIn_suffix b).1
    rw [List.nil_append, List.nil_append, packageIn, packageIn, if_neg fun h => hy h.1,
      if_neg fun h => hx h.1, List.length_cons, Nat.succ_sub hsuffix.length_le,
      List.drop_succ_cons]
    exact List.suffix_iff_eq_drop.mp hsuffix
  | cons d a ih =>
    have hrow : OneRow (a ++ y :: b) ↔ OneRow (a ++ x :: b) := by
      rw [oneRow_append, oneRow_append]
      simp [OneRow, hxrow, hyrow]
    rw [List.cons_append, List.cons_append, packageIn, packageIn]
    by_cases hd : d ∈ languages ∧ OneRow (a ++ x :: b)
    · rw [if_pos ⟨hd.1, by simp, hrow.mpr hd.2⟩, if_pos ⟨hd.1, by simp, hd.2⟩, Option.getD_some,
        Option.getD_some, List.length_cons, Nat.add_sub_cancel_left, List.drop_succ_cons,
        List.drop_zero]
    · rw [if_neg fun h => hd ⟨h.1, hrow.mp h.2.2⟩, if_neg fun h => hd ⟨h.1, h.2.2⟩,
        List.length_cons, Nat.succ_sub (packageIn_suffix _).1.length_le, List.drop_succ_cons]
      exact ih

end TestWeaver.Proofs.PackageDirs
