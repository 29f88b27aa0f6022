import TestWeaver.Proofs.ImportBatches
import TestWeaver.Proofs.MergeRun

/-!
Merging one fragment again and again.

The imports of a merge are accounted for in every case: what it adds, what the fragment's rows
bring along, and what is taken apart. In the ordinary case nothing is brought along or taken apart:
the type of the text closes, its import statements stand on one row each, and the methods come with
no import among them and with all their braces. That case is kept by every merge, so that merges
after the first one change no import.
-/

namespace TestWeaver.Proofs.RepeatedMerges

open Merge Source Text RowText Splice ImportRows MergedImports ImportBatches MergeRun

variable {existing fragment t : Text} {above below : List Text} {c : ℕ}

/-! ### Rows that begin no import -/

/-- A row that begins no import above other rows begins none alone. -/
lemma opening_singleton {r : Text} {rs : List Text} (h : opening (r :: rs) = []) :
    opening [r] = [] := by
  by_contra hne
  have hread := opening_cons_ne_nil hne rs
  obtain ⟨⟨d, s⟩, hd⟩ := Option.ne_none_iff_exists'.mp hread
  rw [opening, hd] at h
  split at h
  · next hblank => exact hne (by rw [opening, if_pos hblank])
  · cases h

/-- Rows that bring no import along have every statement below them on one row, and none
themselves. -/
lemma rowwise_of_silent (h : Rowwise below) (habove : ∀ r ∈ above, '\n' ∉ r)
    (hsilent : directives (unrows (above ++ below)) = directives (unrows below)) :
    Rowwise (above ++ below) := by
  induction above with
  | nil => exact h
  | cons r above ih =>
    obtain ⟨hr, habove⟩ := List.forall_mem_cons.mp habove
    rw [List.cons_append, directives_cons hr] at hsilent
    have hlength := congrArg List.length hsilent
    rw [List.length_append, directives_append habove, List.length_append] at hlength
    have hopening : opening (r :: (above ++ below)) = [] := List.length_eq_zero_iff.mp (by omega)
    rw [hopening, List.nil_append] at hsilent
    rw [List.cons_append, rowwise_cons, hopening, opening_singleton hopening]
    exact ⟨rfl, ih habove hsilent⟩

lemma rowwise_methodBlock (h : Rowwise below)
    (hsilent : directives (unrows (rows (fragmentMembers fragment) ++ below)) =
      directives (unrows below)) : Rowwise (methodBlock fragment ++ below) := by
  refine rowwise_of_silent h methodBlock_newline ?_
  rw [directives_methodBlock, hsilent]

/-! ### One merge of many -/

/-- The imports that a fragment's methods bring along above the closing row. -/
def broughtAbove (fragment : Text) (below : List Text) : List Text :=
  directives (fragmentMembers fragment) ++ crossing (rows (fragmentMembers fragment)) below

/-- The ordinary case of a merge. -/
structure Ordinary (existing fragment : Text) : Prop where
  closes : ∃ u c, (rows existing).findIdx? declaresType = some u ∧ closingRow? existing = some c ∧
    u < c ∧ broughtAbove fragment ((rows existing).drop c) = []
  rowwise : Rowwise (rows existing)
  balanced : (fragmentMembers fragment).count '{' = (fragmentMembers fragment).count '}'

/-- What merges of a fragment keep, with the closing row of the text before them. -/
structure Calm (existing fragment : Text) (c : ℕ) (t : Text) : Prop where
  grown : ∃ is block, Grown existing c is block t
  rowwise : Rowwise (rows t)
  silent : broughtAbove fragment ((rows existing).drop c) = []
  balanced : (fragmentMembers fragment).count '{' = (fragmentMembers fragment).count '}'

lemma Ordinary.calm (h : Ordinary existing fragment) : ∃ c, Calm existing fragment c existing := by
  obtain ⟨u, c, hu, hc, huc, hsilent⟩ := h.closes
  exact ⟨c, ⟨[], [], grown_start hu hc huc⟩, h.rowwise, hsilent, h.balanced⟩

/-- **One merge**: nothing is brought along, nothing is taken apart, and the case is kept. -/
lemma Calm.merge (h : Calm existing fragment c t) :
    Calm existing fragment c (mergeGenerated t fragment) ∧ pasted t fragment = [] ∧
      severed t fragment = [] := by
  obtain ⟨is, block, hgrown⟩ := h.grown
  have himports := hgrown.imports fragment
  have hrowwise := h.rowwise.mergeImports fragment
  have hdrop := himports.drop
  have hclosing := himports.closing
  refine ⟨⟨⟨_, _, himports.members h.balanced⟩, ?_, h.silent, h.balanced⟩, ?_, ?_⟩
  · rw [mergeGenerated, rows_mergeFragment hclosing, hdrop]
    rw [← List.take_append_drop _ (rows (mergeImports t fragment)), hdrop] at hrowwise
    refine hrowwise.insert (rowwise_methodBlock hrowwise.below ?_) fun above =>
      crossing_methodBlock fragment above _
    rw [directives_rows_append, ← broughtAbove, h.silent, List.nil_append]
  · rw [pasted, brought, hclosing]
    dsimp only
    rw [hdrop]
    exact h.silent
  · rw [severed, h.rowwise.parted, hrowwise.parted]
    rfl

/-- Every import of the fragment is there after a merge. -/
lemma Calm.mem_directives (h : Calm existing fragment c t) {d : Text}
    (hd : d ∈ directives fragment) : d ∈ directives (mergeGenerated t fragment) := by
  obtain ⟨-, -, hsevered⟩ := h.merge
  exact mem_directives_mergeGenerated (by rw [hsevered]; exact List.nil_subperm) hd

/-- A merge of what is there already changes no import. -/
lemma Calm.directives_eq (h : Calm existing fragment c t)
    (hall : ∀ d ∈ directives fragment, d ∈ directives t) :
    directives (mergeGenerated t fragment) = directives t := by
  obtain ⟨-, hpasted, hsevered⟩ := h.merge
  exact (directives_mergeGenerated_eq_iff (missing_eq_nil hall)).mpr (hpasted.trans hsevered.symm)

/-! ### Many merges -/

/-- A fragment merged as often as the number says. -/
def repeated (existing fragment : Text) : ℕ → Text
  | 0 => existing
  | n + 1 => mergeGenerated (repeated existing fragment n) fragment

lemma Calm.repeated (h : Calm existing fragment c existing) (n : ℕ) :
    Calm existing fragment c (repeated existing fragment n) := by
  induction n with
  | zero => exact h
  | succ n ih => exact ih.merge.1

lemma directives_repeated (h : Calm existing fragment c existing) (n : ℕ) :
    directives (repeated existing fragment (n + 1)) =
      directives (mergeGenerated existing fragment) := by
  induction n with
  | zero => rfl
  | succ n ih =>
    have hall : ∀ d ∈ directives fragment, d ∈ directives (repeated existing fragment (n + 1)) :=
      fun d hd => (h.repeated n).mem_directives hd
    exact ((h.repeated (n + 1)).directives_eq hall).trans ih

/-- **The imports of a merge**: they are those of the text, the missing ones, each once, and those
that the fragment's rows bring along, up to the statements that are taken apart. So the missing
imports are all that is new just where the merge brings along what it takes apart. After a merge
that brings along at least that, a second one changes nothing just where it brings along exactly
what it takes apart. In the ordinary case the missing imports are all that is new, and no number of
merges after the first one changes anything. -/
theorem directives_mergeGenerated (existing fragment : Text) :
    (directives (mergeGenerated existing fragment) ++ severed existing fragment).Perm
        (directives existing ++ (missingImports existing fragment).items ++
          pasted existing fragment) ∧
      ((pasted existing fragment).Perm (severed existing fragment) ↔
        ∀ d, (directives (mergeGenerated existing fragment)).count d =
          (directives existing).count d +
            if d ∈ (missingImports existing fragment).items then 1 else 0) ∧
      ((severed existing fragment).Subperm (pasted existing fragment) →
        (directives (mergeGenerated (mergeGenerated existing fragment) fragment) =
            directives (mergeGenerated existing fragment) ↔
          pasted (mergeGenerated existing fragment) fragment =
            severed (mergeGenerated existing fragment) fragment)) ∧
      (Ordinary existing fragment →
        (∀ d, (directives (mergeGenerated existing fragment)).count d =
          (directives existing).count d +
            if d ∈ (missingImports existing fragment).items then 1 else 0) ∧
        ∀ n, directives (repeated existing fragment (n + 1)) =
          directives (mergeGenerated existing fragment)) := by
  refine ⟨?_, pasted_perm_severed_iff, fun h => ?_, fun h => ?_⟩
  · refine List.perm_iff_count.mpr fun d => ?_
    have hcount := count_mergeGenerated existing fragment d
    simp only [List.count_append]
    omega
  · exact directives_mergeGenerated_eq_iff
      (missing_eq_nil fun d hd => mem_directives_mergeGenerated h hd)
  · obtain ⟨c, hcalm⟩ := h.calm
    obtain ⟨-, hpasted, hsevered⟩ := hcalm.merge
    refine ⟨pasted_perm_severed_iff.mp ?_, directives_repeated hcalm⟩
    rw [hpasted, hsevered]

/-- The methods of a test class bring no import along, so its import is added once by any number of
merges. -/
theorem directives_mergeGenerated_testClass :
    let existing := "class A \x7b\n\x7d".toList
    let fragment := "import x;\nclass T \x7b\n  @Test\n  void t() \x7b\x7d\n\x7d".toList
    (severed existing fragment).Subperm (pasted existing fragment) ∧ Ordinary existing fragment ∧
      directives (mergeGenerated existing fragment) = ["x".toList] ∧
      ∀ n, directives (repeated existing fragment (n + 1)) = ["x".toList] := by
  intro existing fragment
  have hsub : (severed existing fragment).Subperm (pasted existing fragment) := by
    have hsevered : severed existing fragment = [] := by decide +kernel
    rw [hsevered]
    exact List.nil_subperm
  have hordinary : Ordinary existing fragment :=
    ⟨⟨0, 1, by decide +kernel⟩, by decide +kernel, by decide +kernel⟩
  have honce : directives (mergeGenerated existing fragment) = ["x".toList] := by decide +kernel
  obtain ⟨-, -, -, hmany⟩ := directives_mergeGenerated existing fragment
  exact ⟨hsub, hordinary, honce, fun n => ((hmany hordinary).2 n).trans honce⟩

/-- Where no type closes, the same test class goes to the end as a whole: the missing import
occurs twice, and once more after each further merge. -/
theorem directives_mergeGenerated_unclosed :
    let existing := "class A \x7b\n".toList
    let fragment := "import x;\nclass T \x7b\n  @Test\n  void t() \x7b\x7d\n\x7d".toList
    (directives (mergeGenerated existing fragment)).count "x".toList ≠
        (directives existing).count "x".toList +
          (if "x".toList ∈ (missingImports existing fragment).items then 1 else 0) ∧
      directives (mergeGenerated (mergeGenerated existing fragment) fragment) ≠
        directives (mergeGenerated existing fragment) := by
  decide +kernel

end TestWeaver.Proofs.RepeatedMerges
