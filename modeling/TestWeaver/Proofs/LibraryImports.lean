import TestWeaver.Proofs.ImportTargets
import TestWeaver.Proofs.PathNames

/-!
Imports from libraries, which are left out by how they start.

An import is cut down to what it imports from before its start is compared. A star is cut off, or
the name of a static member, and the dot in front of it. So the name of a library is not recognised
any more where it reaches beyond that dot.
-/

namespace TestWeaver.Proofs.LibraryImports

open Source Text ImportTargets

/-- The imported name as it is written, with its star or its member. -/
def importedName (d : Text) : Text := (after? "static ".toList d).getD d

lemma withoutStar_cases (n : Text) :
    n = withoutStar n ∨ ∃ cut, n = withoutStar n ++ '.' :: cut := by
  by_cases hstar : endsWith n ImportTargets.star = true
  · obtain ⟨m, rfl⟩ := endsWith_iff.mp hstar
    rw [withoutStar_append]
    exact .inr ⟨['*'], rfl⟩
  · exact .inl (if_neg hstar).symm

/-- Behind what a directive imports from, its name ends or a dot follows. -/
lemma importedName_cases (d : Text) :
    importedName d = importedFrom d ∨ ∃ cut, importedName d = importedFrom d ++ '.' :: cut := by
  unfold importedName importedFrom
  rcases after? "static ".toList d with _ | n
  · exact withoutStar_cases d
  · dsimp only [Option.getD_some]
    split
    · exact withoutStar_cases n
    · rcases hcut : cutLast? '.' n with _ | ⟨a, b⟩
      · exact .inl rfl
      · exact .inr ⟨b, (PathNames.eq_append_of_cutLast? hcut).1⟩

lemma prefix_importedName (d : Text) : importedFrom d <+: importedName d := by
  rcases importedName_cases d with hname | ⟨cut, hname⟩
  · exact hname ▸ List.prefix_refl _
  · exact hname ▸ List.prefix_append _ _

/-- A start of the name is lost by the cut just where it reaches beyond the dot. -/
lemma prefix_importedFrom_iff {d l : Text} (h : l <+: importedName d) :
    l <+: importedFrom d ↔ ¬ importedFrom d ++ ['.'] <+: l := by
  refine ⟨fun hl hdot => ?_, fun hdot => ?_⟩
  · have := (hdot.trans hl).length_le
    rw [List.length_append, List.length_singleton] at this
    omega
  · rcases importedName_cases d with hname | ⟨cut, hname⟩
    · rwa [← hname]
    · have hname : importedFrom d ++ ['.'] <+: importedName d := ⟨cut, by simp [hname]⟩
      have hle := (List.prefix_or_prefix_of_prefix h hname).resolve_right hdot
      rcases List.prefix_concat_iff.mp hle with rfl | hle
      · exact absurd (List.prefix_refl _) hdot
      · exact hle

lemma mem_targets_iff {source t : Text} {libraries : List Text} :
    t ∈ Dependency.targets source libraries ↔
      (∃ d ∈ directives source, importedFrom d = t) ∧ ∀ l ∈ libraries, ¬ l <+: t := by
  have hreduced : (dependencies source).map Dependency.reduced =
      (directives source).map importedFrom := statementsFrom_map dependency?_map 0 true source
  rw [Dependency.targets, hreduced, Merge.mem_distinct, List.mem_filter, List.mem_map]
  simp [startsWith_iff]

/-- **What keeps an import out**: a target is left out just where the name of every import that
comes to it starts with that of a library which does not reach beyond the target's dot. -/
theorem not_mem_targets_iff (source t : Text) (libraries : List Text) :
    t ∉ Dependency.targets source libraries ↔
      ∀ d ∈ directives source, importedFrom d = t →
        ∃ l ∈ libraries, l <+: importedName d ∧ ¬ t ++ ['.'] <+: l := by
  rw [mem_targets_iff]
  constructor
  · rintro hnot d hd rfl
    obtain ⟨l, hl, hstart⟩ : ∃ l ∈ libraries, l <+: importedFrom d := by
      by_contra h
      exact hnot ⟨⟨d, hd, rfl⟩, fun l hl hstart => h ⟨l, hl, hstart⟩⟩
    have hname := hstart.trans (prefix_importedName d)
    exact ⟨l, hl, hname, (prefix_importedFrom_iff hname).mp hstart⟩
  · rintro hall ⟨⟨d, hd, rfl⟩, hnone⟩
    obtain ⟨l, hl, hname, hdot⟩ := hall d hd rfl
    exact hnone l hl ((prefix_importedFrom_iff hname).mpr hdot)

/-- All of a library's own package is imported: the name starts with that of the library, but what
is left of it does not. -/
theorem mem_targets_package :
    let source := "import java.*;".toList
    (∀ d ∈ directives source, importedFrom d = "java".toList →
        ∃ l ∈ Dependency.standardPrefixes, l <+: importedName d) ∧
      "java".toList ∈ Dependency.targets source Dependency.standardPrefixes := by
  decide

end TestWeaver.Proofs.LibraryImports
