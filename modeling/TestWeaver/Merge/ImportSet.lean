import TestWeaver.Source.Import

/-!
Sets of import directives that remember the order in which their members first came.
-/

namespace TestWeaver.Merge

/-- The items of a list without the later copies of each. -/
def distinct : List Text → List Text
  | [] => []
  | d :: ds => d :: (distinct ds).filter (· ≠ d)

theorem mem_distinct {a : Text} {ds : List Text} : a ∈ distinct ds ↔ a ∈ ds := by
  induction ds with
  | nil => simp [distinct]
  | cons d ds ih =>
    by_cases h : a = d
    · simp [distinct, h]
    · simp [distinct, h, ih]

theorem nodup_distinct (ds : List Text) : (distinct ds).Nodup := by
  induction ds with
  | nil => simp [distinct]
  | cons d ds ih =>
    simp only [distinct, List.nodup_cons]
    exact ⟨by simp, ih.filter _⟩

/-- Directives in order, none twice. -/
structure ImportSet where
  items : List Text
  nodup : items.Nodup

namespace ImportSet

def ofList (ds : List Text) : ImportSet := ⟨distinct ds, nodup_distinct ds⟩

def ofSource (source : Text) : ImportSet := ofList (Source.directives source)

def difference (a b : ImportSet) : ImportSet :=
  ⟨a.items.filter fun d => d ∉ b.items, a.nodup.filter _⟩

@[simp] theorem mem_ofList {d : Text} {ds : List Text} : d ∈ (ofList ds).items ↔ d ∈ ds :=
  mem_distinct

@[simp] theorem mem_difference {d : Text} {a b : ImportSet} :
    d ∈ (a.difference b).items ↔ d ∈ a.items ∧ d ∉ b.items := by simp [difference]

end ImportSet

/-- The imports of a fragment that an existing text lacks, in the fragment's order. -/
def missingImports (existing fragment : Text) : ImportSet :=
  (ImportSet.ofSource fragment).difference (ImportSet.ofSource existing)

end TestWeaver.Merge
