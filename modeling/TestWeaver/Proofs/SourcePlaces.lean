import TestWeaver.Dependency.Lookup
import TestWeaver.Proofs.ListingOrder

/-!
What a walk through the directories below a path comes by.

In an orderly tree a walk comes by all places that can be reached through directories that are
neither left out nor too long to be listed, and by no other ones. Whether a place is one of them can
be told from the nodes there and on the way, so it does not depend on the order of entries. Sources
are what is no directory and has the suffix.
-/

namespace TestWeaver.Proofs.SourcePlaces

open Text FileTree Dependency FileWalks RealPaths ListingOrder

/-- The path of a place below a directory, as a walk writes it. -/
def pathBelow (dir : Text) (q : Place) : Text := q.foldl entryPath dir

/-- What a walk takes for a directory; links count as what they lead to. -/
def isFolder (leads : Bool) : Node → Bool
  | .file _ _ => false
  | .link _ => leads
  | .dir _ => true

/-- A directory whose path is short enough to be listed. -/
def Short (path : Text) : Prop := (Utf8.encode path).length ≤ maxPathOctets

/-- A place that a walk through a directory comes by, and whether it is taken for a directory. No
directory on the way is left out or too long. -/
structure Seen (leads : Text → Bool) (dir : Text) (top : Node) (q : Place) (folder : Bool) :
    Prop where
  node : ∃ e, top.get? q = some e ∧ isFolder (leads (pathBelow dir q)) e = folder
  below : q ≠ []
  entered : ∀ n ∈ q.dropLast, n ∉ skippedDirs
  kept : folder = true → ∀ n ∈ q.getLast?, n ∉ skippedDirs
  names : ∀ n ∈ q.dropLast, (Utf8.encode n).length ≤ maxNameOctets
  short : Short (pathBelow dir q.dropLast)

/-- What is seen at an entry of a directory, or below it. -/
def SeenEntry (leads : Text → Bool) (dir n : Text) (e : Node) (q : Place) (folder : Bool) : Prop :=
  (q = [] ∧ isFolder (leads (entryPath dir n)) e = folder ∧ (folder = true → n ∉ skippedDirs)) ∨
    (n ∉ skippedDirs ∧ isListed (entryPath dir n) n = true ∧
      Seen leads (entryPath dir n) e q folder)

variable {leads : Text → Bool} {dir n : Text} {es : Entries} {e : Node} {q : Place} {folder : Bool}

lemma prefix_entryPath (dir n : Text) : dir <+: entryPath dir n := by
  unfold entryPath
  split <;> exact List.prefix_append _ _

lemma prefix_pathBelow (dir : Text) (q : Place) : dir <+: pathBelow dir q := by
  induction q generalizing dir with
  | nil => exact List.prefix_rfl
  | cons n q ih => exact (prefix_entryPath dir n).trans (ih _)

/-- The way to a short path is short. -/
lemma Short.of_prefix {s s' : Text} (h : Short s') (hpre : s <+: s') : Short s := by
  obtain ⟨r, rfl⟩ := hpre
  rw [Short, Utf8.encode, List.flatMap_append, List.length_append] at h
  exact Nat.le_of_add_right_le h

lemma isListed_iff {path : Text} :
    isListed path n = true ↔ Short path ∧ (Utf8.encode n).length ≤ maxNameOctets := by
  simp [isListed, Short]

/-- What is seen in a directory is seen at one of its entries, or below. -/
lemma seen_cons (hdir : Short dir) :
    Seen leads dir (.dir es) (n :: q) folder ↔
      ∃ e, es.find? n = some e ∧ SeenEntry leads dir n e q folder := by
  have hget : ∀ node, (Node.dir es).get? (n :: q) = some node ↔
      ∃ e, es.find? n = some e ∧ e.get? q = some node := fun node => Option.bind_eq_some_iff
  cases q with
  | nil =>
    constructor
    · rintro ⟨⟨node, hnode, hfolder⟩, -, -, hkept, -, -⟩
      obtain ⟨e, he, hnode⟩ := (hget node).mp hnode
      obtain rfl := Option.some.inj hnode
      exact ⟨e, he, .inl ⟨rfl, hfolder, fun h => hkept h n rfl⟩⟩
    · rintro ⟨e, he, ⟨-, hfolder, hkept⟩ | ⟨-, -, hseen⟩⟩
      · refine ⟨⟨e, (hget e).mpr ⟨e, he, rfl⟩, hfolder⟩, by simp, by simp, fun h m hm => ?_,
          by simp, hdir⟩
        obtain rfl := Option.some.inj hm
        exact hkept h
      · exact absurd rfl hseen.below
  | cons m q =>
    have hlast : (n :: m :: q).getLast? = (m :: q).getLast? := List.getLast?_cons_cons
    constructor
    · rintro ⟨⟨node, hnode, hfolder⟩, -, hentered, hkept, hnames, hshort⟩
      obtain ⟨e, he, hnode⟩ := (hget node).mp hnode
      obtain ⟨hn, hentered⟩ := List.forall_mem_cons.mp hentered
      obtain ⟨hname, hnames⟩ := List.forall_mem_cons.mp hnames
      have hpath : Short (entryPath dir n) := hshort.of_prefix (prefix_pathBelow _ _)
      exact ⟨e, he, .inr ⟨hn, isListed_iff.mpr ⟨hpath, hname⟩, ⟨node, hnode, hfolder⟩, by simp,
        hentered, hlast ▸ hkept, hnames, hshort⟩⟩
    · rintro ⟨e, he, ⟨hnil, -⟩ | ⟨hn, hlisted, hseen⟩⟩
      · cases hnil
      · obtain ⟨node, hnode, hfolder⟩ := hseen.node
        exact ⟨⟨node, (hget node).mpr ⟨e, he, hnode⟩, hfolder⟩, by simp,
          List.forall_mem_cons.mpr ⟨hn, hseen.entered⟩, hlast ▸ hseen.kept,
          List.forall_mem_cons.mpr ⟨(isListed_iff.mp hlisted).2, hseen.names⟩, hseen.short⟩

/-! ### The walk -/

/-- In an orderly directory every entry is found by its name. -/
lemma mem_sightsIn_find? (h : orderlyIn es = true) {here : Place} {s : Sight} :
    s ∈ sightsIn leads dir here es ↔
      ∃ n e, es.find? n = some e ∧ s ∈ entrySights leads dir here n e := by
  induction es using Entries.rec (motive_1 := fun _ => True) with
  | file | link | dir => trivial
  | nil => simp [sightsIn, Entries.find?]
  | cons m f rest _ ih =>
    obtain ⟨-, hm, -, hrest⟩ := orderlyIn_cons.mp h
    rw [sightsIn, List.mem_append, ih hrest]
    constructor
    · rintro (hs | ⟨n, e, hfind, hs⟩)
      · exact ⟨m, f, if_pos rfl, hs⟩
      · have hne : m ≠ n := by
          rintro rfl
          rw [hm] at hfind
          cases hfind
        exact ⟨n, e, by rwa [Entries.find?, if_neg hne], hs⟩
    · rintro ⟨n, e, hfind, hs⟩
      rw [Entries.find?] at hfind
      split at hfind
      · next hmn =>
        subst hmn
        obtain rfl := Option.some.inj hfind
        exact .inl hs
      · exact .inr ⟨n, e, hfind, hs⟩

/-- Nothing is seen below what is no directory. -/
lemma seenEntry_leaf (h : e.isDir = false) :
    SeenEntry leads dir n e q folder ↔ q = [] ∧
      isFolder (leads (entryPath dir n)) e = folder ∧ (folder = true → n ∉ skippedDirs) := by
  refine ⟨?_, .inl⟩
  rintro (hentry | ⟨-, -, ⟨node, hnode, -⟩, hne, -⟩)
  · exact hentry
  · obtain ⟨m, q, rfl⟩ := List.exists_cons_of_ne_nil hne
    cases e with
    | file | link => cases hnode
    | dir => cases h

lemma mem_entrySights_leaf (h : e.isDir = false) {here p : Place} :
    ⟨p, folder⟩ ∈ entrySights leads dir here n e ↔ p = here ++ [n] ∧
      isFolder (leads (entryPath dir n)) e = folder ∧ (folder = true → n ∉ skippedDirs) := by
  cases e with
  | file bs x =>
    rw [entrySights, List.mem_singleton, Sight.mk.injEq]
    refine and_congr_right fun _ => ?_
    cases folder <;> simp [isFolder]
  | link target =>
    rw [entrySights]
    cases hleads : leads (entryPath dir n) <;> cases folder <;> simp [isFolder, and_comm]
  | dir es => cases h

/-- The walk below a directory comes by what is seen there, and by nothing else. -/
def Walked (leads : Text → Bool) (es : Entries) : Prop :=
  ∀ dir here p folder, Short dir →
    (⟨p, folder⟩ ∈ sightsIn leads dir here es ↔
      ∃ q, p = here ++ q ∧ Seen leads dir (.dir es) q folder)

lemma mem_entrySights (h : ∀ es, e = .dir es → Walked leads es) {here p : Place} :
    ⟨p, folder⟩ ∈ entrySights leads dir here n e ↔
      ∃ q, p = here ++ n :: q ∧ SeenEntry leads dir n e q folder := by
  rcases hdir : e.isDir with _ | _
  · rw [mem_entrySights_leaf hdir]
    simp [seenEntry_leaf hdir]
  cases e with
  | file | link => cases hdir
  | dir es =>
    rw [entrySights]
    by_cases hn : n ∈ skippedDirs
    · rw [if_pos hn]
      refine iff_of_false List.not_mem_nil ?_
      rintro ⟨q, -, ⟨-, rfl, hkept⟩ | ⟨hn', -⟩⟩
      · exact hkept rfl hn
      · exact hn' hn
    rw [if_neg hn, List.mem_cons, Sight.mk.injEq]
    constructor
    · rintro (⟨rfl, rfl⟩ | hp)
      · exact ⟨[], rfl, .inl ⟨rfl, rfl, fun _ => hn⟩⟩
      · split at hp
        · next hlisted =>
          obtain ⟨q, rfl, hseen⟩ := (h es rfl _ _ _ _ (isListed_iff.mp hlisted).1).mp hp
          exact ⟨q, by simp, .inr ⟨hn, hlisted, hseen⟩⟩
        · cases hp
    · rintro ⟨q, rfl, ⟨rfl, rfl, -⟩ | ⟨-, hlisted, hseen⟩⟩
      · exact .inl ⟨rfl, rfl⟩
      · rw [if_pos hlisted]
        exact .inr ((h es rfl _ _ _ _ (isListed_iff.mp hlisted).1).mpr ⟨q, by simp, hseen⟩)

lemma walked_of_entries (h : orderlyIn es = true)
    (hbelow : ∀ n e, es.find? n = some e → ∀ fs, e = .dir fs → Walked leads fs) :
    Walked leads es := by
  intro dir here p folder hdir
  rw [mem_sightsIn_find? h]
  constructor
  · rintro ⟨n, e, hfind, hp⟩
    obtain ⟨q, rfl, hentry⟩ := (mem_entrySights (hbelow n e hfind)).mp hp
    exact ⟨n :: q, rfl, (seen_cons hdir).mpr ⟨e, hfind, hentry⟩⟩
  · rintro ⟨_ | ⟨n, q⟩, rfl, hseen⟩
    · exact absurd rfl hseen.below
    · obtain ⟨e, hfind, hentry⟩ := (seen_cons hdir).mp hseen
      exact ⟨n, e, hfind, (mem_entrySights (hbelow n e hfind)).mpr ⟨q, rfl, hentry⟩⟩

/-- In an orderly tree every directory is walked through. -/
lemma walked (leads : Text → Bool) (h : orderlyIn es = true) : Walked leads es := by
  suffices hnode : ∀ e : Node, orderly e = true → ∀ es, e = .dir es → Walked leads es from
    hnode (.dir es) h es rfl
  intro e
  induction e using Node.rec
    (motive_2 := fun es => ∀ n e, es.find? n = some e → orderly e = true →
      ∀ fs, e = .dir fs → Walked leads fs) with
  | file | link => exact fun _ es heq => by cases heq
  | dir es ih =>
    intro horderly fs heq
    obtain rfl := Node.dir.inj heq
    exact walked_of_entries horderly fun n e hfind => ih n e hfind (orderly_entry horderly hfind).2
  | nil n e hfind => cases hfind
  | cons m node rest ihnode ih n e hfind he fs heq =>
    rw [Entries.find?] at hfind
    split at hfind
    · obtain rfl := Option.some.inj hfind
      exact ihnode he fs heq
    · exact ih n e hfind he fs heq

/-! ### Sights below a path -/

/-- What is seen below the directory that a path leads to. -/
def SeenAt (t : FileTree) (dir : Path) (q : Place) (folder : Bool) : Prop :=
  ∃ place es, t.locate true dir = .ok (place, some (.dir es)) ∧
    Seen (leadsToDir t) dir.toText (.dir es) q folder

/-- A source below the directory that a path leads to. -/
def SourceAt (t : FileTree) (dir : Path) (q : Place) : Prop :=
  SeenAt t dir q false ∧ ∃ n ∈ q.getLast?, sourceSuffix <:+ n

/-- A directory is further down than a walk can go. -/
def TooDeep (t : FileTree) (dir : Path) : Prop :=
  ∃ levels ∈ t.host.walkLevels, ∃ q, SeenAt t dir q true ∧ levels < q.length

section

variable {t u : FileTree} {dir : Path}

lemma short_of_locate {place : Place} {node : Option Node}
    (h : t.locate true dir = .ok (place, node)) : Short dir.toText := by
  obtain ⟨-, hfollow⟩ := locate_eq_ok.mp h
  exact (follow_eq_ok.mp hfollow).2.1

lemma mem_sights (h : orderly t.root = true) :
    ⟨q, folder⟩ ∈ sights t dir ↔ SeenAt t dir q folder := by
  unfold sights SeenAt
  constructor
  · intro hq
    split at hq
    · next place es hwalk =>
      have hes := orderly_of_get? h (locate_node hwalk).symm
      obtain ⟨q, rfl, hseen⟩ := (walked _ hes _ _ _ _ (short_of_locate hwalk)).mp hq
      exact ⟨place, es, hwalk, hseen⟩
    · cases hq
  · rintro ⟨place, es, hwalk, hseen⟩
    have hes := orderly_of_get? h (locate_node hwalk).symm
    rw [hwalk]
    exact (walked _ hes _ _ _ _ (short_of_locate hwalk)).mpr ⟨q, rfl, hseen⟩

lemma isSource_iff {s : Sight} :
    s.isSource = true ↔ s.isDir = false ∧ ∃ n ∈ s.place.getLast?, sourceSuffix <:+ n := by
  rw [Sight.isSource, Bool.and_eq_true, Bool.not_eq_true']
  refine and_congr_right fun _ => ?_
  cases s.place.getLast? <;> simp [endsWith_iff]

lemma mem_sources (h : orderly t.root = true) : q ∈ sources t dir ↔ SourceAt t dir q := by
  rw [sources, List.mem_map, SourceAt, ← mem_sights h]
  constructor
  · rintro ⟨⟨p, folder⟩, hs, rfl⟩
    obtain ⟨hs, hsource⟩ := List.mem_filter.mp hs
    obtain ⟨rfl, hsuffix⟩ := isSource_iff.mp hsource
    exact ⟨hs, hsuffix⟩
  · rintro ⟨hs, hsuffix⟩
    exact ⟨⟨q, false⟩, List.mem_filter.mpr ⟨hs, isSource_iff.mpr ⟨rfl, hsuffix⟩⟩, rfl⟩

lemma SourceAt.ne_nil (h : SourceAt t dir q) : q ≠ [] := by
  obtain ⟨⟨place, es, -, hseen⟩, -⟩ := h
  exact hseen.below

lemma SourceAt.isFileName (horderly : orderly t.root = true) (h : SourceAt t dir q) :
    ∀ n ∈ q, IsFileName n := by
  obtain ⟨⟨place, es, hwalk, hseen⟩, -⟩ := h
  obtain ⟨node, hnode, -⟩ := hseen.node
  exact isFileName_of_get? (orderly_of_get? horderly (locate_node hwalk).symm) hnode

lemma leadsToDir_iff {path : Text} :
    leadsToDir t path = true ↔
      ∃ place es, follow t.root t.here true path = .ok (place, some (.dir es)) := by
  unfold leadsToDir
  split
  · next place e hwalk =>
    rw [hwalk]
    cases e <;> simp [Node.isDir]
  · next hnot =>
    refine iff_of_false Bool.false_ne_true ?_
    rintro ⟨place, es, hwalk⟩
    exact hnot place (.dir es) hwalk

lemma leadsToDir_kindred (h : Kindred t.root u.root) (hview : Alongside t u) :
    leadsToDir u = leadsToDir t := by
  have hto : ∀ {t u : FileTree}, Kindred t.root u.root → Alongside t u → ∀ path,
      leadsToDir t path = true → leadsToDir u path = true := by
    intro t u h hview path hdir
    obtain ⟨place, es, hwalk⟩ := leadsToDir_iff.mp hdir
    obtain ⟨fs, hagain⟩ := h.follow_dir hwalk
    exact leadsToDir_iff.mpr ⟨place, fs, hview.here ▸ hagain⟩
  funext path
  exact Bool.eq_iff_iff.mpr ⟨hto h.symm hview.symm path, hto h hview path⟩

lemma isFolder_alike {leads : Bool} {e f : Node} (h : Alike e f) :
    isFolder leads f = isFolder leads e := by
  cases h <;> rfl

/-- The order of entries has no say in what is seen. -/
lemma SeenAt.kindred (hkin : Kindred t.root u.root) (hview : Alongside t u)
    (h : SeenAt t dir q folder) : SeenAt u dir q folder := by
  obtain ⟨place, es, hwalk, hseen⟩ := h
  obtain ⟨node, hnode, hfolder⟩ := hseen.node
  obtain ⟨hname, hfollow⟩ := locate_eq_ok.mp hwalk
  obtain ⟨fs, hagain⟩ := hkin.follow_dir hfollow
  have hwalk' : u.locate true dir = .ok (place, some (.dir fs)) :=
    locate_eq_ok.mpr ⟨(hview.misnamed? _).trans hname, hview.here ▸ hagain⟩
  have hbelow : ∀ {t : FileTree} {es : Entries}, t.locate true dir = .ok (place, some (.dir es)) →
      t.root.get? (place ++ q) = (Node.dir es).get? q := by
    intro t es hwalk
    rw [get?_append, ← locate_node hwalk, Option.bind_some]
  obtain ⟨node', hnode', halike⟩ := hkin.grown _ _ ((hbelow hwalk).trans hnode)
  refine ⟨place, fs, hwalk', { hseen with node := ⟨node', (hbelow hwalk').symm.trans hnode', ?_⟩ }⟩
  rw [leadsToDir_kindred hkin hview, isFolder_alike halike, hfolder]

lemma SourceAt.kindred (hkin : Kindred t.root u.root) (hview : Alongside t u)
    (h : SourceAt t dir q) : SourceAt u dir q :=
  ⟨h.1.kindred hkin hview, h.2⟩

lemma TooDeep.kindred (hkin : Kindred t.root u.root) (hview : Alongside t u)
    (h : TooDeep t dir) : TooDeep u dir := by
  obtain ⟨levels, hlevels, q, hseen, hdeep⟩ := h
  exact ⟨levels, hview.host ▸ hlevels, q, hseen.kindred hkin hview, hdeep⟩

end

end TestWeaver.Proofs.SourcePlaces
