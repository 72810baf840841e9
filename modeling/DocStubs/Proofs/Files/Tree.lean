import DocStubs.Files.Tree
import DocStubs.Proofs.Files.Path
import Mathlib.Data.List.Induction

/-!
# How file trees change

A file tree is a plain table, and not every table is a file tree that a disk can hold: a table
could have a file below nothing, or a name with a slash in it. `WellFormed` says what a real one
is like. It is a hypothesis on theorems and not part of the table, because most facts about
following paths hold for every table.

Two relations say how a tree changes. A tree `Grows` if everything that was there still is, with
files perhaps holding something else: this is all that any action does to a tree, and it is enough
for paths to lead where they led. It `ExtendsBy` nodes of some kind if everything that was there
is untouched and only such nodes are new.

## Main definitions

* `FileTree.Grows`, `FileTree.ExtendsBy` — how trees change
* `FileTree.HoldsNothing` — directories that are empty
* `FileTree.WellFormed` — the trees that a disk can hold

## Main results

* `FileTree.node?_put` — reading a table after a change
* `FileTree.WellFormed.node?_append_eq_none` — nothing is below a place where nothing is
* `FileTree.WellFormed.put` — changes that keep a tree well-formed
-/

namespace DocStubs

/-- Two nodes are alike if they are the same, or two regular files. -/
def Node.Alike : Node → Node → Prop
  | .file _, .file _ => True
  | node, other => node = other

namespace Node.Alike

@[refl] theorem refl (node : Node) : node.Alike node := by
  cases node <;> simp [Node.Alike]

theorem trans {a b c : Node} (hab : a.Alike b) (hbc : b.Alike c) : a.Alike c := by
  cases a <;> cases b <;> cases c <;> simp_all [Node.Alike]

theorem eq_directory {node : Node} (h : Node.directory.Alike node) : node = .directory := h.symm

theorem eq_link {target : String} {node : Node} (h : (Node.link target).Alike node) :
    node = .link target := h.symm

theorem eq_file {content : ByteArray} {node : Node} (h : (Node.file content).Alike node) :
    ∃ other, node = .file other := by
  cases node <;> simp_all [Node.Alike]

end Node.Alike

namespace FileTree

variable {tree before after : FileTree} {place : Place} {node : Node}

/-! ### The table -/

@[simp] theorem node?_nil (tree : FileTree) : tree.node? [] = some .directory := rfl

theorem node?_eq_find? (hplace : place ≠ []) :
    tree.node? place = (tree.entries.find? (·.1 = place)).map (·.2) := by
  rw [node?, if_neg (by simpa using hplace)]

theorem find?_putInto (place other : Place) (node : Node) (entries : List (Place × Node)) :
    (putInto place node entries).find? (·.1 = other) =
      if other = place then some (place, node) else entries.find? (·.1 = other) := by
  induction entries with
  | nil =>
    by_cases h : other = place
    · simp [putInto, h]
    · simp [putInto, h, Ne.symm h]
  | cons entry rest ih =>
    rw [putInto]
    by_cases hentry : entry.1 = place
    · by_cases h : other = place
      · simp [hentry, h]
      · simp [hentry, h, Ne.symm h]
    · rw [if_neg hentry, List.find?_cons, List.find?_cons, ih]
      by_cases h : other = place
      · simp [h, hentry]
      · simp [h]

/-- What is at a place after something was put somewhere. -/
theorem node?_put (hplace : place ≠ []) (other : Place) :
    (tree.put place node).node? other = if other = place then some node else tree.node? other := by
  by_cases hother : other = []
  · subst hother
    rw [node?_nil, node?_nil, if_neg (Ne.symm hplace)]
  · rw [node?_eq_find? hother, node?_eq_find? hother, put, find?_putInto]
    split <;> simp

theorem node?_put_self (hplace : place ≠ []) : (tree.put place node).node? place = some node := by
  rw [node?_put hplace, if_pos rfl]

theorem mem_of_node? (h : tree.node? place = some node) (hplace : place ≠ []) :
    (place, node) ∈ tree.entries := by
  rw [node?_eq_find? hplace, Option.map_eq_some_iff] at h
  obtain ⟨entry, hfind, rfl⟩ := h
  have hentry : entry.1 = place := by simpa using List.find?_some hfind
  rw [← hentry]
  exact List.mem_of_find?_eq_some hfind

/-- The names in a directory are those at which something is. -/
theorem mem_namesIn_iff {name : String} :
    name ∈ tree.namesIn place ↔ (tree.node? (place ++ [name])).isSome = true := by
  rw [namesIn, List.mem_mergeSort, List.mem_filterMap, node?_eq_find? (by simp), Option.isSome_map,
    List.find?_isSome]
  constructor
  · rintro ⟨⟨other, node⟩, hentry, hname⟩
    simp only [nameIn?] at hname
    split at hname
    · rename_i hplace
      refine ⟨_, hentry, decide_eq_true ?_⟩
      obtain ⟨start, rfl⟩ := List.getLast?_eq_some_iff.mp hname
      rw [← hplace, List.dropLast_concat]
    · cases hname
  · rintro ⟨⟨other, node⟩, hentry, hother⟩
    obtain rfl : other = place ++ [name] := of_decide_eq_true hother
    exact ⟨_, hentry, by simp [nameIn?]⟩

/-- The names in a directory are in order. -/
theorem pairwise_namesIn (tree : FileTree) (place : Place) :
    (tree.namesIn place).Pairwise (· ≤ ·) := by
  have hsorted : (tree.namesIn place).Pairwise fun name other => decide (name ≤ other) = true := by
    refine List.pairwise_mergeSort (fun a b c hab hbc => ?_) (fun a b => ?_) _
    · simp only [decide_eq_true_eq] at hab hbc ⊢
      exact String.le_trans hab hbc
    · simpa using String.le_total a b
  exact hsorted.imp fun hle => of_decide_eq_true hle

theorem mem_putInto {entry : Place × Node} {entries : List (Place × Node)}
    (h : entry ∈ putInto place node entries) : entry = (place, node) ∨ entry ∈ entries := by
  induction entries with
  | nil => exact Or.inl (List.mem_singleton.mp h)
  | cons first rest ih =>
    rw [putInto] at h
    split at h
    · exact (List.mem_cons.mp h).imp id (List.mem_cons_of_mem _)
    · rcases List.mem_cons.mp h with rfl | h
      · exact Or.inr List.mem_cons_self
      · exact (ih h).imp id (List.mem_cons_of_mem _)

/-! ### Growing -/

/-- Everything that was there still is, with files perhaps holding something else. -/
structure Grows (before after : FileTree) : Prop where
  workingPlace : after.workingPlace = before.workingPlace
  node? : ∀ {place node}, before.node? place = some node →
    ∃ other, after.node? place = some other ∧ node.Alike other

@[refl] theorem Grows.refl (tree : FileTree) : tree.Grows tree :=
  ⟨rfl, fun h => ⟨_, h, Node.Alike.refl _⟩⟩

theorem Grows.trans {first second third : FileTree} (h : first.Grows second)
    (h' : second.Grows third) : first.Grows third := by
  refine ⟨h'.workingPlace.trans h.workingPlace, fun hnode => ?_⟩
  obtain ⟨other, hother, halike⟩ := h.node? hnode
  obtain ⟨last, hlast, halike'⟩ := h'.node? hother
  exact ⟨last, hlast, halike.trans halike'⟩

theorem Grows.directory (h : before.Grows after) (hplace : before.node? place = some .directory) :
    after.node? place = some .directory := by
  obtain ⟨other, hother, halike⟩ := h.node? hplace
  rw [hother, halike.eq_directory]

theorem Grows.file (h : before.Grows after) {content : ByteArray}
    (hplace : before.node? place = some (.file content)) :
    ∃ other, after.node? place = some (.file other) := by
  obtain ⟨other, hother, halike⟩ := h.node? hplace
  obtain ⟨content', rfl⟩ := halike.eq_file
  exact ⟨content', hother⟩

/-- A change that puts a node where nothing was, or a file where a file was. -/
theorem Grows.put (hplace : place ≠ [])
    (h : ∀ old, tree.node? place = some old → old.Alike node) :
    tree.Grows (tree.put place node) := by
  refine ⟨rfl, fun {other old} hold => ?_⟩
  rw [node?_put hplace]
  by_cases hother : other = place
  · subst hother
    exact ⟨node, if_pos rfl, h old hold⟩
  · exact ⟨old, by rw [if_neg hother, hold], Node.Alike.refl old⟩

/-! ### Extending -/

/-- Everything that was there is untouched, and what is new is of some kind. -/
structure ExtendsBy (kind : Node → Prop) (before after : FileTree) : Prop where
  workingPlace : after.workingPlace = before.workingPlace
  kept : ∀ {place node}, before.node? place = some node → after.node? place = some node
  added : ∀ {place node}, after.node? place = some node →
    before.node? place = some node ∨ before.node? place = none ∧ kind node

variable {kind : Node → Prop}

theorem ExtendsBy.refl (kind : Node → Prop) (tree : FileTree) : tree.ExtendsBy kind tree :=
  ⟨rfl, id, Or.inl⟩

theorem ExtendsBy.trans {first second third : FileTree} (h : first.ExtendsBy kind second)
    (h' : second.ExtendsBy kind third) : first.ExtendsBy kind third := by
  refine ⟨h'.workingPlace.trans h.workingPlace, fun hnode => h'.kept (h.kept hnode), ?_⟩
  intro place node hnode
  rcases h'.added hnode with hsecond | ⟨hsecond, hkind⟩
  · exact h.added hsecond
  · refine Or.inr ⟨?_, hkind⟩
    cases hfirst : first.node? place with
    | none => rfl
    | some old => rw [h.kept hfirst] at hsecond; cases hsecond

theorem ExtendsBy.mono {kind' : Node → Prop} (h : before.ExtendsBy kind after)
    (hkind : ∀ node, kind node → kind' node) : before.ExtendsBy kind' after :=
  ⟨h.workingPlace, h.kept, fun hnode => (h.added hnode).imp id fun ⟨hnone, hk⟩ =>
    ⟨hnone, hkind _ hk⟩⟩

theorem ExtendsBy.grows (h : before.ExtendsBy kind after) : before.Grows after :=
  ⟨h.workingPlace, fun hnode => ⟨_, h.kept hnode, Node.Alike.refl _⟩⟩

/-- Something is put where nothing was at the beginning. -/
theorem ExtendsBy.put (h : before.ExtendsBy kind after) (hplace : place ≠ [])
    (hnone : before.node? place = none) (hkind : kind node) :
    before.ExtendsBy kind (after.put place node) := by
  refine ⟨h.workingPlace, fun {other old} hold => ?_, fun {other new} hnew => ?_⟩
  · have hne : other ≠ place := by
      rintro rfl
      rw [hnone] at hold
      cases hold
    rw [node?_put hplace, if_neg hne]
    exact h.kept hold
  · rw [node?_put hplace] at hnew
    split at hnew
    · rename_i hother
      subst hother
      cases hnew
      exact Or.inr ⟨hnone, hkind⟩
    · exact h.added hnew

/-- Nothing is in a directory. -/
def HoldsNothing (tree : FileTree) (place : Place) : Prop :=
  ∀ name, tree.node? (place ++ [name]) = none

/-! ### Trees that a disk can hold -/

/-- Everything is in a directory and has a name, and so has the place where relative paths start. -/
structure WellFormed (tree : FileTree) : Prop where
  entry : ∀ entry ∈ tree.entries, entry.1 ≠ [] ∧ (∀ name ∈ entry.1, Path.IsName name) ∧
    tree.node? entry.1.dropLast = some .directory
  workingPlace : tree.node? tree.workingPlace = some .directory

instance (tree : FileTree) : Decidable tree.WellFormed :=
  decidable_of_iff
    ((∀ entry ∈ tree.entries, entry.1 ≠ [] ∧ (∀ name ∈ entry.1, Path.IsName name) ∧
      tree.node? entry.1.dropLast = some .directory) ∧
      tree.node? tree.workingPlace = some .directory)
    ⟨fun ⟨h₁, h₂⟩ => ⟨h₁, h₂⟩, fun ⟨h₁, h₂⟩ => ⟨h₁, h₂⟩⟩

namespace WellFormed

theorem isName (h : tree.WellFormed) (hnode : tree.node? place = some node) :
    ∀ name ∈ place, Path.IsName name := by
  by_cases hplace : place = []
  · simp [hplace]
  · exact (h.entry _ (mem_of_node? hnode hplace)).2.1

/-- What holds something is a directory. The root holds itself. -/
theorem node?_dropLast (h : tree.WellFormed) (hnode : tree.node? place = some node) :
    tree.node? place.dropLast = some .directory := by
  by_cases hplace : place = []
  · simp [hplace]
  · exact (h.entry _ (mem_of_node? hnode hplace)).2.2

/-- Nothing is below a place where nothing is. -/
theorem node?_append_eq_none (h : tree.WellFormed) (hnone : tree.node? place = none)
    (rest : List String) : tree.node? (place ++ rest) = none := by
  induction rest using List.reverseRecOn with
  | nil => rwa [List.append_nil]
  | append_singleton rest name ih =>
    cases hnode : tree.node? (place ++ (rest ++ [name])) with
    | none => rfl
    | some node =>
      have hdir := h.node?_dropLast hnode
      rw [← List.append_assoc, List.dropLast_concat, ih] at hdir
      cases hdir

/-- A directory that is made where nothing was is empty. -/
theorem holdsNothing_put (h : tree.WellFormed) (hnone : tree.node? place = none) (node : Node) :
    (tree.put place node).HoldsNothing place := by
  intro name
  have hplace : place ≠ [] := by
    rintro rfl
    cases hnone
  rw [node?_put hplace, if_neg (by simp), h.node?_append_eq_none hnone]

/-- A well-formed tree stays so if something is put into a directory, under a name that is free or
that of a file. -/
theorem put (h : tree.WellFormed) {directory : Place} {name : String} (hname : Path.IsName name)
    (hdir : tree.node? directory = some .directory)
    (hfree : tree.node? (directory ++ [name]) ≠ some .directory) :
    (tree.put (directory ++ [name]) node).WellFormed := by
  have hplace : directory ++ [name] ≠ [] := by simp
  have hkeep : ∀ {place}, tree.node? place = some .directory →
      (tree.put (directory ++ [name]) node).node? place = some .directory := by
    intro place hold
    have hne : place ≠ directory ++ [name] := by
      rintro rfl
      exact hfree hold
    rw [node?_put hplace, if_neg hne, hold]
  refine ⟨fun entry hentry => ?_, hkeep h.workingPlace⟩
  rcases mem_putInto hentry with rfl | hentry
  · refine ⟨hplace, fun other hother => ?_, ?_⟩
    · rcases List.mem_append.mp hother with hother | hother
      · exact h.isName hdir other hother
      · rwa [List.mem_singleton.mp hother]
    · rw [List.dropLast_concat]
      exact hkeep hdir
  · obtain ⟨hne, hnames, hparent⟩ := h.entry entry hentry
    exact ⟨hne, hnames, hkeep hparent⟩

end WellFormed

end FileTree

end DocStubs
