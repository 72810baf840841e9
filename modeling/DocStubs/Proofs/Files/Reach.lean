import DocStubs.Files.Walk
import DocStubs.Proofs.Files.Lookup

/-!
# What is at a path

The facts about names along a path, said of paths as texts. A path that can be looked up at all is
`Usable`; where it then leads is a matter of its names only.

`Destination` is where writing a path puts a file. It is the one notion through which all changes
of files are described: a destination is a file or a free name, it can be read under the path once
something is there, and it stays where it is while a tree grows.

## Main definitions

* `FileTree.Destination` — where writing a path puts a file

## Main results

* `FileTree.lookup_eq_ok_iff` — where a path leads is a matter of its names
* `FileTree.Destination.read` — what is written under a path is read under it
* `FileTree.Destination.node?_eq_none` — a path that leads nowhere is written to a free name
-/

namespace DocStubs

namespace FileTree

variable {tree before after : FileTree} {purpose : Purpose} {path : String} {place : Place}
  {node : Node} {found : Found} {content : ByteArray}

/-! ### Looking up a path -/

/-- A path that can be looked up, whatever is there. -/
structure Usable (path : String) : Prop where
  ne_empty : path ≠ ""
  no_nul : '\x00' ∉ path.toList
  short : path.utf8ByteSize < pathLimit

/-- Where a path starts. -/
def origin (tree : FileTree) (path : String) : Place :=
  if Path.isAbsolute path then [] else tree.workingPlace

theorem origin_congr (tree : FileTree) {path other : String}
    (h : Path.isAbsolute path = Path.isAbsolute other) : tree.origin path = tree.origin other := by
  rw [origin, origin, h]

theorem origin_append (tree : FileTree) (hpath : path ≠ "") (ending : String) :
    tree.origin (path ++ ending) = tree.origin path :=
  tree.origin_congr (Path.isAbsolute_append hpath ending)

/-- A path below a directory starts where that of the directory does. -/
theorem origin_join (tree : FileTree) (directory : String) (h : Path.isAbsolute path = false) :
    tree.origin (Path.join directory path) = tree.origin directory := by
  by_cases hempty : directory = ""
  · have hjoin : Path.join directory path = path := by simp [Path.join, hempty]
    rw [hjoin, hempty]
    exact tree.origin_congr h
  · exact tree.origin_congr (Path.isAbsolute_join hempty h)

theorem lookup_eq_ok_iff :
    tree.lookup purpose path = .ok found ↔
      Usable path ∧ Leads tree purpose linkLimit (Path.endsInSlash path) (tree.origin path)
        (Path.names path) found := by
  rw [lookup]
  constructor
  · intro h
    split at h
    · cases h
    split at h
    · cases h
    split at h
    · cases h
    rename_i hnul hempty hshort
    exact ⟨⟨by simpa using hempty, by simpa using hnul, Nat.lt_of_not_le hshort⟩,
      leads_of_follow h⟩
  · rintro ⟨husable, h⟩
    rw [if_neg (by simpa using husable.no_nul), if_neg (by simpa using husable.ne_empty),
      if_neg (Nat.not_le.mpr husable.short)]
    exact follow_of_leads h

theorem Grows.origin_eq (h : before.Grows after) (path : String) :
    after.origin path = before.origin path := by
  rw [origin, origin, h.workingPlace]

/-- A path leads where it led after a tree has grown. -/
theorem Grows.lookup (h : before.Grows after)
    (hlookup : before.lookup purpose path = .ok (.node place node)) :
    ∃ other, after.lookup purpose path = .ok (.node place other) ∧ node.Alike other := by
  obtain ⟨husable, hleads⟩ := lookup_eq_ok_iff.mp hlookup
  obtain ⟨other, hother, halike⟩ := hleads.grows h
  rw [← h.origin_eq path] at hother
  exact ⟨other, lookup_eq_ok_iff.mpr ⟨husable, hother⟩, halike⟩

/-- What a path leads to is untouched where nothing but new things are added. -/
theorem ExtendsBy.lookup {kind : Node → Prop} (h : before.ExtendsBy kind after)
    (hlookup : before.lookup .reach path = .ok (.node place node)) :
    after.lookup .reach path = .ok (.node place node) := by
  obtain ⟨other, hother, halike⟩ := h.grows.lookup hlookup
  rcases (lookup_eq_ok_iff.mp hlookup).2.node?_eq with rfl | hnode
  · rwa [halike.eq_directory] at hother
  rcases (lookup_eq_ok_iff.mp hother).2.node?_eq with rfl | hnode'
  · cases node with
    | directory => exact hother
    | file _ | link _ | special => cases halike
  · rw [h.kept hnode] at hnode'
    cases hnode'
    exact hother

theorem lookup_reach_of_write (h : tree.lookup .write path = .ok (.node place node)) :
    tree.lookup .reach path = .ok (.node place node) := by
  obtain ⟨husable, hleads⟩ := lookup_eq_ok_iff.mp h
  exact lookup_eq_ok_iff.mpr ⟨husable, hleads.reach_of_write⟩

theorem lookup_write_of_reach (h : tree.lookup .reach path = .ok (.node place (.file content))) :
    tree.lookup .write path = .ok (.node place (.file content)) := by
  obtain ⟨husable, hleads⟩ := lookup_eq_ok_iff.mp h
  exact lookup_eq_ok_iff.mpr ⟨husable, hleads.write_of_reach.2⟩

theorem node?_of_lookup_file (h : tree.lookup purpose path = .ok (.node place (.file content))) :
    tree.node? place = some (.file content) := by
  rcases (lookup_eq_ok_iff.mp h).2.node?_eq with hdir | hnode
  · cases hdir
  · exact hnode

/-- Where a path starts in a well-formed tree is a directory. -/
theorem WellFormed.origin (h : tree.WellFormed) (path : String) :
    tree.node? (tree.origin path) = some .directory := by
  rw [FileTree.origin]
  split
  · rfl
  · exact h.workingPlace

theorem WellFormed.landed (h : tree.WellFormed) (hlookup : tree.lookup purpose path = .ok found) :
    tree.Landed found :=
  (lookup_eq_ok_iff.mp hlookup).2.landed h (h.origin path) fun _ => Path.mem_names

/-- What the first names of a path lead through to is a directory. -/
theorem WellFormed.node?_of_enters {links left : Nat} {known : List String} (h : tree.WellFormed)
    (henters : Enters tree links (tree.origin path) known place left)
    (hknown : known <+: Path.names path) : tree.node? place = some .directory :=
  (henters.leads false).landed h (h.origin path) fun _ hname => Path.mem_names (hknown.mem hname)

/-! ### What a path leads to -/

theorem reached_eq_ok_iff :
    tree.reached purpose path = .ok (place, node) ↔
      tree.lookup purpose path = .ok (.node place node) := by
  rw [reached]
  split <;> simp_all

theorem nodeAt_eq_ok_iff :
    tree.nodeAt path = .ok node ↔ ∃ place, tree.lookup .reach path = .ok (.node place node) := by
  rw [nodeAt]
  cases h : tree.reached .reach path with
  | error fault =>
    simp only [Except.map, reduceCtorEq, false_iff, not_exists]
    intro place hplace
    rw [reached_eq_ok_iff.mpr hplace] at h
    cases h
  | ok landed =>
    obtain ⟨place, other⟩ := landed
    have hlookup := reached_eq_ok_iff.mp h
    simp only [Except.map, Except.ok.injEq]
    constructor
    · rintro rfl
      exact ⟨place, hlookup⟩
    · rintro ⟨place', hplace'⟩
      rw [hlookup] at hplace'
      cases hplace'
      rfl

theorem hasPath_iff :
    tree.hasPath path = true ↔ ∃ place node, tree.lookup .reach path = .ok (.node place node) := by
  rw [hasPath]
  cases h : tree.nodeAt path with
  | error fault =>
    simp only [Except.isOk, Except.toBool, Bool.false_eq_true, false_iff, not_exists]
    intro place node hnode
    rw [nodeAt_eq_ok_iff.mpr ⟨place, hnode⟩] at h
    cases h
  | ok node =>
    obtain ⟨place, hplace⟩ := nodeAt_eq_ok_iff.mp h
    exact ⟨fun _ => ⟨place, node, hplace⟩, fun _ => rfl⟩

theorem any_nodeAt_iff {test : Node → Bool} :
    (tree.nodeAt path).toOption.any test = true ↔
      ∃ place node, tree.lookup .reach path = .ok (.node place node) ∧ test node = true := by
  cases h : tree.nodeAt path with
  | error fault =>
    simp only [Except.toOption, Option.any_none, Bool.false_eq_true, false_iff, not_exists]
    rintro place node ⟨hnode, -⟩
    rw [nodeAt_eq_ok_iff.mpr ⟨place, hnode⟩] at h
    cases h
  | ok node =>
    obtain ⟨place, hplace⟩ := nodeAt_eq_ok_iff.mp h
    simp only [Except.toOption, Option.any_some]
    constructor
    · exact fun htest => ⟨place, node, hplace, htest⟩
    · rintro ⟨place', node', hnode', htest⟩
      rw [hplace] at hnode'
      cases hnode'
      exact htest

theorem hasFile_iff :
    tree.hasFile path = true ↔
      ∃ place content, tree.lookup .reach path = .ok (.node place (.file content)) := by
  rw [hasFile, any_nodeAt_iff]
  constructor
  · rintro ⟨place, node, hnode, htest⟩
    cases node with
    | file content => exact ⟨place, content, hnode⟩
    | directory | link _ | special => cases htest
  · rintro ⟨place, content, hnode⟩
    exact ⟨place, .file content, hnode, rfl⟩

theorem hasDirectory_iff :
    tree.hasDirectory path = true ↔
      ∃ place, tree.lookup .reach path = .ok (.node place .directory) := by
  rw [hasDirectory, any_nodeAt_iff]
  constructor
  · rintro ⟨place, node, hnode, htest⟩
    cases node with
    | directory => exact ⟨place, hnode⟩
    | file _ | link _ | special => cases htest
  · rintro ⟨place, hnode⟩
    exact ⟨place, .directory, hnode, rfl⟩

theorem read_eq_ok_iff :
    tree.read path = .ok content ↔
      ∃ place, tree.lookup .reach path = .ok (.node place (.file content)) := by
  rw [← nodeAt_eq_ok_iff]
  rw [read]
  split <;> simp_all

theorem Grows.hasPath (h : before.Grows after) (hpath : before.hasPath path = true) :
    after.hasPath path = true := by
  obtain ⟨place, node, hnode⟩ := hasPath_iff.mp hpath
  obtain ⟨other, hother, -⟩ := h.lookup hnode
  exact hasPath_iff.mpr ⟨place, other, hother⟩

theorem Grows.hasFile (h : before.Grows after) (hfile : before.hasFile path = true) :
    after.hasFile path = true := by
  obtain ⟨place, content, hnode⟩ := hasFile_iff.mp hfile
  obtain ⟨other, hother, halike⟩ := h.lookup hnode
  obtain ⟨content', rfl⟩ := halike.eq_file
  exact hasFile_iff.mpr ⟨place, content', hother⟩

theorem find?_ancestor_eq_none_iff {ancestors : List Ancestor} :
    ancestors.find? (·.place = place) = none ↔ place ∉ ancestors.map (·.place) := by
  rw [List.find?_eq_none, List.mem_map]
  simp

theorem through_eq_ok_iff_of_reached {ancestors : List Ancestor} {seen : Node}
    (h : tree.reached .reach path = .ok (place, seen)) :
    tree.through ancestors path = .ok node ↔
      seen = node ∧ (node = .directory → place ∉ ancestors.map (·.place)) := by
  rw [through]
  rw [h, ← find?_ancestor_eq_none_iff]
  dsimp only [orFault]
  split
  · rename_i ancestor hdirectory hsome
    cases seen with
    | directory =>
      refine iff_of_false nofun ?_
      rintro ⟨rfl, hnone⟩
      rw [hnone rfl] at hsome
      cases hsome
    | file _ | link _ | special => cases hdirectory
  · rename_i hnot
    rw [Except.ok.injEq]
    refine ⟨fun heq => ⟨heq, ?_⟩, fun h => h.1⟩
    rintro rfl
    subst heq
    cases hfound : ancestors.find? (·.place = place) with
    | none => rfl
    | some ancestor => exact absurd hfound (hnot ancestor rfl)

/-- What a link is seen as is what its path leads to, unless that is a directory being walked. -/
theorem through_eq_ok_iff {ancestors : List Ancestor} :
    tree.through ancestors path = .ok node ↔
      ∃ place, tree.lookup .reach path = .ok (.node place node) ∧
        (node = .directory → place ∉ ancestors.map (·.place)) := by
  cases hreach : tree.reached .reach path with
  | error fault =>
    have hfails : tree.through ancestors path = .error (.file path fault) := by
      rw [through, hreach]
      rfl
    rw [hfails]
    refine iff_of_false nofun ?_
    rintro ⟨place, hlookup, -⟩
    rw [reached_eq_ok_iff.mpr hlookup] at hreach
    cases hreach
  | ok landed =>
    obtain ⟨place, seen⟩ := landed
    rw [through_eq_ok_iff_of_reached hreach, reached_eq_ok_iff.mp hreach]
    constructor
    · rintro ⟨rfl, hnew⟩
      exact ⟨place, rfl, hnew⟩
    · rintro ⟨other, hsame, hnew⟩
      cases hsame
      exact ⟨rfl, hnew⟩

/-! ### Where writing a path puts a file -/

/-- Where writing a path puts a file: in the place of the file that the path leads to, or under a
free name. -/
def Destination (tree : FileTree) (path : String) (place : Place) : Prop :=
  (∃ content, tree.lookup .write path = .ok (.node place (.file content))) ∨
    ∃ directory name, tree.lookup .write path = .ok (.missing directory name) ∧
      place = directory ++ [name]

namespace Destination

theorem unique {other : Place} (h : tree.Destination path place)
    (h' : tree.Destination path other) : place = other := by
  rcases h with ⟨content, h⟩ | ⟨directory, name, h, rfl⟩
  · rcases h' with ⟨content', h'⟩ | ⟨directory', name', h', rfl⟩
    · rw [h] at h'
      cases h'
      rfl
    · rw [h] at h'
      cases h'
  · rcases h' with ⟨content', h'⟩ | ⟨directory', name', h', rfl⟩
    · rw [h] at h'
      cases h'
    · rw [h] at h'
      cases h'
      rfl

/-- There is a file at a destination, or nothing. -/
theorem node?_eq (h : tree.Destination path place) :
    tree.node? place = none ∨ ∃ content, tree.node? place = some (.file content) := by
  rcases h with ⟨content, h⟩ | ⟨directory, name, h, rfl⟩
  · exact Or.inr ⟨content, node?_of_lookup_file h⟩
  · exact Or.inl (lookup_eq_ok_iff.mp h).2.node?_eq_none

theorem ne_nil (h : tree.Destination path place) : place ≠ [] := by
  rintro rfl
  rcases h.node?_eq with hnone | ⟨content, hfile⟩
  · cases hnone
  · cases hfile

/-- A path that leads nowhere is written to a free name. -/
theorem node?_eq_none (h : tree.Destination path place) (hpath : tree.hasPath path = false) :
    tree.node? place = none := by
  rcases h with ⟨content, h⟩ | ⟨directory, name, h, rfl⟩
  · have hreach : tree.hasPath path = true :=
      hasPath_iff.mpr ⟨place, _, lookup_reach_of_write h⟩
    rw [hpath] at hreach
    cases hreach
  · exact (lookup_eq_ok_iff.mp h).2.node?_eq_none

/-- A file that a path leads to is where the path is written. -/
theorem of_lookup (h : tree.lookup .reach path = .ok (.node place (.file content))) :
    tree.Destination path place :=
  Or.inl ⟨content, lookup_write_of_reach h⟩

/-- A path leads to what is put at its destination, also after the tree has grown. -/
theorem lookup (h : before.Destination path place) (hgrows : before.Grows after)
    (hnew : after.node? place = some (.file content)) :
    after.lookup .reach path = .ok (.node place (.file content)) := by
  rcases h with ⟨old, h⟩ | ⟨directory, name, h, rfl⟩
  · obtain ⟨other, hother, halike⟩ := hgrows.lookup (lookup_reach_of_write h)
    obtain ⟨content', rfl⟩ := halike.eq_file
    have hsame := node?_of_lookup_file hother
    rw [hnew] at hsame
    cases hsame
    exact hother
  · obtain ⟨husable, hleads⟩ := lookup_eq_ok_iff.mp h
    refine lookup_eq_ok_iff.mpr ⟨husable, ?_⟩
    rw [hgrows.origin_eq]
    exact hleads.reach_of_missing hgrows hnew

theorem read (h : before.Destination path place) (hgrows : before.Grows after)
    (hnew : after.node? place = some (.file content)) : after.read path = .ok content :=
  read_eq_ok_iff.mpr ⟨place, h.lookup hgrows hnew⟩

/-- A file can be put at a destination. -/
theorem grows (h : tree.Destination path place) (content : ByteArray) :
    tree.Grows (tree.put place (.file content)) := by
  refine Grows.put h.ne_nil fun old hold => ?_
  rcases h.node?_eq with hnone | ⟨content', hfile⟩
  · rw [hnone] at hold
    cases hold
  · rw [hfile] at hold
    cases hold
    trivial

/-- A destination in a well-formed tree is a name in a directory. -/
theorem wellFormed_put (h : tree.Destination path place) (hwell : tree.WellFormed)
    (content : ByteArray) : (tree.put place (.file content)).WellFormed := by
  have hfree : tree.node? place ≠ some .directory := by
    rcases h.node?_eq with hnone | ⟨content', hfile⟩
    · simp [hnone]
    · simp [hfile]
  have hne := h.ne_nil
  rcases h with ⟨old, h⟩ | ⟨directory, name, h, rfl⟩
  · have hnode : tree.node? place = some (.file old) := hwell.landed h
    obtain ⟨directory, name, rfl⟩ : ∃ directory name, place = directory ++ [name] :=
      ⟨_, _, (List.dropLast_concat_getLast hne).symm⟩
    have hdir := hwell.node?_dropLast hnode
    rw [List.dropLast_concat] at hdir
    exact hwell.put (hwell.isName hnode name (by simp)) hdir hfree
  · obtain ⟨hdir, hname⟩ := hwell.landed h
    exact hwell.put hname hdir hfree

end Destination

/-! ### The file that a path stands for -/

theorem denotes_of_lookup (h : tree.lookup .reach path = .ok (.node place node)) (other : Place) :
    tree.denotes path other = decide (place = other) := by
  rw [denotes, reached_eq_ok_iff.mpr h]

theorem sameFile_of_lookup (h : tree.lookup .reach path = .ok (.node place node))
    (other : String) : tree.sameFile path other = tree.denotes other place := by
  rw [sameFile, reached_eq_ok_iff.mpr h]

/-- A path that leads to nothing leads to no file that another path leads to. -/
theorem sameFile_of_not_hasPath {other : String} (h : tree.hasPath other = false) :
    tree.sameFile path other = false := by
  rw [hasPath, nodeAt] at h
  rw [sameFile]
  split
  · rw [denotes]
    split
    · rename_i hreached
      rw [hreached] at h
      cases h
    · rfl
  · rfl

/-- A file that is written at another place is not the one that a path leads to. -/
theorem Destination.sameFile_eq_false {other : String} {written : Place} (hwell : tree.WellFormed)
    (h : tree.Destination other written)
    (hread : tree.lookup .reach path = .ok (.node place (.file content)))
    (hne : place ≠ written) : tree.sameFile path other = false := by
  rw [sameFile_of_lookup hread, denotes]
  split
  · rename_i there node hreached
    rw [decide_eq_false_iff_not]
    rintro rfl
    have hother := reached_eq_ok_iff.mp hreached
    have hnode : tree.node? there = some node := hwell.landed hother
    rw [node?_of_lookup_file hread] at hnode
    cases hnode
    exact hne ((of_lookup hother).unique h)
  · rfl

end FileTree

end DocStubs
