import DocStubs.Packages
import DocStubs.Proofs.Files.Reach
import Mathlib.Data.List.MinMax

/-!
# How far names can lead

Links may lead in circles, so a path can go on for ever longer through the same directories, and
the height of a tree says nothing about the length of the paths in it. But each time around takes a
link, and a lookup follows a limited number of them. Between two links every name leads one place
deeper, and no place is deeper than the tree is high. So the names at the end of a path are bounded
by the links and the height together.

The paths before those names do not matter: they may turn back and follow links as they like, which
only leaves fewer links for what comes after.

## Main definitions

* `FileTree.height`, `FileTree.room` — how deep the places of a tree are, and how much deeper names
  can lead before the next link
* `Path.descend` — the path that goes on by some names
* `FileTree.Nests` — a bound on how deep packages are nested below a directory

## Main results

* `FileTree.Enters.length_le` — how many names can lead on at the end of a path
* `FileTree.nests_of_links` — packages are nested no deeper than links and height allow
* `FileTree.nests_of_pathLimit` — packages are nested no deeper than paths are long
-/

namespace DocStubs

/-! ### Paths that go on by names -/

namespace Path

variable {directory : String} {parts : List String}

/-- The path that goes on from another one by some names. -/
def descend (directory : String) (parts : List String) : String := parts.foldl join directory

theorem descend_cons (directory part : String) (parts : List String) :
    descend directory (part :: parts) = descend (join directory part) parts := rfl

theorem names_descend (h : ∀ part ∈ parts, IsName part) :
    names (descend directory parts) = names directory ++ parts := by
  induction parts generalizing directory with
  | nil => exact (List.append_nil _).symm
  | cons part rest ih =>
    obtain ⟨hpart, hrest⟩ := List.forall_mem_cons.mp h
    rw [descend_cons, ih hrest, names_join _ hpart.isAbsolute_eq_false, hpart.names_eq,
      List.append_assoc, List.singleton_append]

theorem size_le_size_join (directory : String) {path : String} (h : isAbsolute path = false) :
    directory.utf8ByteSize + path.utf8ByteSize ≤ (join directory path).utf8ByteSize := by
  rw [join]
  rw [h, Bool.false_or]
  split
  · rename_i hempty
    rw [String.isEmpty_iff.mp hempty]
    simp
  · split
    · rw [String.utf8ByteSize_append]
    · rw [String.utf8ByteSize_append, String.utf8ByteSize_append]
      omega

theorem IsName.size_pos {name : String} (h : IsName name) : 0 < name.utf8ByteSize := by
  refine Nat.pos_of_ne_zero fun hzero => h.ne_empty ?_
  exact String.utf8ByteSize_eq_zero_iff.mp hzero

/-- Each name makes a path longer. -/
theorem length_le_size_descend (directory : String) (h : ∀ part ∈ parts, IsName part) :
    directory.utf8ByteSize + parts.length ≤ (descend directory parts).utf8ByteSize := by
  induction parts generalizing directory with
  | nil => exact Nat.le_refl _
  | cons part rest ih =>
    obtain ⟨hpart, hrest⟩ := List.forall_mem_cons.mp h
    have hjoin := size_le_size_join directory hpart.isAbsolute_eq_false
    have hpos := hpart.size_pos
    have honward := ih (join directory part) hrest
    rw [descend_cons, List.length_cons]
    omega

end Path

namespace FileTree

variable {tree : FileTree} {links left bound : Nat} {here place : Place} {node : Node}
  {directory name : String} {front parts : List String}

/-! ### Names and links -/

/-- How deep the places of a tree are. -/
def height (tree : FileTree) : Nat := (tree.entries.map (·.1.length)).foldr max 0

theorem length_le_height (h : tree.node? place = some node) : place.length ≤ tree.height := by
  by_cases hplace : place = []
  · rw [hplace]
    exact Nat.zero_le _
  · have hmem : place.length ∈ tree.entries.map (·.1.length) :=
      List.mem_map.mpr ⟨_, mem_of_node? h hplace, rfl⟩
    exact List.le_max_of_le' 0 hmem (Nat.le_refl _)

/-- How much deeper names at the end of a path can lead before the next link: from the directory
that the path has come to, or from anywhere if other names come before them. -/
def room (tree : FileTree) (here : Place) (front : List String) : Nat :=
  if front = [] then tree.height - here.length else tree.height

theorem room_nil (tree : FileTree) (here : Place) :
    tree.room here [] = tree.height - here.length := if_pos rfl

theorem room_cons (tree : FileTree) (here : Place) (name : String) (front : List String) :
    tree.room here (name :: front) = tree.height := if_neg (List.cons_ne_nil name front)

theorem room_le (tree : FileTree) (here : Place) (front : List String) :
    tree.room here front ≤ tree.height := by
  rw [room]
  split <;> omega

/-- How many names can lead on at the end of a path: as many as the tree is high for each link that
may be followed, besides the link itself, and as many as there is room for before the first one. -/
theorem Enters.length_le (h : Enters tree links here (front ++ parts) place left)
    (hparts : ∀ part ∈ parts, Path.IsName part) :
    parts.length ≤ links * (tree.height + 1) + tree.room here front := by
  generalize hall : front ++ parts = all at h
  -- At a link its target comes before the names, so the induction is for any beginning of a path.
  induction h generalizing front parts with
  | done =>
    rw [(List.append_eq_nil_iff.mp hall).2]
    exact Nat.zero_le _
  | dot onward ih =>
    rcases List.append_eq_cons_iff.mp hall with ⟨rfl, rfl⟩ | ⟨front, rfl, rfl⟩
    · exact absurd rfl (hparts _ List.mem_cons_self).ne_dot
    · rw [room_cons]
      exact (ih hparts rfl).trans (Nat.add_le_add_left (room_le ..) _)
  | dots onward ih =>
    rcases List.append_eq_cons_iff.mp hall with ⟨rfl, rfl⟩ | ⟨front, rfl, rfl⟩
    · exact absurd rfl (hparts _ List.mem_cons_self).ne_dots
    · rw [room_cons]
      exact (ih hparts rfl).trans (Nat.add_le_add_left (room_le ..) _)
  | @directory links here name rest place left ordinary there onward ih =>
    rcases List.append_eq_cons_iff.mp hall with ⟨rfl, rfl⟩ | ⟨front, rfl, rfl⟩
    · have hdeeper := length_le_height there
      have hle := ih (List.forall_mem_cons.mp hparts).2 (List.nil_append rest)
      rw [room_nil, List.length_append, List.length_singleton] at hle
      rw [List.length_append, List.length_singleton] at hdeeper
      rw [room_nil, List.length_cons]
      omega
    · rw [room_cons]
      exact (ih hparts rfl).trans (Nat.add_le_add_left (room_le ..) _)
  | @through links here name target rest place left ordinary there target_ne onward ih =>
    -- Whatever there was room for before the link, there is all of the height after it.
    have hafter {front parts : List String} (hparts : ∀ part ∈ parts, Path.IsName part)
        (hall : front ++ parts = Path.names target ++ rest) :
        parts.length + 1 ≤ (links + 1) * (tree.height + 1) := by
      rw [Nat.succ_mul, ← Nat.add_assoc]
      exact Nat.succ_le_succ ((ih hparts hall).trans (Nat.add_le_add_left (room_le ..) _))
    rcases List.append_eq_cons_iff.mp hall with ⟨rfl, rfl⟩ | ⟨front, rfl, rfl⟩
    · exact Nat.le_add_right_of_le (hafter (List.forall_mem_cons.mp hparts).2 rfl)
    · exact Nat.le_add_right_of_le (Nat.le_of_succ_le (hafter hparts (List.append_assoc ..)))

/-! ### Nested packages -/

/-- Fewer names than a bound lead from a directory to a package below it. -/
def Nests (tree : FileTree) (bound : Nat) (directory : String) : Prop :=
  ∀ parts : List String, (∀ part ∈ parts, Path.IsName part) →
    (parts ≠ [] → tree.hasFile (Path.join (Path.descend directory parts) initFile) = true) →
    parts.length < bound

theorem Nests.pos (h : tree.Nests bound directory) : 0 < bound :=
  h [] (List.forall_mem_nil _) fun hne => absurd rfl hne

/-- Below a nested package there is one level less. -/
theorem Nests.inside (h : tree.Nests (bound + 1) directory) (hname : Path.IsName name)
    (hfile : tree.hasFile (Path.join (Path.join directory name) initFile) = true) :
    tree.Nests bound (Path.join directory name) := by
  intro parts hparts hpackage
  refine Nat.lt_of_succ_lt_succ (h (name :: parts) (List.forall_mem_cons.mpr ⟨hname, hparts⟩) ?_)
  intro _
  by_cases hnil : parts = []
  · subst hnil
    exact hfile
  · exact hpackage hnil

theorem isName_initFile : Path.IsName initFile := by decide

/-- Packages are nested no deeper than the links that may be followed and the height of the tree
allow, however long paths may be. -/
theorem nests_of_links (tree : FileTree) (directory : String) :
    tree.Nests ((linkLimit + 1) * (tree.height + 1)) directory := by
  intro parts hparts hpackage
  by_cases hnil : parts = []
  · subst hnil
    exact Nat.mul_pos (Nat.succ_pos _) (Nat.succ_pos _)
  · obtain ⟨place, content, hlookup⟩ := hasFile_iff.mp (hpackage hnil)
    have hleads := (lookup_eq_ok_iff.mp hlookup).2
    rw [Path.names_join _ isName_initFile.isAbsolute_eq_false, Path.names_descend hparts,
      isName_initFile.names_eq] at hleads
    obtain ⟨inner, left, henters, -⟩ := (leads_append_iff (List.cons_ne_nil _ _)).mp hleads
    rw [Nat.succ_mul]
    exact (henters.length_le hparts).trans_lt
      (Nat.add_lt_add_left (Nat.lt_succ_of_le (room_le ..)) _)

/-- Packages are nested no deeper than paths are long. -/
theorem nests_of_pathLimit (tree : FileTree) (directory : String) :
    tree.Nests pathLimit directory := by
  intro parts hparts hpackage
  by_cases hnil : parts = []
  · subst hnil
    decide
  · obtain ⟨place, content, hlookup⟩ := hasFile_iff.mp (hpackage hnil)
    have hshort := (lookup_eq_ok_iff.mp hlookup).1.short
    have hdescend := Path.length_le_size_descend directory hparts
    have hjoin := Path.size_le_size_join (Path.descend directory parts)
      isName_initFile.isAbsolute_eq_false
    omega

end FileTree

end DocStubs
