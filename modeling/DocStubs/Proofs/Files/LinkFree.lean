import DocStubs.Proofs.Files.Disk

/-!
# Trees without links

Without links, a path can lead to one place only, whatever is in the tree: each name on the way
goes one step down, two dots go one step up, and a single dot stays. Whether anything is at that
place is another matter. So in trees without links it can be told beforehand, from the paths
alone, which of them lead to the same file.

Actions make directories and files, and never links.

## Main definitions

* `FileTree.LinkFree` — trees without links
* `FileTree.placeOf` — the only place that a path can lead to in such a tree

## Main results

* `FileTree.LinkFree.evolves` — a tree stays without links
* `FileTree.LinkFree.place_eq` — where a path leads
-/

namespace DocStubs

namespace Path

/-- The place that names lead to from a place if there are no links. -/
def resolve : Place → List String → Place
  | here, [] => here
  | here, name :: rest =>
    if name = "." then resolve here rest
    else if name = ".." then resolve here.dropLast rest
    else resolve (here ++ [name]) rest

theorem resolve_append (here : Place) (names rest : List String) :
    resolve here (names ++ rest) = resolve (resolve here names) rest := by
  induction names generalizing here with
  | nil => rfl
  | cons name names ih =>
    rw [List.cons_append, resolve, resolve]
    split
    · exact ih here
    · split
      · exact ih here.dropLast
      · exact ih (here ++ [name])

/-- Names that are neither dots nor two dots go one step down each. -/
theorem resolve_eq_append (here : Place) {names : List String}
    (h : ∀ name ∈ names, name ≠ "." ∧ name ≠ "..") : resolve here names = here ++ names := by
  induction names generalizing here with
  | nil => rw [resolve, List.append_nil]
  | cons name rest ih =>
    obtain ⟨hdot, hdots⟩ := h name List.mem_cons_self
    rw [resolve, if_neg hdot, if_neg hdots,
      ih _ fun other hother => h other (List.mem_cons_of_mem _ hother), List.append_assoc,
      List.singleton_append]

end Path

namespace FileTree

variable {tree before after : FileTree} {purpose : Purpose} {path : String} {place : Place}
  {node : Node}

/-- There are no links in a tree. -/
def LinkFree (tree : FileTree) : Prop := ∀ entry ∈ tree.entries, entry.2.isLink = false

instance (tree : FileTree) : Decidable tree.LinkFree :=
  inferInstanceAs (Decidable (∀ entry ∈ tree.entries, entry.2.isLink = false))

theorem LinkFree.node?_ne (h : tree.LinkFree) (place : Place) (target : String) :
    tree.node? place ≠ some (.link target) := by
  intro hnode
  have hplace : place ≠ [] := by
    rintro rfl
    cases hnode
  have hlink : (Node.link target).isLink = false := h _ (mem_of_node? hnode hplace)
  cases hlink

theorem LinkFree.put (h : tree.LinkFree) (place : Place) (hnode : node.isLink = false) :
    (tree.put place node).LinkFree := by
  intro entry hentry
  rcases mem_putInto hentry with rfl | hentry
  · exact hnode
  · exact h entry hentry

/-- A tree stays without links while it changes. -/
theorem LinkFree.evolves (h : before.LinkFree) (hevolves : before.Evolves after) :
    after.LinkFree := by
  induction hevolves with
  | refl => exact h
  | tail _ hstep ih =>
    rcases hstep with ⟨_, directory, name, -, rfl⟩ | ⟨_, place, content, -, rfl⟩
    · exact ih.put _ rfl
    · exact ih.put _ rfl

/-- The place that a path leads to if there are no links. -/
def placeOf (tree : FileTree) (path : String) : Place :=
  Path.resolve (tree.origin path) (Path.names path)

theorem Grows.placeOf_eq (h : before.Grows after) (path : String) :
    after.placeOf path = before.placeOf path := by
  rw [placeOf, placeOf, h.origin_eq]

/-- Names lead to one place only if there are no links on the way, whether something is there or
not. -/
theorem LinkFree.place_eq_resolve (hfree : tree.LinkFree) {links : Nat} {slash : Bool}
    {here : Place} {names : List String} {found : Found}
    (h : Leads tree purpose links slash here names found) :
    found.place = Path.resolve here names := by
  have hname {here : Place} {name : String} (hdot : name ≠ ".") (hdots : name ≠ "..") :
      Path.resolve here [name] = here ++ [name] :=
    Path.resolve_eq_append here (by simpa using ⟨hdot, hdots⟩)
  induction h with
  | done => rfl
  | dot onward ih => exact ih
  | dots onward ih => exact ih
  | missing ordinary free => exact (hname ordinary.ne_dot ordinary.ne_dots).symm
  | directory ordinary there onward ih =>
    rw [Path.resolve, if_neg ordinary.ne_dot, if_neg ordinary.ne_dots]
    exact ih
  | link ordinary there stays => exact absurd there (hfree.node?_ne _ _)
  | through ordinary there follows target_ne onward ih =>
    exact absurd there (hfree.node?_ne _ _)
  | leaf ordinary there not_directory not_link finishes =>
    exact (hname ordinary.ne_dot ordinary.ne_dots).symm

theorem LinkFree.place_eq_placeOf (hfree : tree.LinkFree) {found : Found}
    (h : tree.lookup purpose path = .ok found) : found.place = tree.placeOf path :=
  hfree.place_eq_resolve (lookup_eq_ok_iff.mp h).2

theorem LinkFree.place_eq (hfree : tree.LinkFree)
    (h : tree.lookup purpose path = .ok (.node place node)) : place = tree.placeOf path :=
  hfree.place_eq_placeOf h

/-- A path can be written to one place only. -/
theorem LinkFree.destination_eq (hfree : tree.LinkFree) (h : tree.Destination path place) :
    place = tree.placeOf path := by
  rcases h with ⟨content, h⟩ | ⟨directory, name, h, rfl⟩
  · exact hfree.place_eq_placeOf h
  · exact hfree.place_eq_placeOf h

theorem LinkFree.leads_make {links left : Nat} {slash : Bool} {here : Place}
    {names : List String} (hfree : tree.LinkFree) (h : Enters tree links here names place left) :
    Leads tree .make links slash here names (.node place .directory) := by
  induction h with
  | done => exact .done
  | dot onward ih => exact .dot ih
  | dots onward ih => exact .dots ih
  | directory ordinary there onward ih => exact .directory (ordinary.change (by simp)) there ih
  | through ordinary there target_ne onward ih => exact absurd there (hfree.node?_ne _ _)

/-- A directory is also found where one is to be made. -/
theorem LinkFree.lookup_make (hfree : tree.LinkFree)
    (h : tree.lookup .reach path = .ok (.node place .directory)) :
    tree.lookup .make path = .ok (.node place .directory) := by
  obtain ⟨husable, hleads⟩ := lookup_eq_ok_iff.mp h
  obtain ⟨left, henters⟩ := hleads.enters
  exact lookup_eq_ok_iff.mpr ⟨husable, hfree.leads_make henters⟩

/-- The place of a path below a directory. -/
theorem placeOf_join (tree : FileTree) (directory : String) (h : Path.isAbsolute path = false) :
    tree.placeOf (Path.join directory path) =
      Path.resolve (tree.placeOf directory) (Path.names path) := by
  rw [placeOf, placeOf, origin_join tree directory h, Path.names_join directory h,
    Path.resolve_append]

/-- Where a path below a directory leads if it does not turn back. -/
theorem placeOf_join_of_names (tree : FileTree) (directory : String) {names : List String}
    (habs : Path.isAbsolute path = false) (hnames : Path.names path = names)
    (h : ∀ name ∈ names, name ≠ "." ∧ name ≠ "..") :
    tree.placeOf (Path.join directory path) = tree.placeOf directory ++ names := by
  rw [placeOf_join tree directory habs, hnames, Path.resolve_eq_append _ h]

end FileTree

end DocStubs
