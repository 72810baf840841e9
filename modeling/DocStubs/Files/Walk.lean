import DocStubs.Files.Disk

/-!
# Walking directories

Directories are walked in the order of the names in them, and links are followed. A link that
leads nowhere ends the walk, and so does a link that leads back to a directory that is being
walked.

## Main definitions

* `Entry` — what a walk meets
* `FileTree.entryAt` — an entry of a walk, seen through a link
* `FileTree.scan` — the entries of one directory
* `Disk.copyTree` — a copy of everything below a directory
-/

namespace DocStubs

/-- What a walk meets: a name in a directory and what is there, with links followed. -/
structure Entry where
  name : String
  path : String
  node : Node
  deriving DecidableEq, Inhabited

/-- A directory that is being walked: its place, and the path on which it was reached. -/
structure Ancestor where
  place : Place
  path : String
  deriving DecidableEq, Repr, Inhabited

namespace FileTree

/-- A failure that tells the path. -/
def orFault {α : Type} (path : String) : Except FileFault α → Except WalkFault α
  | .ok value => .ok value
  | .error fault => .error (.file path fault)

/-- What a link leads to, unless that is a directory being walked. The innermost directories come
first in `ancestors`. -/
def through (tree : FileTree) (ancestors : List Ancestor) (path : String) :
    Except WalkFault Node :=
  match orFault path (tree.reached .reach path) with
  | .error fault => .error fault
  | .ok (place, node) =>
    match node.isDirectory, ancestors.find? (·.place = place) with
    | true, some ancestor => .error (.loop path ancestor.path)
    | _, _ => .ok node

/-- An entry of a walk. -/
def entryAt (tree : FileTree) (ancestors : List Ancestor) (name path : String) (node : Node) :
    Except WalkFault Entry :=
  if node.isLink then (tree.through ancestors path).map ({ name, path, node := · })
  else .ok { name, path, node }

/-- The directory that a walk starts in, if the path leads to a directory. -/
def start? (tree : FileTree) (path : String) : Except WalkFault (Option Ancestor) :=
  match orFault path (tree.reached .inspect path) with
  | .error fault => .error fault
  | .ok _ =>
    match orFault path (tree.reached .reach path) with
    | .error fault => .error fault
    | .ok (place, node) => .ok (if node.isDirectory then some { place, path } else none)

/-- The entries of one directory, in the order of their names. -/
def scan (tree : FileTree) (path : String) : Except WalkFault (List Entry) := do
  match ← tree.start? path with
  | none => return []
  | some top =>
    (tree.namesIn top.place).mapM fun name =>
      tree.entryAt [top] name (Path.join path name)
        ((tree.node? (top.place ++ [name])).getD .special)

end FileTree

namespace Disk

/-- Where the copy of an entry goes. -/
def copyTarget (target : String) (names : List String) : String :=
  Path.join target ("/".intercalate names)

/-- Copies an entry and what is below it. The names in a directory are taken down before its copy
is made. -/
def copyEntry (target : String) :
    Nat → List Ancestor → List String → String → Node → Disk (FileFault ⊕ WalkFault) Unit
  | 0, _, _, path, _ => throw (.inr (.file path .nameTooLong))
  | depth + 1, ancestors, names, path, node => do
    let entry ← onFault .inr (ask? (·.entryAt ancestors "" path node))
    match entry.node with
    | .directory =>
      let (place, _) ←
        onFault .inr (ask? fun tree => FileTree.orFault path (tree.reached .reach path))
      let inside ← ask (·.namesIn place)
      let nodes ← ask fun tree =>
        inside.map fun name => (name, (tree.node? (place ++ [name])).getD .special)
      onFault .inl (makeDirectories (copyTarget target names))
      nodes.forM fun (name, node) =>
        copyEntry target depth ({ place, path } :: ancestors) (names ++ [name])
          (Path.join path name) node
    | .file _ => onFault .inl (copy path (copyTarget target names))
    | _ => return ()

/-- Copies everything below a directory. The paths of a walk grow with every level, so their limit
bounds its depth. -/
def copyTree (source target : String) : Disk (FileFault ⊕ WalkFault) Unit := do
  let (_, node) ←
    onFault .inr (ask? fun tree => FileTree.orFault source (tree.reached .inspect source))
  copyEntry target pathLimit [] [] source node

end Disk

end DocStubs
