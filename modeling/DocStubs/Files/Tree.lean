import DocStubs.Files.Fault
import DocStubs.Files.Path

/-!
# File trees

A file tree is a table from places to what is there. A place is the list of names that lead to it
from the root, so every place has one form only; paths, with their dots and links, are another
matter. The root itself is always a directory.

## Main definitions

* `Place`, `Node`, `FileTree` — places, what can be at a place, and file trees
* `FileTree.node?`, `FileTree.put`, `FileTree.remove` — the table
* `FileTree.namesIn` — what a directory holds
-/

namespace DocStubs

/-- The names that lead to a place from the root. -/
abbrev Place := List String

/-- Contents are compared byte by byte. -/
instance decidableEqContent : DecidableEq ByteArray := ByteArray.instDecidableEq

/-- What can be at a place. -/
inductive Node where
  | file (content : ByteArray)
  | directory
  /-- A symbolic link, with the path it stands for. -/
  | link (target : String)
  /-- Something that is neither a file nor a directory. -/
  | special
  deriving DecidableEq, Inhabited

namespace Node

/-- Whether a regular file is there. -/
def isFile : Node → Bool
  | file _ => true
  | _ => false

/-- Whether a directory is there. -/
def isDirectory : Node → Bool
  | directory => true
  | _ => false

/-- Whether a link is there. -/
def isLink : Node → Bool
  | link _ => true
  | _ => false

end Node

/-- What is at each place, and the place where relative paths start. -/
structure FileTree where
  entries : List (Place × Node) := []
  workingPlace : Place := []
  deriving DecidableEq, Inhabited

namespace FileTree

/-- What is at a place. -/
def node? (tree : FileTree) (place : Place) : Option Node :=
  if place.isEmpty then some .directory
  else (tree.entries.find? (·.1 = place)).map (·.2)

/-- Puts a node into a table, in the place of an earlier one. -/
def putInto (place : Place) (node : Node) : List (Place × Node) → List (Place × Node)
  | [] => [(place, node)]
  | (other, old) :: rest =>
    if other = place then (place, node) :: rest else (other, old) :: putInto place node rest

/-- Puts a node at a place. -/
def put (tree : FileTree) (place : Place) (node : Node) : FileTree :=
  { tree with entries := putInto place node tree.entries }

/-- Removes what is at a place and below it. -/
def remove (tree : FileTree) (place : Place) : FileTree :=
  { tree with entries := tree.entries.filter fun (other, _) => !place.isPrefixOf other }

/-- The name of a place in a directory, if it is directly there. -/
def nameIn? (directory : Place) (place : Place) : Option String :=
  if place.dropLast = directory then place.getLast? else none

/-- The names in a directory, in order. -/
def namesIn (tree : FileTree) (directory : Place) : List String :=
  (tree.entries.filterMap fun (place, _) => nameIn? directory place).mergeSort fun a b => a ≤ b

end FileTree

end DocStubs
