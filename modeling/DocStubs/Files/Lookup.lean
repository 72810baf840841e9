import DocStubs.Files.Tree

/-!
# Following paths

A path leads from name to name, through links on the way. What happens at its last name depends
on what the path is looked up for. A slash after the last name asks for a directory.

A lookup follows a limited number of links, so it ends also where links lead in circles.

## Main definitions

* `Purpose` — what a path is looked up for
* `Found` — where a path leads
* `FileTree.follow` — follows names from a place
* `FileTree.lookup` — follows a path
* `FileTree.sameFile` — whether two paths lead to the same place
-/

namespace DocStubs

/-- What a path is looked up for. -/
inductive Purpose where
  /-- What the last name stands for, even if that is a link. -/
  | inspect
  /-- What the path leads to. -/
  | reach
  /-- A file that is to be written. -/
  | write
  /-- A directory that is to be made. -/
  | make
  deriving DecidableEq, Repr, Inhabited

/-- Where a path leads. -/
inductive Found where
  | node (place : Place) (node : Node)
  /-- To a name that the directory does not hold. -/
  | missing (directory : Place) (name : String)
  deriving DecidableEq, Inhabited

/-- The longest name of a file, in bytes. -/
def nameLimit : Nat := 255

/-- Paths are shorter than this, in bytes. -/
def pathLimit : Nat := 4096

/-- How many links are followed for one path. -/
def linkLimit : Nat := 40

namespace FileTree

/-- Whether a link at the end of a path is followed. -/
def followsLast (purpose : Purpose) (slash : Bool) : Bool :=
  match purpose with
  | .inspect => slash
  | .reach | .write => true
  | .make => false

/-- What a path leads to that ends at a node. -/
def finish (purpose : Purpose) (slash : Bool) (place : Place) (node : Node) :
    Except FileFault Found :=
  if slash && !node.isDirectory && purpose ≠ .make then .error .notDirectory
  else .ok (.node place node)

/-- Follows names from a directory; `onLink` goes on from a link with the names after it. -/
def step (tree : FileTree) (purpose : Purpose) (slash : Bool)
    (onLink : Place → String → List String → Except FileFault Found) :
    Place → List String → Except FileFault Found
  | here, [] => .ok (.node here .directory)
  | here, name :: rest =>
    if name = "." then step tree purpose slash onLink here rest
    else if name = ".." then step tree purpose slash onLink here.dropLast rest
    else if rest.isEmpty && slash && purpose = .write then .error .isDirectory
    else if nameLimit < name.utf8ByteSize then .error .nameTooLong
    else
      let place := here ++ [name]
      match tree.node? place with
      | none => if rest.isEmpty then .ok (.missing here name) else .error .notFound
      | some .directory => step tree purpose slash onLink place rest
      | some (.link target) =>
        if rest.isEmpty && !followsLast purpose slash then .ok (.node place (.link target))
        else onLink here target rest
      | some node =>
        if rest.isEmpty then finish purpose slash place node else .error .notDirectory

/-- Follows names from a directory, with a limited number of links. -/
def follow (tree : FileTree) (purpose : Purpose) :
    Nat → Bool → Place → List String → Except FileFault Found
  | 0, slash => tree.step purpose slash fun _ _ _ => .error .tooManyLinks
  | links + 1, slash =>
    tree.step purpose slash fun here target rest =>
      if target.isEmpty then .error .notFound
      else
        let start := if Path.isAbsolute target then [] else here
        let slash := slash || (rest.isEmpty && Path.endsInSlash target)
        follow tree purpose links slash start (Path.names target ++ rest)

/-- Follows a path. -/
def lookup (tree : FileTree) (purpose : Purpose) (path : String) : Except FileFault Found :=
  if path.toList.contains '\x00' then .error .badPath
  else if path.isEmpty then .error .notFound
  else if pathLimit ≤ path.utf8ByteSize then .error .nameTooLong
  else
    let start := if Path.isAbsolute path then [] else tree.workingPlace
    tree.follow purpose linkLimit (Path.endsInSlash path) start (Path.names path)

/-! ### What is at a path -/

/-- The place and the node that a path leads to. -/
def reached (tree : FileTree) (purpose : Purpose) (path : String) :
    Except FileFault (Place × Node) :=
  match tree.lookup purpose path with
  | .ok (.node place node) => .ok (place, node)
  | .ok (.missing ..) => .error .notFound
  | .error fault => .error fault

/-- The node that a path leads to. -/
def nodeAt (tree : FileTree) (path : String) : Except FileFault Node :=
  (tree.reached .reach path).map (·.2)

/-- Whether a path leads to anything. -/
def hasPath (tree : FileTree) (path : String) : Bool := (tree.nodeAt path).isOk

/-- Whether a path leads to a regular file. -/
def hasFile (tree : FileTree) (path : String) : Bool := (tree.nodeAt path).toOption.any Node.isFile

/-- Whether a path leads to a directory. -/
def hasDirectory (tree : FileTree) (path : String) : Bool :=
  (tree.nodeAt path).toOption.any Node.isDirectory

/-- Whether a path leads to what is at a place. -/
def denotes (tree : FileTree) (path : String) (place : Place) : Bool :=
  match tree.reached .reach path with
  | .ok (other, _) => decide (other = place)
  | .error _ => false

/-- Whether two paths lead to the same place. -/
def sameFile (tree : FileTree) (path other : String) : Bool :=
  match tree.reached .reach path with
  | .ok (place, _) => tree.denotes other place
  | .error _ => false

/-! ### Reading -/

/-- The content of the file that a path leads to. -/
def read (tree : FileTree) (path : String) : Except FileFault ByteArray :=
  match tree.nodeAt path with
  | .ok (.file content) => .ok content
  | .ok .directory => .error .isDirectory
  | .ok _ => .error .noDevice
  | .error fault => .error fault

/-- The text of the file that a path leads to. -/
def readText (tree : FileTree) (path : String) : Except FileFault String :=
  match tree.read path with
  | .ok content =>
    match String.fromUTF8? content with
    | some text => .ok text
    | none => .error .notText
  | .error fault => .error fault

end FileTree

end DocStubs
