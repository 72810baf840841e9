import DocStubs.Program

/-!
# The command line program

Takes down the part of the disk that a run looks at, runs the program on that file tree, and
carries out the changes. What is decided is decided in `Program`; here is only what touches the
disk.

## Main definitions

* `Survey` — what is taken down of the disk
* `carryOut` — makes the disk equal to a file tree
* `main` — a run
-/

namespace DocStubs

/-- What is taken down of the disk, and the places below which everything is. -/
structure Survey where
  tree : FileTree
  complete : List Place := []

/-- Actions that take down parts of the disk. -/
abbrev Surveying := StateT Survey IO

namespace Survey

/-- The path of a place. -/
def pathOf (place : Place) : String := "/" ++ "/".intercalate place

/-- Takes down a node. -/
def note (place : Place) (node : Node) : Surveying Unit :=
  modify fun survey => { survey with tree := survey.tree.put place node }

/-- Takes down the directories that lead to a place. -/
def noteAbove (place : Place) : Surveying Unit :=
  place.length.forM fun count _ => do
    let above := place.take count
    if ((← get).tree.node? above).isNone then note above .directory

/-- Takes down what is at a place and below it, once, with directories up to a depth of nesting and
what links lead to. -/
def takeDown : Nat → Place → Surveying Unit
  | 0, _ => return ()
  | depth + 1, place => do
    unless (← get).complete.contains place do
      modify fun survey => { survey with complete := place :: survey.complete }
      let path ← IO.FS.realPath (pathOf place)
      noteAbove place
      match (← path.metadata).type with
      | .dir =>
        unless place.isEmpty do note place .directory
        for entry in ← path.readDir do
          let inner := place ++ [entry.fileName]
          match (← entry.path.symlinkMetadata).type with
          | .symlink =>
            match ← (IO.FS.realPath entry.path).toBaseIO with
            | .ok target =>
              note inner (.link target.toString)
              takeDown depth (Path.names target.toString)
            | .error _ => note inner (.link "")
          | _ => takeDown depth inner
      | .file => note place (.file (← IO.FS.readBinFile path))
      | _ => note place .special

/-- Takes down what a path leads to. -/
def along (path : String) : Surveying Unit := do
  let full := Path.join (pathOf (← get).tree.workingPlace) path
  match ← (IO.FS.realPath full).toBaseIO with
  | .error _ => return ()
  | .ok real =>
    let names := Path.names full
    let place := Path.names real.toString
    if names ≠ place && !names.contains "." && !names.contains ".." then
      noteAbove names
      note names (.link real.toString)
    takeDown pathLimit place

/-- Takes down what a run looks at: first its configuration file, then what that leads to. -/
def ofRun (words : List String) : IO FileTree := do
  let here := Path.names (← IO.currentDir).toString
  let look : Surveying Unit := do
    noteAbove (here ++ [""])
    (Program.paths (← get).tree words).forM along
    (Program.paths (← get).tree words).forM along
  let (_, survey) ← look.run { tree := { workingPlace := here } }
  return survey.tree

end Survey

/-- Carries out the changes from one file tree to another one, which holds more directories and
other files. -/
def carryOut (before after : FileTree) : IO Unit :=
  after.entries.forM fun (place, node) => do
    if before.node? place ≠ some node then
      match node with
      | .directory => IO.FS.createDir (Survey.pathOf place)
      | .file content => IO.FS.writeBinFile (Survey.pathOf place) content
      | .link _ | .special => return ()

/-- Runs the program on the words of a command line and returns its exit code. -/
def perform (words : List String) : IO UInt32 := do
  let tree ← Survey.ofRun words
  let (ending, after) := Program.run tree words
  carryOut tree after
  IO.print ending.output
  match ending with
  | .usage fault => if fault ≠ .version then IO.eprintln fault.message
  | _ => ending.complaint?.forM fun complaint => IO.eprintln complaint
  return ending.code.toUInt32

end DocStubs

/-- Runs the program. -/
def main (words : List String) : IO UInt32 := DocStubs.perform words
