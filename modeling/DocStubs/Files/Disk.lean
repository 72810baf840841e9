import DocStubs.Files.Lookup

/-!
# Changing files

A change is an action on a file tree that may fail. What was changed before a failure stays
changed.

## Main definitions

* `Disk` — actions on a file tree
* `Disk.write`, `Disk.makeDirectory`, `Disk.makeDirectories`, `Disk.copy` — changes
-/

namespace DocStubs

/-- Actions on a file tree that may fail. -/
abbrev Disk (ε : Type) := ExceptT ε (StateM FileTree)

namespace Disk

/-- What the file tree answers to a question. -/
def ask {ε α : Type} (question : FileTree → α) : Disk ε α := return question (← get)

/-- What the file tree answers to a question that may fail. -/
def ask? {ε α : Type} (question : FileTree → Except ε α) : Disk ε α := do
  match question (← get) with
  | .ok answer => return answer
  | .error fault => throw fault

/-- The same action with another view of its failures. -/
def onFault {ε ε' α : Type} (view : ε → ε') (action : Disk ε α) : Disk ε' α :=
  ExceptT.adapt view action

/-- Writes a file at a path, whether there is one already or not. -/
def write (path : String) (content : ByteArray) : Disk FileFault Unit := do
  match ← ask? (·.lookup .write path) with
  | .node place (.file _) => modify (·.put place (.file content))
  | .node _ .directory => throw .isDirectory
  | .node _ _ => throw .noDevice
  | .missing directory name => modify (·.put (directory ++ [name]) (.file content))

/-- Makes a directory at a path where nothing is yet. -/
def makeDirectory (path : String) : Disk FileFault Unit := do
  match ← ask? (·.lookup .make path) with
  | .node _ _ => throw .alreadyExists
  | .missing directory name => modify (·.put (directory ++ [name]) .directory)

/-- Makes a directory, or accepts the one that is there; returns whether a directory before it is
missing. -/
def tryDirectory (path : String) : Disk FileFault Bool :=
  tryCatch
    (do
      makeDirectory path
      return false)
    fun fault => do
      if fault = .notFound then return true
      else if ← ask (·.hasDirectory path) then return false
      else throw fault

/-- Makes a directory and those before it, where they are missing. Every round drops a name, so
the length of the path is fuel enough. -/
def makeDirectoriesFrom : Nat → String → Disk FileFault Unit
  | 0, _ => return ()
  | fuel + 1, path => do
    if path.isEmpty then return ()
    else if ← tryDirectory path then
      match Path.parent? path with
      | some parent =>
        makeDirectoriesFrom fuel parent
        if ← tryDirectory path then throw .notFound
      | none => throw .notFound

/-- Makes a directory and those before it, where they are missing. -/
def makeDirectories (path : String) : Disk FileFault Unit :=
  makeDirectoriesFrom (path.length + 1) path

/-- Copies a file. The target is emptied before anything is read, so a file that is copied to
itself is left empty. -/
def copy (source target : String) : Disk FileFault Unit := do
  let content ← ask? (·.read source)
  let isSame ← ask (·.sameFile source target)
  write target (if isSame then .empty else content)

end Disk

end DocStubs
