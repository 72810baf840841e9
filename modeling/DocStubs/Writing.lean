import DocStubs.Error
import DocStubs.Files.Walk

/-!
# Writing pages

A page is written to a path where nothing is, or what is there is backed up first. Backups are
numbered, and a backup never replaces anything.

## Main definitions

* `Policy`, `Artifact` — a page that is to be written
* `Disk.backup` — a copy of a file or directory under the next free number
* `Disk.writeArtifact` — writes a page
* `FileTree.hasHandWritten` — whether there are hand-written pages
-/

namespace DocStubs

/-- What happens to something that is in the way of a page. -/
inductive Policy where
  /-- It stays, and the page is not written. -/
  | reject
  /-- It is backed up and replaced. -/
  | backup
  deriving DecidableEq, Repr, Inhabited

/-- A page that is to be written. -/
structure Artifact where
  path : String
  content : String
  policy : Policy
  deriving DecidableEq, Repr, Inhabited

/-- The path of a numbered backup. -/
def backupPath (mark path : String) (number : Nat) : String := path ++ mark ++ toString number

namespace FileTree

/-- The first number at which nothing is. Every number leads to another name, and there are not
more names than entries, so one of the numbers up to that of the entries is free. -/
def freeNumber (tree : FileTree) (mark path : String) : Nat :=
  ((List.range tree.entries.length).find? fun number =>
    !tree.hasPath (backupPath mark path number)).getD tree.entries.length

/-- Whether there are hand-written pages in a directory. If the directory is there, an index has
to be in it. -/
def hasHandWritten (tree : FileTree) (directory index : String) : Except Error Bool :=
  let path := Path.join directory index
  if !tree.hasPath directory then .ok false
  else if tree.hasFile path then .ok true
  else .error (.handWrittenIndex directory path)

end FileTree

namespace Disk

/-- The error that a failed copy of a directory is. -/
def copyError : FileFault ⊕ WalkFault → Error
  | .inl fault => .file fault
  | .inr fault => .walk fault

/-- Makes a directory and those before it. -/
def ensureDirectory (path : String) : Disk Error Unit := onFault .file (makeDirectories path)

/-- Copies a file or directory to the next free number and returns the path of the copy. -/
def backup (mark path : String) : Disk Error String := do
  let tree ← get
  let target := backupPath mark path (tree.freeNumber mark path)
  if tree.hasFile path then
    onFault .file (copy path target)
    return target
  else if tree.hasDirectory path then
    onFault copyError (copyTree path target)
    return target
  else throw (.backupSource path)

/-- Writes a page and returns the path of the backup that was made for it. -/
def writeArtifact (mark : String) (artifact : Artifact) : Disk Error (Option String) := do
  let copied ←
    if ← ask (·.hasPath artifact.path) then
      match artifact.policy with
      | .reject => throw (.collision artifact.path)
      | .backup => some <$> backup mark artifact.path
    else pure none
  onFault .file (write artifact.path artifact.content.toUTF8)
  return copied

end Disk

end DocStubs
