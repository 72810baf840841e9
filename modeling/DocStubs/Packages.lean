import DocStubs.Error
import DocStubs.Files.Walk
import DocStubs.Descriptor

/-!
# Packages in a file tree

A package is a directory with a file `__init__.py`; a module is a file with the extension `.py`,
or a compiled module, whose names may be listed in a file with the extension `.pyi` beside it.

What was found once is remembered: the locations of names, and the packages whose `__init__.py`
was read.

## Main definitions

* `Location` — what a name stands for in a file tree
* `FileTree.importables` — what can be imported from a directory
* `Packages` — search paths and what is remembered
* `Packages.locate`, `Packages.children`, `Packages.load` — finding, listing and loading
-/

namespace DocStubs

/-- What a name stands for in a file tree. -/
inductive Location where
  | package (directory : String)
  | source (path : String)
  | compiled (path : String)
  deriving DecidableEq, Repr, Inhabited

namespace Location

/-- Whether a package is there. -/
def isPackage : Location → Bool
  | package _ => true
  | _ => false

/-- Whether a compiled module is there. -/
def isCompiled : Location → Bool
  | compiled _ => true
  | _ => false

end Location

/-- A module or package directly inside a package. -/
structure Child where
  name : String
  isPackage : Bool
  deriving DecidableEq, Repr, Inhabited

/-! ### Directories -/

/-- The file that makes a directory a package. -/
def initFile : String := "__init__.py"

/-- The endings of compiled modules. -/
def compiledEndings : List String := [".so", ".pyd"]

/-- A text without a given end. -/
def withoutEnd? (ending text : String) : Option String :=
  if ending.toList.isSuffixOf text.toList then
    some (String.ofList (text.toList.take (text.length - ending.length)))
  else none

/-- What a file with a given name is as a module. -/
def moduleFile? (name path : String) : Option (String × Location) :=
  match withoutEnd? ".py" name with
  | some stem => if stem = "__init__" then none else some (stem, .source path)
  | none =>
    if compiledEndings.any fun ending => (withoutEnd? ending name).isSome then
      some (Name.root name, .compiled path)
    else none

namespace FileTree

/-- What an entry of a directory is as a module or package. -/
def importable? (tree : FileTree) (entry : Entry) : Option (String × Location) :=
  if entry.node.isDirectory then
    if tree.hasFile (Path.join entry.path initFile) then some (entry.name, .package entry.path)
    else none
  else moduleFile? entry.name entry.path

/-- The first item for each name. -/
def firstOfEach : List (String × Location) → List (String × Location)
  | [] => []
  | item :: rest => item :: (firstOfEach rest).filter (·.1 ≠ item.1)

/-- What can be imported from a directory, in the order of the entries. -/
def importables (tree : FileTree) (directory : String) :
    Except WalkFault (List (String × Location)) :=
  (tree.scan directory).map fun entries =>
    firstOfEach ((entries.filterMap tree.importable?).filter fun found => isIdentifier found.1)

/-- What a name stands for directly inside a directory. Packages and sources are looked for
under the name as it is, compiled modules among what can be imported. -/
def find? (tree : FileTree) (directory name : String) : Option Location :=
  let package := Path.join directory name
  let source := Path.join directory (name ++ ".py")
  if tree.hasFile (Path.join package initFile) then some (.package package)
  else if tree.hasFile source then some (.source source)
  else
    match tree.importables directory with
    | .ok found => (found.find? fun item => item.1 = name && item.2.isCompiled).map (·.2)
    | .error _ => none

/-- The outline and the text of the module in a file. -/
def outline (tree : FileTree) (path name : String) :
    Except ImportFault (Code.Outline × String) :=
  match tree.readText path with
  | .error fault => .error (.unreadable path fault)
  | .ok text =>
    match Code.Outline.read path name (Path.stem path = "__init__") text with
    | .ok outline => .ok (outline, text)
    | .error fault => .error (.malformed path fault)

end FileTree

/-! ### Packages -/

/-- The directories that hold outermost packages, and what is remembered of earlier questions. -/
structure Packages where
  searchPaths : List String
  located : List (String × Location) := []
  /-- The packages whose `__init__.py` was read. -/
  opened : List String := []
  deriving DecidableEq, Repr, Inhabited

/-- Questions to packages in a file tree. What was remembered before a failure stays
remembered. -/
abbrev PackageQuery := ReaderT FileTree (ExceptT Error (StateM Packages))

namespace Packages

/-- What the file tree answers. -/
def ask {α : Type} (question : FileTree → α) : PackageQuery α := return question (← read)

/-- Fails to import a name. -/
def refuse {α : Type} (name : String) (fault : ImportFault) : PackageQuery α :=
  throw (.cannotImport name fault)

/-- Remembers the location of a name. -/
def remember (name : String) (location : Location) : PackageQuery Unit :=
  modify fun packages =>
    { packages with located := (name, location) :: packages.located.filter (·.1 ≠ name) }

/-- The remembered location of a name. -/
def remembered? (name : String) : PackageQuery (Option Location) :=
  return ((← get).located.find? (·.1 = name)).map (·.2)

/-- Finds a name, given by its segments from the last one to the first one. The package that
holds it is found first. -/
def locateSegments : List String → PackageQuery Location
  | [] => refuse "" (.missing "")
  | leaf :: outer => do
    let name := Name.ofSegments (leaf :: outer).reverse
    match ← remembered? name with
    | some location => return location
    | none =>
      let found ←
        if outer.isEmpty then do
          let paths := (← get).searchPaths
          ask fun tree => paths.findSome? (tree.find? · leaf)
        else
          match ← locateSegments outer with
          | .package directory => ask (·.find? directory leaf)
          | _ => refuse name (.parentNotPackage (Name.ofSegments outer.reverse))
      match found with
      | some location =>
        remember name location
        return location
      | none => refuse name (.missing name)

/-- Finds a name. -/
def locate (name : String) : PackageQuery Location :=
  locateSegments (Name.segments name).reverse

/-- The outline and the text of a module. -/
def outline (path name : String) : PackageQuery (Code.Outline × String) := do
  match ← ask (·.outline path name) with
  | .ok found => return found
  | .error fault => refuse name fault

/-- Reads the `__init__.py` of a package, once. -/
def enter (package directory : String) : PackageQuery Unit := do
  unless (← get).opened.contains package do
    discard (outline (Path.join directory initFile) package)
    modify fun packages => { packages with opened := package :: packages.opened }

/-- Lists what is directly inside a package. -/
def children (package : String) : PackageQuery (List Child) := do
  match ← locate package with
  | .package directory =>
    enter package directory
    match ← ask (·.importables directory) with
    | .error fault => refuse package (.unlisted fault)
    | .ok found =>
      found.mapM fun (leaf, location) => do
        let name := Name.child package leaf
        remember name location
        return { name, isPackage := location.isPackage }
  | _ => refuse package (.notPackage package)

/-- Loads a module. A compiled module has no text, and what declares its symbols is not known. -/
def load (name : String) : PackageQuery Loaded := do
  match ← locate name with
  | .source path =>
    let (outline, text) ← outline path name
    return { name, symbols := outline.symbols, source := some text }
  | .package _ => refuse name (.notModule name)
  | .compiled path =>
    let stub := Path.withFileName path (Name.leaf name ++ ".pyi")
    if ← ask (·.hasFile stub) then
      let (outline, _) ← outline stub name
      let symbols := outline.symbols.map fun symbol => { symbol with declaredIn := none }
      return { name, symbols }
    else return { name }

end Packages

end DocStubs
