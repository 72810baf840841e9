import DocStubs.Config
import DocStubs.Packages
import DocStubs.Pattern.Search
import DocStubs.Registry

/-!
# Sources of symbols

Modules and their symbols come from packages in a file tree or from a registry. All else sees only
that a source can list what is inside a package and load a module.

## Main definitions

* `Source`, `SourceQuery` — sources and questions to them
* `Source.children`, `Source.load` — what a source can do
* `Source.leaves` — the modules below a package
* `Source.analyze` — the descriptors of the modules below a package
* `Source.ofConfig`, `Source.analysis` — the source and the analysis that a configuration asks for
-/

namespace DocStubs

/-- Where modules and their symbols come from. -/
inductive Source where
  | ofPackages (packages : Packages)
  | ofRegistry (registry : Registry)
  deriving DecidableEq, Repr, Inhabited

/-- Questions to a source, which may look into a file tree. -/
abbrev SourceQuery := ReaderT FileTree (ExceptT Error (StateM Source))

namespace Source

/-- Fails to import a name. -/
def refuse {α : Type} (name : String) (fault : ImportFault) : SourceQuery α :=
  throw (.cannotImport name fault)

/-- Puts a question to packages, and keeps what they remember. -/
def askPackages {α : Type} (packages : Packages) (query : PackageQuery α) : SourceQuery α :=
  fun tree => do
    let (answer, packages) := (query tree).run packages
    set (Source.ofPackages packages)
    match answer with
    | .ok value => return value
    | .error error => throw error

/-- The module that a registry holds under a name. -/
def registered (registry : Registry) (name : String) : SourceQuery Registered :=
  match registry.get? name with
  | some module => return module
  | none => refuse name (.missing name)

/-- Lists what is directly inside a package. -/
def children (package : String) : SourceQuery (List Child) := do
  match ← get with
  | .ofPackages packages => askPackages packages (Packages.children package)
  | .ofRegistry registry =>
    if (← registered registry package).isPackage then
      return (registry.childrenOf package).map fun (name, module) =>
        { name, isPackage := module.isPackage }
    else refuse package (.notPackage package)

/-- Loads a module. -/
def load (name : String) : SourceQuery Loaded := do
  match ← get with
  | .ofPackages packages => askPackages packages (Packages.load name)
  | .ofRegistry registry =>
    let module ← registered registry name
    return { name, symbols := module.symbols, source := module.source }

/-! ### Walking -/

/-- How deep packages can be nested: the path of a nested package is longer than that of the
package around it, and a registry holds a name once. -/
def depth : Source → Nat
  | ofPackages _ => pathLimit
  | ofRegistry registry => registry.entries.length + 1

/-- The modules below a package, up to a depth of nesting, in the order in which they are listed.
Packages are walked whatever their names are; modules are left out if their names are excluded. -/
def leavesTo (isExcluded : String → Bool) : Nat → String → SourceQuery (List String)
  | 0, _ => return []
  | depth + 1, package => do
    let found ← (← children package).mapM fun child =>
      if child.isPackage then leavesTo isExcluded depth child.name
      else return if isExcluded child.name then [] else [child.name]
    return found.flatten

/-- The modules below a package. -/
def leaves (isExcluded : String → Bool) (package : String) : SourceQuery (List String) := do
  leavesTo isExcluded (← get).depth package

/-! ### Analysis -/

/-- The names that an optional pattern excludes. -/
def exclusion (pattern : Option String) : Except Error (String → Bool) :=
  match pattern with
  | none => .ok fun _ => false
  | some text =>
    match Pattern.parse? text with
    | some pattern => .ok pattern.occursIn
    | none => .error .pattern

/-- The descriptor of a module. -/
def describe (order : MemberOrder) (name : String) : SourceQuery Descriptor :=
  return Descriptor.ofLoaded order (← load name)

/-- The descriptors of the modules below a package. -/
def analyze (isExcluded : String → Bool) (order : MemberOrder) (package : String) :
    SourceQuery Analysis := do
  let names ← leaves isExcluded package
  return { package, modules := ← names.mapM (describe order) }

/-- The analysis that a configuration asks for. -/
def analyzeWith (config : Config) (package : String) : SourceQuery Analysis := do
  match exclusion config.discovery.exclude with
  | .ok isExcluded => analyze isExcluded config.generation.memberOrder package
  | .error error => throw error

/-! ### Opening -/

/-- The registry in a manifest file. -/
def readManifest (tree : FileTree) (path : String) : Except Error Registry :=
  match tree.readText path with
  | .error fault => .error (.file fault)
  | .ok text =>
    match Registry.ofManifest? text with
    | some registry => .ok registry
    | none => .error .manifestFormat

/-- The source that a configuration asks for. -/
def ofConfig (tree : FileTree) (config : Config) : Except Error Source :=
  match config.discovery.manifest with
  | some path => (readManifest tree path).map ofRegistry
  | none => .ok (ofPackages { searchPaths := config.discovery.searchPaths })

/-- Opens the source that a configuration asks for and analyses a package. -/
def analysis (tree : FileTree) (config : Config) (package : String) : Except Error Analysis := do
  let source ← ofConfig tree config
  ((analyzeWith config package tree).run source).1

end Source

end DocStubs
