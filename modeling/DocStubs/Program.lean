import DocStubs.CommandLine
import DocStubs.Data.Toml
import DocStubs.Generate

/-!
# The program

Runs a command line on a file tree.

## Main definitions

* `Config.load`, `Config.loadOrDefault` — the configuration in a file
* `Analysis.listing`, `Analysis.toDatum` — an analysis as text and as data
* `Program.execute` — what a command line does and prints
* `Program.run` — a run of the program from its words to its exit code
* `Program.paths` — the paths that a run looks at
-/

namespace DocStubs

/-! ### Configuration files -/

namespace Config

/-- The file that is read if no other one is given. -/
def defaultFile : String := "autorst.toml"

/-- The configuration that a text stands for. -/
def ofText? (text : String) : Option Config :=
  (Toml.parse? text).bind (ofDatum? Toml.style)

/-- The configuration in a file, which has to be without faults. -/
def load (tree : FileTree) (path : String) : Except Error Config :=
  match tree.readText path with
  | .error fault => .error (.file fault)
  | .ok text =>
    match ofText? text with
    | some config => config.check.map fun () => config
    | none => .error .configFormat

/-- The configuration in a file, or the default one if there is no file. -/
def loadOrDefault (tree : FileTree) (path : String) : Except Error Config :=
  if tree.hasPath path then load tree path else .ok {}

end Config

/-! ### Analyses -/

/-- A descriptor as data. -/
def Descriptor.toDatum (module : Descriptor) : Datum :=
  .object
    [("dotted_name", .text module.name), ("root_name", .text module.root),
      ("basename", .text module.leaf), ("relative_name", .text module.relative),
      ("generated_stem", .text module.stem), ("member_names", .list (module.members.map .text)),
      ("has_leading_doc", .flag module.hasDoc)]

namespace Analysis

/-- An analysis as data. -/
def toDatum (analysis : Analysis) : Datum :=
  .object
    [("package", .text analysis.package),
      ("modules", .list (analysis.modules.map Descriptor.toDatum))]

/-- The lines about a module: its name, and its members below it. -/
def moduleLines (module : Descriptor) : List String :=
  (module.name ++ (if module.hasDoc then " (doc)" else "")) ::
    module.members.map ("    " ++ ·)

/-- An analysis as text. -/
def listing (analysis : Analysis) : String :=
  Page.unlines <|
    analysis.modules.flatMap moduleLines ++
      [toString analysis.modules.length ++ " modules in " ++ analysis.package]

end Analysis

/-! ### Commands -/

namespace Program

/-- The name and version of the program. -/
def versionLine : String := "autorst 0.1.0"

/-- The configuration of a command: the one in the file that is given, or the one in the default
file, with the arguments worked in. -/
def configure (tree : FileTree) (discovery : DiscoveryArguments) (given : Overrides) :
    Except Error Config := do
  let loaded ←
    match discovery.config with
    | some path => Config.load tree path
    | none => Config.loadOrDefault tree Config.defaultFile
  let config := loaded.override given
  config.check
  return config

/-- Does what a command line asks for and returns what is printed. -/
def execute (command : Command) : Disk Error String := do
  match command with
  | .generate discovery output =>
    let config ← Disk.ask? (configure · discovery (output.overrides discovery.overrides))
    let analysis ← Disk.ask? (Source.analysis · config discovery.package)
    let report ← Disk.generate config analysis
    return Page.unlines
      [report.summary, "Documentation stubs written to: " ++ config.output.source]
  | .inspect discovery json =>
    let config ← Disk.ask? (configure · discovery discovery.overrides)
    let analysis ← Disk.ask? (Source.analysis · config discovery.package)
    return if json then Json.pretty analysis.toDatum ++ "\n" else analysis.listing
  | .version => return versionLine ++ "\n"

/-- How a run of the program ends. -/
inductive Ending where
  /-- With the text that is printed. -/
  | success (text : String)
  | failure (error : Error)
  /-- The command line is refused, or only asks for information. -/
  | usage (fault : UsageFault)
  deriving DecidableEq, Repr, Inhabited

namespace Ending

/-- The exit code of a run. -/
def code : Ending → Nat
  | success _ => 0
  | failure _ => 1
  | usage .help | usage .version => 0
  | usage _ => 2

/-- The message about a failure. -/
def complaint? : Ending → Option String
  | failure error => some ("Error: " ++ error.message)
  | success _ | usage _ => none

/-- What a run prints. -/
def output : Ending → String
  | success text => text
  | usage .version => versionLine ++ "\n"
  | failure _ | usage _ => ""

end Ending

/-- Runs the program on a file tree. -/
def run (tree : FileTree) (words : List String) : Ending × FileTree :=
  match Arguments.parse words with
  | .error fault => (.usage fault, tree)
  | .ok arguments =>
    match (execute arguments.command).run.run tree with
    | (.ok text, tree) => (.success text, tree)
    | (.error error, tree) => (.failure error, tree)

/-! ### What a run looks at -/

/-- The paths that a run with a configuration looks at, below the one for pages also what is to be
written. -/
def configPaths (config : Config) : List String :=
  config.discovery.searchPaths ++ config.discovery.manifest.toList ++ [config.output.source]

/-- The paths that a command on a package looks at: its configuration file and, if that is known
already, what it leads to. -/
def discoveryPaths (tree : FileTree) (discovery : DiscoveryArguments) (given : Overrides) :
    List String :=
  discovery.config.getD Config.defaultFile ::
    match configure tree discovery given with
    | .ok config => configPaths config
    | .error _ => []

/-- The paths that a run looks at, as far as the file tree tells. -/
def paths (tree : FileTree) (words : List String) : List String :=
  match Arguments.parse words with
  | .ok { command := .generate discovery output, .. } =>
    discoveryPaths tree discovery (output.overrides discovery.overrides)
  | .ok { command := .inspect discovery _, .. } =>
    discoveryPaths tree discovery discovery.overrides
  | .ok { command := .version, .. } | .error _ => []

end Program

end DocStubs
