import DocStubs.Data.Datum
import DocStubs.Error
import DocStubs.Files.Path
import DocStubs.Member
import DocStubs.Pattern.Reader
import DocStubs.Text.Blank

/-!
# Configuration

What a run is told: where the package is, where the pages go, and which pages are made.

## Main definitions

* `Config` — a configuration, with its defaults
* `Overrides`, `Config.override` — values that replace those of a configuration
* `Config.check` — the first fault of a configuration
* `Config.ofDatum?`, `Config.toDatum` — a configuration as data
-/

namespace DocStubs

/-- Where the package is and which of its modules count. -/
structure Discovery where
  /-- The directories that hold outermost packages, in the order they are searched. -/
  searchPaths : List String := ["."]
  /-- A pattern for the names of modules that are left out. -/
  exclude : Option String := none
  /-- A manifest to be used instead of the search paths. -/
  manifest : Option String := none
  deriving DecidableEq, Repr, Inhabited

/-- Where the pages go. The paths of the three kinds of pages are below the output directory, and
they are also the links to these pages. -/
structure Output where
  source : String := "source"
  apipath : String := "generated/api"
  docpath : String := "generated/doc"
  writtenpath : String := "written"
  extension : String := "rst"
  /-- What stands between the path of a file and the number of its backup. -/
  backupMark : String := ".bak"
  deriving DecidableEq, Repr, Inhabited

/-- Which pages are made, and how. -/
structure Generation where
  writeApi : Bool := true
  writeDoc : Bool := false
  writeIndex : Bool := false
  /-- Whether pages that exist are backed up and replaced. -/
  overwrite : Bool := false
  memberOrder : MemberOrder := .alphabetical
  deriving DecidableEq, Repr, Inhabited

/-- A configuration. -/
structure Config where
  discovery : Discovery := {}
  output : Output := {}
  generation : Generation := {}
  deriving DecidableEq, Repr, Inhabited

/-- Values that replace those of a configuration, where they are given. -/
structure Overrides where
  searchPaths : List String := []
  manifest : Option String := none
  exclude : Option String := none
  source : Option String := none
  apipath : Option String := none
  docpath : Option String := none
  writtenpath : Option String := none
  writeIndex : Bool := false
  writeDoc : Bool := false
  noWriteApi : Bool := false
  overwrite : Bool := false
  memberOrder : Option MemberOrder := none
  deriving DecidableEq, Repr, Inhabited

namespace Config

/-- The configuration with the given values replaced. Flags are only ever set, but for the pages
that list members, which are only ever left out. -/
def override (config : Config) (given : Overrides) : Config :=
  { discovery :=
      { searchPaths :=
          if given.searchPaths.isEmpty then config.discovery.searchPaths else given.searchPaths
        exclude := given.exclude.or config.discovery.exclude
        manifest := given.manifest.or config.discovery.manifest }
    output :=
      { config.output with
        source := given.source.getD config.output.source
        apipath := given.apipath.getD config.output.apipath
        docpath := given.docpath.getD config.output.docpath
        writtenpath := given.writtenpath.getD config.output.writtenpath }
    generation :=
      { writeApi := config.generation.writeApi && !given.noWriteApi
        writeDoc := config.generation.writeDoc || given.writeDoc
        writeIndex := config.generation.writeIndex || given.writeIndex
        overwrite := config.generation.overwrite || given.overwrite
        memberOrder := given.memberOrder.getD config.generation.memberOrder } }

/-! ### Checks -/

/-- Checks a path below the output directory. -/
def checkPath (key value : String) : Except Error Unit :=
  if isBlankText value then .error (.config (.blankPath key))
  else if Path.isAbsolute value then .error (.config (.absolutePath key value))
  else .ok ()

/-- Checks a configuration and gives its first fault. -/
def check (config : Config) : Except Error Unit := do
  if config.discovery.searchPaths.isEmpty then throw (.config .noSearchPath)
  checkPath "apipath" config.output.apipath
  checkPath "docpath" config.output.docpath
  checkPath "writtenpath" config.output.writtenpath
  if config.output.extension.isEmpty then throw (.config .emptyExtension)
  if config.output.backupMark.isEmpty then throw (.config .emptyBackupPrefix)
  match config.discovery.exclude with
  | some text => if (Pattern.parse? text).isNone then throw .pattern
  | none => return ()

end Config

/-! ### Configurations as data -/

/-- Reads the discovery section. -/
def Discovery.ofDatum? (style : DatumStyle) (datum : Datum) : Option Discovery := do
  match ← datum.fields? style.allowsExtra ["search_paths", "exclude", "manifest"] with
  | [searchPaths, exclude, manifest] =>
    let default : Discovery := {}
    let searchPaths ← Datum.orDefault default.searchPaths (Datum.each? Datum.text?) searchPaths
    let exclude ← Datum.orDefault default.exclude (Datum.optional? Datum.text?) exclude
    let manifest ← Datum.orDefault default.manifest (Datum.optional? Datum.text?) manifest
    return { searchPaths, exclude, manifest }
  | _ => none

/-- Reads the output section. -/
def Output.ofDatum? (style : DatumStyle) (datum : Datum) : Option Output := do
  match ← datum.fields? style.allowsExtra
    ["source", "apipath", "docpath", "writtenpath", "extension", "backup_prefix"] with
  | [source, apipath, docpath, writtenpath, extension, backupMark] =>
    let default : Output := {}
    let source ← Datum.orDefault default.source Datum.text? source
    let apipath ← Datum.orDefault default.apipath Datum.text? apipath
    let docpath ← Datum.orDefault default.docpath Datum.text? docpath
    let writtenpath ← Datum.orDefault default.writtenpath Datum.text? writtenpath
    let extension ← Datum.orDefault default.extension Datum.text? extension
    let backupMark ← Datum.orDefault default.backupMark Datum.text? backupMark
    return { source, apipath, docpath, writtenpath, extension, backupMark }
  | _ => none

/-- Reads the generation section. -/
def Generation.ofDatum? (style : DatumStyle) (datum : Datum) : Option Generation := do
  match ← datum.fields? style.allowsExtra
    ["write_api", "write_doc", "write_index", "overwrite", "member_order"] with
  | [writeApi, writeDoc, writeIndex, overwrite, memberOrder] =>
    let default : Generation := {}
    let writeApi ← Datum.orDefault default.writeApi Datum.flag? writeApi
    let writeDoc ← Datum.orDefault default.writeDoc Datum.flag? writeDoc
    let writeIndex ← Datum.orDefault default.writeIndex Datum.flag? writeIndex
    let overwrite ← Datum.orDefault default.overwrite Datum.flag? overwrite
    let order := fun datum => (Datum.word? style.isEmpty datum).bind MemberOrder.ofWord?
    let memberOrder ← Datum.orDefault default.memberOrder order memberOrder
    return { writeApi, writeDoc, writeIndex, overwrite, memberOrder }
  | _ => none

namespace Config

/-- Reads a configuration from data of a format. -/
def ofDatum? (style : DatumStyle) (datum : Datum) : Option Config := do
  match ← datum.fields? style.allowsExtra ["discovery", "output", "generate"] with
  | [discovery, output, generation] =>
    let discovery ← Datum.orDefault {} (Discovery.ofDatum? style) discovery
    let output ← Datum.orDefault {} (Output.ofDatum? style) output
    let generation ← Datum.orDefault {} (Generation.ofDatum? style) generation
    return { discovery, output, generation }
  | _ => none

/-- A configuration as data. -/
def toDatum (config : Config) : Datum :=
  .object
    [("discovery", .object
        [("search_paths", .list (config.discovery.searchPaths.map .text)),
          ("exclude", .ofText? config.discovery.exclude),
          ("manifest", .ofText? config.discovery.manifest)]),
      ("output", .object
        [("source", .text config.output.source), ("apipath", .text config.output.apipath),
          ("docpath", .text config.output.docpath),
          ("writtenpath", .text config.output.writtenpath),
          ("extension", .text config.output.extension),
          ("backup_prefix", .text config.output.backupMark)]),
      ("generate", .object
        [("write_api", .flag config.generation.writeApi),
          ("write_doc", .flag config.generation.writeDoc),
          ("write_index", .flag config.generation.writeIndex),
          ("overwrite", .flag config.generation.overwrite),
          ("member_order", .text config.generation.memberOrder.word)])]

end Config

end DocStubs
