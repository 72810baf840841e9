import DocStubs.Data.Json
import DocStubs.Descriptor

/-!
# Registries

A registry is a table of modules that are known without their text, such as a dump of a running
program. It is kept in the order of the names, which is also the order in which the modules of a
package are listed. A manifest is the written form of a registry.

## Main definitions

* `Registered`, `Registry` — a registered module, and all of them
* `Registry.insert`, `Registry.get?`, `Registry.childrenOf` — the table
* `Symbol.ofDatum?`, `Registry.ofDatum?` — reading manifests
* `Symbol.toDatum`, `Registry.toDatum` — writing manifests
-/

namespace DocStubs

/-- A registered module. -/
structure Registered where
  isPackage : Bool := false
  symbols : List Symbol := []
  /-- The text of the module, if it is known. -/
  source : Option String := none
  deriving DecidableEq, Repr, Inhabited

/-- Registered modules under their names, in the order of the names. -/
structure Registry where
  entries : List (String × Registered) := []
  deriving DecidableEq, Repr, Inhabited

namespace Registry

/-- Puts a module into a list that is ordered by name, in the place of one of the same name. -/
def insertInto (name : String) (module : Registered) :
    List (String × Registered) → List (String × Registered)
  | [] => [(name, module)]
  | (other, old) :: rest =>
    if name < other then (name, module) :: (other, old) :: rest
    else if name = other then (name, module) :: rest
    else (other, old) :: insertInto name module rest

/-- Registers a module. -/
def insert (registry : Registry) (name : String) (module : Registered) : Registry :=
  { entries := insertInto name module registry.entries }

/-- The module registered under a name. -/
def get? (registry : Registry) (name : String) : Option Registered :=
  (registry.entries.find? (·.1 = name)).map (·.2)

/-- Whether one text is the start of another. -/
def startsWith (start text : String) : Bool := start.toList.isPrefixOf text.toList

/-- The registered names that are one segment longer than a name, with their modules. They stand
together among the names that start with the name and a dot. -/
def childrenOf (registry : Registry) (package : String) : List (String × Registered) :=
  let start := package ++ "."
  ((registry.entries.dropWhile (·.1 < start)).takeWhile (startsWith start ·.1)).filter
    fun (name, _) => !(name.toList.drop start.length).contains '.'

end Registry

/-! ### Manifests -/

/-- Reads a symbol. -/
def Symbol.ofDatum? (datum : Datum) : Option Symbol := do
  match ← datum.fields? false ["name", "kind", "declaring_module", "has_doc_attribute", "line"] with
  | [name, kind, declaredIn, documented, line] =>
    let name ← (← name).text?
    let kind ← Kind.ofWord? (← (← kind).word? Json.style.isEmpty)
    let declaredIn ← Datum.orDefault none (Datum.optional? Datum.text?) declaredIn
    let documented ← Datum.orDefault true Datum.flag? documented
    let line ← Datum.orDefault 0 Datum.natural? line
    return { name, kind, declaredIn, documented, line }
  | _ => none

/-- Reads a registered module. -/
def Registered.ofDatum? (datum : Datum) : Option Registered := do
  match ← datum.fields? false ["package", "symbols", "source"] with
  | [isPackage, symbols, source] =>
    let isPackage ← Datum.orDefault false Datum.flag? isPackage
    let symbols ← Datum.orDefault [] (Datum.each? Symbol.ofDatum?) symbols
    let source ← Datum.orDefault none (Datum.optional? Datum.text?) source
    return { isPackage, symbols, source }
  | _ => none

namespace Registry

/-- Registers one field of a manifest. -/
def addField? (registry : Registry) : Option String × Datum → Option Registry
  | (some name, datum) => (Registered.ofDatum? datum).map (registry.insert name)
  | (none, _) => none

/-- Reads a table of modules. Of two modules of one name the last one stays. -/
def modules? : Datum → Option Registry
  | .record fields => fields.foldlM addField? {}
  | _ => none

/-- Reads a registry. -/
def ofDatum? (datum : Datum) : Option Registry := do
  match ← datum.fields? false ["modules"] with
  | [modules] => Datum.orDefault {} modules? modules
  | _ => none

/-- Reads a manifest. -/
def ofManifest? (text : String) : Option Registry := (Json.parse? text).bind ofDatum?

end Registry

/-- A symbol as data. -/
def Symbol.toDatum (symbol : Symbol) : Datum :=
  .object
    [("name", .text symbol.name), ("kind", .text symbol.kind.word),
      ("declaring_module", .ofText? symbol.declaredIn),
      ("has_doc_attribute", .flag symbol.documented), ("line", .natural symbol.line)]

/-- A registered module as data. -/
def Registered.toDatum (module : Registered) : Datum :=
  .object
    [("package", .flag module.isPackage), ("symbols", .list (module.symbols.map Symbol.toDatum)),
      ("source", .ofText? module.source)]

/-- A registry as data. -/
def Registry.toDatum (registry : Registry) : Datum :=
  .object
    [("modules", .object (registry.entries.map fun (name, module) => (name, module.toDatum)))]

end DocStubs
