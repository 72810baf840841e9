import DocStubs.Code.Tree
import DocStubs.Name
import DocStubs.Symbol

/-!
# The names a module binds when it is imported

The statements of a module are run through in the order they are written, every branch as if it
were taken. Only the body of a main guard is left out: it never runs on import. The bodies of
functions and classes bind no names of the module, and neither do `match` statements.

A name keeps the place and the line of its first binding until it is deleted; all else it takes
from its last binding.

## Main definitions

* `Bindings` — the names bound so far and what later statements can learn of them
* `Bindings.bind`, `Bindings.unbind`, `Bindings.lookup?` — the name table, which keeps symbols in
  order and finds them by their positions
* `Home` — the module whose statements are run through
* `Home.classify` — what is known about an assigned value
* `Home.run` — the bindings after a list of statements
-/

namespace DocStubs.Code

/-- The names bound so far. -/
structure Bindings where
  /-- The symbols, in the order of their first bindings. -/
  symbols : List Symbol := []
  /-- Where the symbol of each name is among them. -/
  positions : List (String × Nat) := []
  /-- The names bound by plain imports, with the modules they stand for. -/
  imports : List (String × String) := []
  /-- The names of local classes whose instances can be called. -/
  callables : List String := []
  deriving Repr, Inhabited

namespace Bindings

/-- Where the symbol of a name is. -/
def position? (bindings : Bindings) (name : String) : Option Nat :=
  (bindings.positions.find? (·.1 = name)).map (·.2)

/-- The symbol bound to a name. -/
def lookup? (bindings : Bindings) (name : String) : Option Symbol :=
  (bindings.position? name).bind (bindings.symbols[·]?)

/-- Forgets what was known of a name besides its symbol. -/
def forget (bindings : Bindings) (name : String) : Bindings :=
  { bindings with
    imports := bindings.imports.filter (·.1 ≠ name)
    callables := bindings.callables.filter (· ≠ name) }

/-- Binds a name. The symbol takes the place and the line of the one that the name has, or comes
last if the name has none. -/
def bind (bindings : Bindings) (symbol : Symbol) : Bindings :=
  let others := bindings.forget symbol.name
  match bindings.position? symbol.name with
  | some index =>
    { others with
      symbols := bindings.symbols.modify index fun old => { symbol with line := old.line } }
  | none =>
    { others with
      symbols := bindings.symbols ++ [symbol]
      positions := (symbol.name, bindings.symbols.length) :: bindings.positions }

/-- Deletes a name. The symbols after its own move up. -/
def unbind (bindings : Bindings) (name : String) : Bindings :=
  let others := bindings.forget name
  match bindings.position? name with
  | some index =>
    { others with
      symbols := bindings.symbols.eraseIdx index
      positions := (bindings.positions.filter (·.1 ≠ name)).map fun (other, position) =>
        (other, if index < position then position - 1 else position) }
  | none => others

/-- Deletes several names. -/
def unbindAll (bindings : Bindings) (names : List String) : Bindings :=
  names.foldl unbind bindings

/-- Binds a name by a plain import. -/
def bindImport (bindings : Bindings) (line : Nat) (imported : Imported) : Bindings :=
  let name := Name.bound imported.name imported.alias?
  let target := if imported.alias?.isSome then imported.name else name
  let bound := bindings.bind { name, kind := .module, line }
  { bound with imports := (name, target) :: bound.imports }

/-- The module that a name bound by a plain import stands for. -/
def import? (bindings : Bindings) (name : String) : Option String :=
  (bindings.imports.find? (·.1 = name)).map (·.2)

end Bindings

/-- The module whose statements are run through. -/
structure Home where
  name : String
  isPackage : Bool := false
  deriving DecidableEq, Repr, Inhabited

/-- What is known about a value: its kind and the module that declares it. -/
structure Value where
  kind : Kind
  declaredIn : Option String := none
  deriving DecidableEq, Repr, Inhabited

/-- A value that nothing more is known about than that it is data. -/
def Value.plain : Value := { kind := .data }

/-- The leftmost name of a chain of field accesses. -/
def Expr.base? : Expr → Option String
  | .name id => some id
  | .access object _ => object.base?
  | _ => none

namespace Home

/-! ### Values -/

/-- What calling a name gives: instances of local classes belong to the module, and so do the
results of imported values to the module they were imported from. -/
def called (home : Home) (bindings : Bindings) (name : String) : Value :=
  match bindings.lookup? name with
  | some symbol =>
    if symbol.kind = .class && symbol.declaredIn = some home.name then
      { kind := if bindings.callables.contains name then .callable else .data
        declaredIn := some home.name }
    else if symbol.kind = .unresolved then { kind := .data, declaredIn := symbol.declaredIn }
    else .plain
  | none => .plain

/-- What is known about an assigned value. -/
def classify (home : Home) (bindings : Bindings) : Expr → Value
  | .lambda _ => { kind := .function, declaredIn := some home.name }
  | .name id =>
    match bindings.lookup? id with
    | some symbol => { kind := symbol.kind, declaredIn := symbol.declaredIn }
    | none => { kind := .unresolved, declaredIn := some "builtins" }
  | .access object _ =>
    match object.base?.bind bindings.import? with
    | some target => { kind := .unresolved, declaredIn := some target }
    | none => .plain
  | .call (.name id) => home.called bindings id
  | .call (.access object _) =>
    { kind := .data, declaredIn := object.base?.bind bindings.import? }
  | _ => .plain

/-! ### Statements -/

/-- The module that a `from` import takes its names from. -/
def originName (home : Home) : Origin → String
  | .absolute name => name
  | .relative level name => (Name.resolve? home.name home.isPackage level name).getD name

/-- Binds the names of a `from` import. -/
def bindNames (bindings : Bindings) (line : Nat) (origin : String) (names : List Imported) :
    Bindings :=
  names.foldl
    (fun bindings imported =>
      bindings.bind
        { name := Name.bound imported.name imported.alias?, kind := .unresolved
          declaredIn := some origin, line })
    bindings

/-- Binds a target. A name gets the value; the names of a sequence become plain data. -/
def bindTarget (bindings : Bindings) (line : Nat) (value : Value) : Target → Bindings
  | .name id =>
    bindings.bind { name := id, kind := value.kind, declaredIn := value.declaredIn, line }
  | .sequence items =>
    items.foldl
      (fun bindings item =>
        match item with
        | .name id => bindings.bind { name := id, kind := .data, line }
        | _ => bindings)
      bindings
  | .place => bindings

/-- Whether the body of a class makes its instances callable. -/
def definesCall (body : List Stmt) : Bool :=
  body.any fun stmt =>
    match stmt with
    | .function _ name _ => name = "__call__"
    | _ => false

/-- The names that the deletion of a target unbinds. -/
def deleted : Expr → List String
  | .name id => [id]
  | target => target.directNames

mutual

/-- The bindings after a statement. -/
def step (home : Home) (bindings : Bindings) : Stmt → Bindings
  | .function line name _ =>
    bindings.bind { name, kind := .function, declaredIn := some home.name, line }
  | .classDef line name body =>
    let bound := bindings.bind { name, kind := .class, declaredIn := some home.name, line }
    if definesCall body then { bound with callables := name :: bound.callables } else bound
  | .importModules line modules => modules.foldl (·.bindImport line ·) bindings
  | .importNames line origin names => bindNames bindings line (home.originName origin) names
  | .assign line targets (some value) =>
    let known := home.classify bindings value
    targets.foldl (bindTarget · line known ·) bindings
  | .assign _ _ none => bindings
  | .delete _ target => bindings.unbindAll (deleted target)
  | .branch _ condition body orelse =>
    if condition.isMainGuard then run home bindings orelse
    else run home (run home bindings body) orelse
  | .loop line target body orelse =>
    let started :=
      match target with
      | some target => bindTarget bindings line .plain target
      | none => bindings
    run home (run home started body) orelse
  | .block _ body => run home bindings body
  | .cases .. | .other _ => bindings

/-- The bindings after a list of statements. -/
def run (home : Home) (bindings : Bindings) : List Stmt → Bindings
  | [] => bindings
  | stmt :: rest => run home (step home bindings stmt) rest

end

/-- The symbols of a module with the given statements. -/
def symbols (home : Home) (body : List Stmt) : List Symbol := (home.run {} body).symbols

end Home

end DocStubs.Code
