import DocStubs.Code.Statement
import DocStubs.Code.Bindings

/-!
# The outline of a module

The outline of a module is what its text says about the names it binds.

## Main definitions

* `SyntaxError` — why a text has no outline
* `Stmt.parse` — the statements of a text
* `Outline.read` — the outline of a module
-/

namespace DocStubs.Code

/-- A text that is no module, with the line where that shows. -/
structure SyntaxError where
  line : Nat
  deriving DecidableEq, Repr, Inhabited

/-- What is wrong with a text. -/
def SyntaxError.message (error : SyntaxError) : String :=
  "invalid syntax near line " ++ toString error.line

/-- The statements of a text, if it has no errors. -/
def Stmt.parse (text : String) : Except SyntaxError (List Stmt) :=
  match Node.read tables text with
  | none => .error { line := 1 }
  | some tree =>
    let form := Form.ofTree tables tree
    if form.isFaulty then .error { line := form.errorLine } else .ok (Stmt.ofForm form)

/-- What the text of a module says about the names it binds. -/
structure Outline where
  path : String
  name : String
  isPackage : Bool
  /-- The symbols in the order of their first bindings. -/
  symbols : List Symbol
  deriving DecidableEq, Repr, Inhabited

namespace Outline

/-- The outline of a module with a given text. -/
def read (path name : String) (isPackage : Bool) (text : String) : Except SyntaxError Outline :=
  (Stmt.parse text).map fun body =>
    { path, name, isPackage, symbols := Home.symbols { name, isPackage } body }

/-- The symbol of a given name. -/
def symbol? (outline : Outline) (name : String) : Option Symbol :=
  outline.symbols.find? (·.name = name)

/-- Whether the module binds nothing. -/
def isEmpty (outline : Outline) : Bool := outline.symbols.isEmpty

end Outline

end DocStubs.Code
