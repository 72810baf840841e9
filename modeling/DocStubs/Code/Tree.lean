/-!
# Syntax trees of module code

The trees keep what the bindings of a module can depend on. Expressions keep names, field accesses,
calls, lambdas, string literals and comparisons as such, and every other form only as the list of
its direct parts. Statements keep every block, also those that never run when the module is
imported: which blocks count is for the bindings to say, not for the tree.

An `elif` is an `if` in the `else` block, and a `try` statement is the list of its blocks.

## Main definitions

* `Expr`, `Target`, `Stmt` — expressions, assignment targets, statements
* `Expr.directNames` — the names standing directly in an expression
* `Expr.isMainGuard` — the condition under which a module runs as a script
* `Stmt.line` — the line a statement starts on
-/

namespace DocStubs.Code

/-- The operators of a comparison. -/
inductive Comparator where
  | less | lessEqual | equal | notEqual | greaterEqual | greater
  /-- The old spelling `<>` of inequality. -/
  | differs
  | isIn | isNotIn | same | notSame
  deriving DecidableEq, Repr, Inhabited

/-- Expressions. -/
inductive Expr where
  | name (id : String)
  /-- One string literal without holes, as written with its quotes. -/
  | literal (raw : String)
  /-- The field of an object, `object.field`. -/
  | access (object : Expr) (field : String)
  | call (callee : Expr)
  | subscript (value : Expr) (indices : List Expr)
  | starred (value : Expr)
  | lambda (body : Expr)
  /-- A chain of comparisons; `interrupted` tells whether a comment or a continued line stands
  between its parts. -/
  | comparison (operators : List Comparator) (operands : List Expr) (interrupted : Bool)
  /-- Items in parentheses or square brackets: a display that can also be a target. -/
  | bracketed (items : List Expr)
  /-- Any other expression, with its direct parts. -/
  | compound (parts : List Expr)
  deriving Repr, Inhabited

/-- What can be assigned to. -/
inductive Target where
  | name (id : String)
  /-- Several targets that a value is unpacked to. -/
  | sequence (items : List Target)
  /-- A place inside some object, which binds no name, or a starred target. -/
  | place
  deriving Repr, Inhabited

namespace Expr

/-- The name that an expression is, if it is one. -/
def name? : Expr → Option String
  | name id => some id
  | _ => none

/-- The names that stand directly in an expression, neither deeper nor as the expression itself.
The field of an access stands directly in it. -/
def directNames : Expr → List String
  | name _ | literal _ => []
  | access object field => object.name?.toList ++ [field]
  | call callee => callee.name?.toList
  | subscript value indices => value.name?.toList ++ indices.filterMap name?
  | starred value => value.name?.toList
  | lambda body => body.name?.toList
  | comparison _ operands _ => operands.filterMap name?
  | bracketed items => items.filterMap name?
  | compound parts => parts.filterMap name?

/-- The name the module system gives a module while it runs. -/
def isModuleName : Expr → Bool
  | name id => id = "__name__"
  | _ => false

/-- The name of a module that runs as a script, as a plain literal. -/
def isScriptName : Expr → Bool
  | literal raw => raw = "\"__main__\"" || raw = "'__main__'"
  | _ => false

/-- Whether a condition holds only for a module that runs as a script: the name of the module is
compared with the script name, in either order. -/
def isMainGuard : Expr → Bool
  | comparison [.equal] [left, right] false =>
    (left.isModuleName && right.isScriptName) || (left.isScriptName && right.isModuleName)
  | _ => false

end Expr

/-- A name in an import statement: the dotted name as written, and its alias. -/
structure Imported where
  name : String
  alias? : Option String := none
  deriving DecidableEq, Repr, Inhabited

/-- Where the names of a `from` import come from. -/
inductive Origin where
  /-- A module by its full name, as written. -/
  | absolute (name : String)
  /-- A module relative to the importing one: the number of dots and the name after them. -/
  | relative (level : Nat) (name : String)
  deriving DecidableEq, Repr, Inhabited

/-- Statements, each with the line it starts on. -/
inductive Stmt where
  /-- A function definition, with the line of its first decorator if it has one. -/
  | function (line : Nat) (name : String) (body : List Stmt)
  /-- A class definition, with the line of its first decorator if it has one. -/
  | classDef (line : Nat) (name : String) (body : List Stmt)
  | importModules (line : Nat) (modules : List Imported)
  | importNames (line : Nat) (origin : Origin) (names : List Imported)
  /-- An assignment to one or more targets; without a value it only annotates the last one. -/
  | assign (line : Nat) (targets : List Target) (value : Option Expr)
  /-- Deletion of one target, or of several in a list. -/
  | delete (line : Nat) (target : Expr)
  | branch (line : Nat) (condition : Expr) (body orelse : List Stmt)
  /-- A loop, with the target it binds if it is a `for` loop. -/
  | loop (line : Nat) (target : Option Target) (body orelse : List Stmt)
  /-- A statement that only carries blocks: `with`, or one block of a `try` statement. -/
  | block (line : Nat) (body : List Stmt)
  /-- A `match` statement with the blocks of its cases. -/
  | cases (line : Nat) (blocks : List Stmt)
  /-- Any other statement. -/
  | other (line : Nat)
  deriving Repr, Inhabited

namespace Stmt

/-- The line a statement starts on. -/
def line : Stmt → Nat
  | function line .. | classDef line .. | importModules line .. | importNames line ..
  | assign line .. | delete line .. | branch line .. | loop line .. | block line ..
  | cases line .. | other line => line

/-- Moves the start of a definition to the line of its first decorator. -/
def decoratedAt (line : Nat) : Stmt → Stmt
  | function _ name body => function line name body
  | classDef _ name body => classDef line name body
  | stmt => stmt

end Stmt

end DocStubs.Code
