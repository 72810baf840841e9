/-!
# Symbols

A symbol is a name bound in a module, with what is known about the value it is bound to.

## Main definitions

* `Kind` — the kinds of values
* `Symbol` — a bound name
* `Kind.isCallable`, `Symbol.isDunder` — what membership depends on
-/

namespace DocStubs

/-- The kinds of values a name can be bound to. -/
inductive Kind where
  | function
  | «class»
  /-- An object that can be called, other than a function or a class. -/
  | callable
  | module
  | data
  /-- An imported value that nothing is known about. -/
  | unresolved
  deriving DecidableEq, Repr, Inhabited

namespace Kind

/-- Whether values of the kind are made to be called. -/
def isCallable : Kind → Bool
  | function | «class» | callable => true
  | module | data | unresolved => false

/-- The word for a kind. -/
def word : Kind → String
  | function => "function"
  | «class» => "class"
  | callable => "callable"
  | module => "module"
  | data => "data"
  | unresolved => "unresolved"

/-- All kinds. -/
def all : List Kind := [function, «class», callable, module, data, unresolved]

/-- The kind with a given word. -/
def ofWord? (word : String) : Option Kind := all.find? (·.word = word)

end Kind

/-- A name bound in a module. -/
structure Symbol where
  name : String
  kind : Kind
  /-- The module that declares the value, if known. -/
  declaredIn : Option String := none
  /-- Whether the value carries documentation. -/
  documented : Bool := true
  /-- The line of the first binding, or zero if unknown. -/
  line : Nat := 0
  deriving DecidableEq, Repr, Inhabited

namespace Symbol

/-- Whether the name is reserved: it starts with two underscores. -/
def isDunder (symbol : Symbol) : Bool := ['_', '_'].isPrefixOf symbol.name.toList

end Symbol

end DocStubs
