import DocStubs.Member
import DocStubs.Name

/-!
# Module descriptors

What the pages of a module are made from: its name, its members and whether its text opens with
documentation.

## Main definitions

* `Loaded` — a module as a source of symbols gives it
* `hasLeadingDoc` — whether a text opens with documentation
* `Descriptor`, `Descriptor.ofLoaded` — the descriptor of a module
* `Analysis` — the descriptors of all modules of a package
-/

namespace DocStubs

/-- A module as a source of symbols gives it. -/
structure Loaded where
  name : String
  /-- The symbols in the order of their first bindings. -/
  symbols : List Symbol := []
  /-- The text of the module, if there is one. -/
  source : Option String := none
  deriving DecidableEq, Repr, Inhabited

/-- How many lines are searched for leading documentation. -/
def probedLines : Nat := 3

/-- Whether one of the first lines of a text starts with the mark that opens documentation. -/
def hasLeadingDoc (text : String) : Bool :=
  ((Cut.piecesOf '\n' text.toList).take probedLines).any (['"', '"', '"'].isPrefixOf ·)

/-- What the pages of a module are made from. -/
structure Descriptor where
  /-- The full name of the module. -/
  name : String
  members : List String := []
  hasDoc : Bool := false
  deriving DecidableEq, Repr, Inhabited

namespace Descriptor

/-- The outermost package of the module. -/
def root (module : Descriptor) : String := Name.root module.name

/-- The last segment of the name. -/
def leaf (module : Descriptor) : String := Name.leaf module.name

/-- The name below the outermost package. -/
def relative (module : Descriptor) : String := Name.relative module.name

/-- The file name, without extension, of the pages. -/
def stem (module : Descriptor) : String := Name.stem module.name

/-- The descriptor of a loaded module. -/
def ofLoaded (order : MemberOrder) (module : Loaded) : Descriptor :=
  { name := module.name
    members := memberNames module.name order module.symbols
    hasDoc := (module.source.map hasLeadingDoc).getD false }

end Descriptor

/-- The descriptors of the modules of a package, in the order they are found. -/
structure Analysis where
  package : String
  modules : List Descriptor := []
  deriving DecidableEq, Repr, Inhabited

end DocStubs
