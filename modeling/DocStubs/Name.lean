import DocStubs.Text.Cut

/-!
# Dotted names

Packages and modules are named by segments with dots between them; `demo.sub.leaf` is the module
`leaf` in the package `sub` of the package `demo`. Names are taken as they are written: a segment
may be empty, and nothing here asks for an identifier.

## Main definitions

* `Name.segments`, `Name.ofSegments` — a name and its segments
* `Name.root`, `Name.relative`, `Name.leaf` — the parts of a name
* `Name.resolve?` — the module that a relative import means
* `Name.stem` — the file name, without extension, of the page of a module
-/

namespace DocStubs

namespace Name

/-- The segments of a name. -/
def segments (name : String) : List String := Cut.pieces '.' name

/-- The name with the given segments. -/
def ofSegments (parts : List String) : String := ".".intercalate parts

/-- The first segment of a name. -/
def root (name : String) : String := ((Cut.first? '.' name).map (·.1)).getD name

/-- A name without its first segment, empty for a name of one segment. -/
def relative (name : String) : String := ((Cut.first? '.' name).map (·.2)).getD ""

/-- The last segment of a name. -/
def leaf (name : String) : String := ((Cut.last? '.' name).map (·.2)).getD name

/-- The package a name stands in and its last segment, if it has more than one segment. -/
def parent? (name : String) : Option (String × String) := Cut.last? '.' name

/-- The name of a module inside a package. -/
def child (package leaf : String) : String := package ++ "." ++ leaf

/-- The file name, without extension, of the pages of a module. -/
def stem (name : String) : String := "__autodoc_module__" ++ name

/-- How many segments of the importing name a relative import gives up. The first dot stands for
the package that holds the importing module, and that is the importing module itself if it is a
package. -/
def climb (isPackage : Bool) (level : Nat) : Nat := if isPackage then level - 1 else level

/-- The module that a relative import means, or none if it climbs out of the outermost package or
has no dots. -/
def resolve? (importer : String) (isPackage : Bool) (level : Nat) (target : String) :
    Option String :=
  let parts := segments importer
  if level = 0 || parts.length ≤ climb isPackage level then none
  else
    let base := ofSegments (parts.take (parts.length - climb isPackage level))
    if target.isEmpty then some base else some (child base target)

/-- The name an import binds: its alias, or else the first segment of what it imports. -/
def bound (imported : String) (alias? : Option String) : String := alias?.getD (root imported)

end Name

end DocStubs
