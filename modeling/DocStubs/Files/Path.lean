import DocStubs.Text.Cut

/-!
# Paths

Paths are texts and stay as they are written: joining two paths never tidies them up, because
every path may be shown again. Only where a path is followed does it matter which names it holds.

## Main definitions

* `Path.join` — a path below another one
* `Path.names`, `Path.endsInSlash` — what it means to follow a path
* `Path.parent?`, `Path.withFileName`, `Path.stem` — the last name of a path and what is before it
-/

namespace DocStubs

namespace Path

/-- Whether a path starts at the root. -/
def isAbsolute (path : String) : Bool := path.toList.head? = some '/'

/-- Whether a path ends in a slash. -/
def endsInSlash (path : String) : Bool := path.toList.getLast? = some '/'

/-- A path below another one, unless it starts at the root. -/
def join (base path : String) : String :=
  if isAbsolute path || base.isEmpty then path
  else if endsInSlash base then base ++ path
  else base ++ "/" ++ path

/-- The names along a path. -/
def names (path : String) : List String := (Cut.pieces '/' path).filter (!·.isEmpty)

/-- A path, in reverse, without slashes and single dots at its end; a dot at its start stays. -/
def trimReversed : List Char → List Char
  | '/' :: rest => if rest.all (· = '/') then ['/'] else trimReversed rest
  | '.' :: '/' :: rest => trimReversed ('/' :: rest)
  | chars => chars

/-- The path without its last name. The root and the empty path have no last name. -/
def parent? (path : String) : Option String :=
  match trimReversed path.toList.reverse with
  | [] => none
  | ['/'] => none
  | chars =>
    match chars.dropWhile (· ≠ '/') with
    | [] => some ""
    | rest => some (String.ofList (trimReversed rest).reverse)

/-- The path with its last name replaced. -/
def withFileName (path name : String) : String := join ((parent? path).getD "") name

/-- The last name of a path that does not end in a slash. -/
def fileName (path : String) : String := ((Cut.last? '/' path).map (·.2)).getD path

/-- The last name of a path without its extension. -/
def stem (path : String) : String :=
  match Cut.last? '.' (fileName path) with
  | some (before, _) => if before.isEmpty then fileName path else before
  | none => fileName path

end Path

end DocStubs
