/-!
# Cutting a text at a separator

Texts are cut at a single character. All cuts are defined on lists of characters, where they are
plain structural recursions, and lifted to strings.

## Main definitions

* `Cut.pieces` — all pieces of a text between separators
* `Cut.first?`, `Cut.last?` — what stands on both sides of the first or last separator
-/

namespace DocStubs

namespace Cut

/-- The pieces of a list between separators: always one more than there are separators. -/
def piecesOf (separator : Char) : List Char → List (List Char)
  | [] => [[]]
  | c :: rest =>
    if c = separator then [] :: piecesOf separator rest
    else
      match piecesOf separator rest with
      | piece :: pieces => (c :: piece) :: pieces
      | [] => [[c]]

/-- What stands before and after the first separator of a list. -/
def firstOf? (separator : Char) : List Char → Option (List Char × List Char)
  | [] => none
  | c :: rest =>
    if c = separator then some ([], rest)
    else (firstOf? separator rest).map fun (before, after) => (c :: before, after)

/-- What stands before and after the last separator of a list. -/
def lastOf? (separator : Char) (chars : List Char) : Option (List Char × List Char) :=
  (firstOf? separator chars.reverse).map fun (after, before) => (before.reverse, after.reverse)

/-- The pieces of a text between separators. -/
def pieces (separator : Char) (text : String) : List String :=
  (piecesOf separator text.toList).map String.ofList

/-- What stands before and after the first separator of a text. -/
def first? (separator : Char) (text : String) : Option (String × String) :=
  (firstOf? separator text.toList).map fun (before, after) =>
    (String.ofList before, String.ofList after)

/-- What stands before and after the last separator of a text. -/
def last? (separator : Char) (text : String) : Option (String × String) :=
  (lastOf? separator text.toList).map fun (before, after) =>
    (String.ofList before, String.ofList after)

end Cut

end DocStubs
