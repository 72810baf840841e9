/-!
# Places in a text

A place in a text is known by what follows it. The number of bytes before it tells two places of
one text apart, and its line is what messages speak of.

## Main definitions

* `Spot` — a place in a text
* `Spot.next`, `Spot.forward`, `Spot.skipWhile` — places further on
* `Spot.textTo` — the text between two places
-/

namespace DocStubs.Code

/-- A place in a text: the characters after it, the number of bytes before it, and its line,
counted from one. -/
structure Spot where
  rest : List Char
  offset : Nat := 0
  line : Nat := 1
  deriving Repr, Inhabited

namespace Spot

/-- The start of a text. -/
def start (text : String) : Spot := { rest := text.toList }

/-- The character after the place. -/
def front? (spot : Spot) : Option Char := spot.rest.head?

/-- Whether the character after the place is `c`. -/
def sees (spot : Spot) (c : Char) : Bool := spot.front? = some c

/-- The place one character further on; the end of the text stays where it is. -/
def next (spot : Spot) : Spot :=
  match spot.rest with
  | [] => spot
  | c :: rest =>
    { rest, offset := spot.offset + c.utf8Size
      line := if c = '\n' then spot.line + 1 else spot.line }

/-- The place some characters further on. -/
def forward (spot : Spot) : Nat → Spot
  | 0 => spot
  | count + 1 => spot.next.forward count

/-- The place after the longest run of characters with a property, for a text that starts with
`rest`. -/
def after (property : Char → Bool) (offset line : Nat) : List Char → Spot
  | [] => { rest := [], offset, line }
  | c :: rest =>
    if property c then
      after property (offset + c.utf8Size) (if c = '\n' then line + 1 else line) rest
    else { rest := c :: rest, offset, line }

/-- The place after the longest run of characters with a property. -/
def skipWhile (spot : Spot) (property : Char → Bool) : Spot :=
  after property spot.offset spot.line spot.rest

/-- The characters of a text up to a number of bytes. -/
def charsUpTo (bytes : Nat) : List Char → List Char
  | [] => []
  | c :: rest => if c.utf8Size ≤ bytes then c :: charsUpTo (bytes - c.utf8Size) rest else []

/-- The text between two places. -/
def textTo (spot stop : Spot) : String :=
  String.ofList (charsUpTo (stop.offset - spot.offset) spot.rest)

end Spot

end DocStubs.Code
