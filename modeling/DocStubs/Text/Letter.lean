import DocStubs.Text.Age
import DocStubs.Text.Property.Named

/-!
# Letters, digits and word characters

The classes of characters that names are made of. Two notions are kept apart because the texts
the library reads use different ones:

* a *file name* is a module name when it starts with an alphabetic character or an underscore and
  goes on with alphanumeric ones (`isIdentifier`);
* a *word of code* follows the identifier profile of an older version of the standard of
  characters (`isWordStart`, `isWordPart`).

Both agree on ASCII, where they are decided without a look at any table.

## Main definitions

* `isAlphabetic`, `isNumeric`, `isAlphanumeric`
* `isIdentifier` — a text that can name a module file
* `isWordStart`, `isWordPart` — characters of a word of code
-/

namespace DocStubs

/-- Whether a character is alphabetic. -/
def isAlphabetic (c : Char) : Bool :=
  if c.toNat < 128 then c.isAlpha else Property.alphabetic.contains c.toNat

/-- Numbers of any kind: decimal digits, letter-like numbers and other number signs. -/
def numbers : CharSet := Category.starting "N"

/-- Whether a character is a number of any kind. -/
def isNumeric (c : Char) : Bool :=
  if c.toNat < 128 then c.isDigit else numbers.contains c.toNat

/-- Whether a character is alphabetic or a number. -/
def isAlphanumeric (c : Char) : Bool := isAlphabetic c || isNumeric c

/-- Whether a text can name a module file: it is not empty, starts with an alphabetic character
or an underscore, and goes on with alphanumeric characters and underscores. -/
def isIdentifier (text : String) : Bool :=
  match text.toList with
  | [] => false
  | first :: rest =>
    (isAlphabetic first || first = '_') && rest.all fun c => isAlphanumeric c || c = '_'

/-! ### Words of code -/

/-- The version of the standard whose characters words of code are made of. -/
def wordVersion : Nat × Nat := (13, 0)

/-- Characters that start a word of code, the underscore apart. -/
def wordStarts : CharSet := Property.stableNameStarts.intersection (Age.upTo wordVersion)

/-- Joiners and middle dots, which only later versions allow in a name. -/
def laterNameParts : CharSet := .ofText "200C-200D 30FB FF65"

/-- Characters that continue a word of code. -/
def wordParts : CharSet :=
  (Property.stableNameParts.difference laterNameParts).intersection (Age.upTo wordVersion)

/-- Whether a character starts a word of code. -/
def isWordStart (c : Char) : Bool :=
  if c.toNat < 128 then c.isAlpha || c = '_' else wordStarts.contains c.toNat

/-- Whether a character continues a word of code. -/
def isWordPart (c : Char) : Bool :=
  if c.toNat < 128 then c.isAlphanum || c = '_' else wordParts.contains c.toNat

end DocStubs
