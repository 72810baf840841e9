import DocStubs.Text.Age
import DocStubs.Text.Break

/-!
# Named classes of characters

The classes that a pattern can name: by a letter after a backslash, by a word between brackets
and colons, and by a property of characters.

Names of properties are compared without regard to case, blanks, hyphens, underscores and a
leading `is`.

## Main definitions

* `CharSet.latinDigit`, `CharSet.latinSpace`, `CharSet.latinWord` — the classes of plain Latin text
* `CharSet.bracketClass?` — the classes named inside brackets, such as `alpha`
* `CharSet.property?` — the classes named by a property, such as `Lu`
* `CharSet.propertyValue?` — the classes named by a property and its value
-/

namespace DocStubs

namespace CharSet

/-! ### Plain Latin text -/

/-- Decimal digits of the Latin script. -/
def latinDigit : CharSet := range 48 57

/-- Capital letters of the Latin script. -/
def latinUpper : CharSet := range 65 90

/-- Small letters of the Latin script. -/
def latinLower : CharSet := range 97 122

/-- Word characters of the Latin script. -/
def latinWord : CharSet := unions [latinDigit, latinUpper, latinLower, single 95]

/-- Blanks of the Latin script. -/
def latinSpace : CharSet := union (range 9 13) (single 32)

/-- The classes that are named inside brackets. -/
def bracketClasses : List (String × CharSet) :=
  [("alnum", unions [latinDigit, latinUpper, latinLower]),
    ("alpha", union latinUpper latinLower),
    ("ascii", range 0 127),
    ("blank", union (single 9) (single 32)),
    ("cntrl", union (range 0 31) (single 127)),
    ("digit", latinDigit),
    ("graph", range 33 126),
    ("lower", latinLower),
    ("print", range 32 126),
    ("punct", unions [range 33 47, range 58 64, range 91 96, range 123 126]),
    ("space", latinSpace),
    ("upper", latinUpper),
    ("word", latinWord),
    ("xdigit", unions [latinDigit, range 65 70, range 97 102])]

/-- The class with a given name inside brackets. -/
def bracketClass? (name : String) : Option CharSet :=
  (bracketClasses.find? (·.1 = name)).map (·.2)

/-! ### Properties -/

/-- A name of a property in small letters, without a leading `is`, blanks, hyphens, underscores
and characters beyond plain Latin text. The name `isc` keeps its first letters, lest it be taken
for a category. -/
def plainName (name : List Char) : String :=
  let clean := fun (chars : List Char) =>
    (chars.filter fun c => !(c = ' ' || c = '-' || c = '_') && c.toNat < 128).map Char.toLower
  match name with
  | first :: second :: rest =>
    if first.toLower = 'i' && second.toLower = 's' then
      let kept := String.ofList (clean rest)
      if kept = "c" then "isc" else kept
    else String.ofList (clean name)
  | _ => String.ofList (clean name)

/-- The general category or script with a plain name. -/
def categoryOrScript? (name : String) : Option CharSet :=
  match Category.named? name with
  | some set => some set
  | none => (Script.named? name).map Script.members

/-- The class of a property that is named without a value: of those with such a name the property
itself, else a category, else a script. -/
def property? (name : List Char) : Option CharSet :=
  let plain := plainName name
  match Property.named? plain with
  | some set => some set
  | none => categoryOrScript? plain

/-- The class of the characters with a value of a property. -/
def propertyValue? (key value : List Char) : Option CharSet :=
  let key := plainName key
  let value := plainName value
  if key = "gc" || key = "generalcategory" then Category.named? value
  else if key = "sc" || key = "script" then (Script.named? value).map Script.members
  else if key = "scx" || key = "scriptextensions" then (Script.named? value).map Script.extent
  else if key = "age" then Age.named? value
  else if key = "gcb" || key = "graphemeclusterbreak" then Break.grapheme? value
  else if key = "wb" || key = "wordbreak" then Break.word? value
  else if key = "sb" || key = "sentencebreak" then Break.sentence? value
  else none

end CharSet

end DocStubs
