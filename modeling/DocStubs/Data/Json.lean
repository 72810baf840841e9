import DocStubs.Data.Datum

/-!
# JSON texts

The strict format: no comments, no trailing commas, nothing after the value but blanks. An escape
for half of a character that needs two is a fault of the text only where the text is used, so such
texts are read as `Datum.garbled`.

The printer writes a value over several lines, with two blanks for each level.

## Main definitions

* `Json.style` — what may be written in several ways
* `Json.parse?` — the datum that a text stands for
* `Json.quote`, `Json.pretty` — the text of a datum
-/

namespace DocStubs

namespace Json

/-- Only null may follow a word that is written as a record, and a list has no items too many. -/
def style : DatumStyle where
  isEmpty
    | .null => true
    | _ => false
  allowsExtra := false

/-! ### Texts -/

/-- Whether a character may stand between the parts of a text. -/
def isBlank (c : Char) : Bool := c = ' ' || c = '\t' || c = '\n' || c = '\r'

/-- A text without the blanks at its start. -/
def skip (chars : List Char) : List Char := chars.dropWhile isBlank

/-- The value of a hexadecimal digit. -/
def hexValue? (c : Char) : Option Nat :=
  if c.isDigit then some (c.toNat - '0'.toNat)
  else if 'a' ≤ c && c ≤ 'f' then some (c.toNat - 'a'.toNat + 10)
  else if 'A' ≤ c && c ≤ 'F' then some (c.toNat - 'A'.toNat + 10)
  else none

/-- The value of hexadecimal digits. -/
def hexNumber? (digits : List Char) : Option Nat :=
  digits.foldlM (fun value c => (hexValue? c).map (16 * value + ·)) 0

/-- A part of a quoted text: a character, or half of one. -/
inductive Part where
  | char (c : Char)
  | half (code : Nat)
  deriving Repr, Inhabited

/-- The part that a hexadecimal code stands for. -/
def Part.ofCode (code : Nat) : Part :=
  if 0xD800 ≤ code && code < 0xE000 then .half code else .char (Char.ofNat code)

/-- The character that a letter after a backslash stands for. -/
def escape? (c : Char) : Option Char :=
  if c = '"' || c = '\\' || c = '/' then some c
  else if c = 'b' then some '\x08'
  else if c = 'f' then some '\x0c'
  else if c = 'n' then some '\n'
  else if c = 'r' then some '\r'
  else if c = 't' then some '\t'
  else none

/-- The parts of a quoted text after its opening quote, and what follows its closing quote. -/
def parts? : List Char → Option (List Part × List Char)
  | [] => none
  | '"' :: rest => some ([], rest)
  | '\\' :: 'u' :: a :: b :: c :: d :: rest =>
    match hexNumber? [a, b, c, d], parts? rest with
    | some code, some (parts, after) => some (.ofCode code :: parts, after)
    | _, _ => none
  | '\\' :: c :: rest =>
    match escape? c, parts? rest with
    | some c, some (parts, after) => some (.char c :: parts, after)
    | _, _ => none
  | c :: rest =>
    if c = '\\' || c.toNat < 0x20 then none
    else (parts? rest).map fun (parts, after) => (.char c :: parts, after)

/-- The characters that parts make up: two halves in the right order make up one. -/
def join? : List Part → Option (List Char)
  | [] => some []
  | .char c :: rest => (join? rest).map (c :: ·)
  | .half high :: .half low :: rest =>
    if high < 0xDC00 && 0xDC00 ≤ low then
      (join? rest).map
        (Char.ofNat (0x10000 + (high - 0xD800) * 0x400 + (low - 0xDC00)) :: ·)
    else none
  | .half _ :: _ => none

/-- A quoted text after its opening quote; there is no value if the text is garbled. -/
def quoted? (chars : List Char) : Option (Option String × List Char) :=
  (parts? chars).map fun (parts, after) => ((join? parts).map String.ofList, after)

/-! ### Numbers -/

/-- What follows at least one digit. -/
def afterDigits? (chars : List Char) : Option (List Char) :=
  match chars with
  | c :: rest => if c.isDigit then some (rest.dropWhile Char.isDigit) else none
  | [] => none

/-- What follows a fraction, if there is one. -/
def afterFraction? (chars : List Char) : Option (List Char) :=
  match chars with
  | '.' :: rest => afterDigits? rest
  | _ => some chars

/-- What follows an exponent, if there is one. -/
def afterExponent? (chars : List Char) : Option (List Char) :=
  match chars with
  | e :: rest =>
    if e = 'e' || e = 'E' then
      match rest with
      | '+' :: digits => afterDigits? digits
      | '-' :: digits => afterDigits? digits
      | digits => afterDigits? digits
    else some chars
  | [] => some []

/-- The value of decimal digits. -/
def decimal (digits : List Char) : Nat :=
  digits.foldl (fun value c => 10 * value + (c.toNat - '0'.toNat)) 0

/-- A number without a sign. -/
def unsigned? (chars : List Char) : Option (Datum × List Char) :=
  let digits :=
    match chars with
    | '0' :: _ => ['0']
    | _ => chars.takeWhile Char.isDigit
  let whole := chars.drop digits.length
  if digits.isEmpty then none
  else
    match (afterFraction? whole).bind afterExponent? with
    | some after =>
      if after.length = whole.length then some (.natural (decimal digits), after)
      else some (.number, after)
    | none => none

/-- A number with or without a sign. -/
def number? (chars : List Char) : Option (Datum × List Char) :=
  match chars with
  | '-' :: rest => (unsigned? rest).map fun (_, after) => (.number, after)
  | _ => unsigned? chars

/-! ### Values -/

/-- What follows a word at the start of a text. -/
def afterWord? (word : String) (chars : List Char) : Option (List Char) :=
  if word.toList.isPrefixOf chars then some (chars.drop word.length) else none

mutual

/-- A value, which starts without blanks, and what follows it. -/
def value? : Nat → List Char → Option (Datum × List Char)
  | 0, _ => none
  | fuel + 1, chars =>
    match chars with
    | '[' :: rest =>
      match skip rest with
      | ']' :: after => some (.list [], after)
      | rest => (items? fuel rest).map fun (items, after) => (.list items, after)
    | '{' :: rest =>
      match skip rest with
      | '}' :: after => some (.record [], after)
      | rest => (entries? fuel rest).map fun (entries, after) => (.record entries, after)
    | '"' :: rest =>
      (quoted? rest).map fun (value, after) =>
        (match value with
          | some value => .text value
          | none => .garbled, after)
    | 'n' :: _ => (afterWord? "null" chars).map (Datum.null, ·)
    | 't' :: _ => (afterWord? "true" chars).map (Datum.flag true, ·)
    | 'f' :: _ => (afterWord? "false" chars).map (Datum.flag false, ·)
    | _ => number? chars

/-- The items of a list up to its closing bracket. -/
def items? : Nat → List Char → Option (List Datum × List Char)
  | 0, _ => none
  | fuel + 1, chars =>
    match value? fuel chars with
    | some (item, after) =>
      match skip after with
      | ',' :: rest =>
        (items? fuel (skip rest)).map fun (items, after) => (item :: items, after)
      | ']' :: rest => some ([item], rest)
      | _ => none
    | none => none

/-- The fields of a record up to its closing bracket. -/
def entries? : Nat → List Char → Option (List (Option String × Datum) × List Char)
  | 0, _ => none
  | fuel + 1, chars =>
    match chars with
    | '"' :: rest =>
      match quoted? rest with
      | some (key, after) =>
        match skip after with
        | ':' :: rest =>
          match value? fuel (skip rest) with
          | some (value, after) =>
            match skip after with
            | ',' :: rest =>
              (entries? fuel (skip rest)).map fun (entries, after) =>
                ((key, value) :: entries, after)
            | '}' :: rest => some ([(key, value)], rest)
            | _ => none
          | none => none
        | _ => none
      | none => none
    | _ => none

end

/-- The datum that a text stands for. Every call reads a character first or comes from one that
did, so twice the length of the text is fuel enough. -/
def parse? (text : String) : Option Datum :=
  let chars := skip text.toList
  match value? (2 * chars.length + 2) chars with
  | some (datum, after) => if (skip after).isEmpty then some datum else none
  | none => none

/-! ### Printing -/

/-- A hexadecimal digit. -/
def hexDigit (value : Nat) : Char :=
  if value < 10 then Char.ofNat ('0'.toNat + value) else Char.ofNat ('a'.toNat + value - 10)

/-- How a character is written in a quoted text. -/
def quoteChar (c : Char) : List Char :=
  if c = '"' || c = '\\' then ['\\', c]
  else if c = '\x08' then ['\\', 'b']
  else if c = '\x0c' then ['\\', 'f']
  else if c = '\n' then ['\\', 'n']
  else if c = '\r' then ['\\', 'r']
  else if c = '\t' then ['\\', 't']
  else if c.toNat < 0x20 then
    ['\\', 'u', '0', '0', hexDigit (c.toNat / 16), hexDigit (c.toNat % 16)]
  else [c]

/-- A text in quotes. -/
def quote (text : String) : String :=
  "\"" ++ String.ofList (text.toList.flatMap quoteChar) ++ "\""

/-- The blanks at the start of a line. -/
def indentation (depth : Nat) : String := String.ofList (List.replicate (2 * depth) ' ')

/-- Texts between brackets, each on a line of its own. -/
def between (opening closing : String) (depth : Nat) (lines : List String) : String :=
  if lines.isEmpty then opening ++ closing
  else
    opening ++ "\n" ++ ",\n".intercalate (lines.map (indentation (depth + 1) ++ ·)) ++ "\n" ++
      indentation depth ++ closing

mutual

/-- The text of a datum that stands at some depth. -/
def prettyAt (depth : Nat) : Datum → String
  | .null => "null"
  | .flag value => if value then "true" else "false"
  | .natural value => toString value
  | .number => "0"
  | .text value => quote value
  | .garbled => "\"\""
  | .list items => between "[" "]" depth (prettyItems (depth + 1) items)
  | .record fields => between "\x7b" "\x7d" depth (prettyFields (depth + 1) fields)

/-- The texts of the items of a list. -/
def prettyItems (depth : Nat) : List Datum → List String
  | [] => []
  | item :: rest => prettyAt depth item :: prettyItems depth rest

/-- The texts of the fields of a record. -/
def prettyFields (depth : Nat) : List (Option String × Datum) → List String
  | [] => []
  | (key, value) :: rest =>
    (quote (key.getD "") ++ ": " ++ prettyAt depth value) :: prettyFields depth rest

end

/-- The text of a datum, over several lines. -/
def pretty (datum : Datum) : String := prettyAt 0 datum

end Json

end DocStubs
