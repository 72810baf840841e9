import DocStubs.Data.Json

/-!
# TOML texts

Version 1.0 of the format. A text is a sequence of lines: `key = value` adds to the table of the
last header, and a header opens a table. A table can be opened once only, and the tables that
dotted keys make and the tables that headers make do not mix.

Nothing in a configuration is a number or a date, so numbers keep no value, and a date becomes a
record with a key of its own.

## Main definitions

* `Toml.style` — what may be written in several ways
* `Toml.Item`, `Toml.Table` — tables while they are being filled
* `Toml.Table.descend` — a change to a table at the end of a path of keys
* `Toml.value?` — values
* `Toml.parse?` — the datum that a text stands for
-/

namespace DocStubs

namespace Toml

/-- Only an empty table or list may follow a word that is written as a record, and items too many
in a list that stands for a record are passed over. -/
def style : DatumStyle where
  isEmpty
    | .record fields => fields.isEmpty
    | .list items => items.isEmpty
    | _ => false
  allowsExtra := true

/-! ### Tables -/

/-- What a key of a table stands for. -/
inductive Item where
  /-- A value, to which nothing can be added. -/
  | value (datum : Datum)
  /-- A table. It is implicit until a header opens it, and dotted if a dotted key made it. -/
  | table (implicit dotted : Bool) (entries : List (String × Item))
  /-- A list of tables, each opened by a header of its own. -/
  | tables (items : List (List (String × Item)))
  deriving Inhabited

/-- A table that is being filled. -/
structure Table where
  implicit : Bool := false
  dotted : Bool := false
  entries : List (String × Item) := []
  deriving Inhabited

namespace Table

/-- What a key stands for. -/
def get? (table : Table) (key : String) : Option Item :=
  (table.entries.find? (·.1 = key)).map (·.2)

/-- Puts an item under a key, in the place of an earlier one. -/
def putInto (key : String) (item : Item) : List (String × Item) → List (String × Item)
  | [] => [(key, item)]
  | (other, old) :: rest =>
    if other = key then (key, item) :: rest else (other, old) :: putInto key item rest

/-- Puts an item under a key. -/
def put (table : Table) (key : String) (item : Item) : Table :=
  { table with entries := putInto key item table.entries }

/-- The table as an item. -/
def toItem (table : Table) : Item := .table table.implicit table.dotted table.entries

/-- Changes the table at the end of a path. Tables that are missing on the way are made; `dotted`
tells whether a dotted key asks for it, which may not lead through a table that a header
opened. -/
def descend (dotted : Bool) (change : Table → Option Table) : List String → Table → Option Table
  | [], table => change table
  | key :: rest, table =>
    match table.get? key with
    | none =>
      (descend dotted change rest { implicit := true, dotted }).map fun inner =>
        table.put key inner.toItem
    | some (.value _) => none
    | some (.tables items) =>
      match items.getLast? with
      | some entries =>
        (descend dotted change rest { entries }).map fun inner =>
          table.put key (.tables (items.dropLast ++ [inner.entries]))
      | none => none
    | some (.table implicit wasDotted entries) =>
      if dotted && !implicit then none
      else
        (descend dotted change rest { implicit, dotted := wasDotted, entries }).map fun inner =>
          table.put key inner.toItem

/-- Adds a value under a key that may be dotted: the last part of the key may not be there, and
only tables that dotted keys made can be added to by dotted keys. -/
def add (table : Table) (path : List String) (key : String) (datum : Datum) : Option Table :=
  let change := fun (inner : Table) =>
    if inner.dotted == path.isEmpty || (inner.get? key).isSome then none
    else some (inner.put key (.value datum))
  descend (!path.isEmpty) change path table

end Table

mutual

/-- An item as data. -/
def Item.toDatum : Item → Datum
  | .value datum => datum
  | .table _ _ entries => .record (entriesData entries)
  | .tables items => .list (tablesData items)

/-- The entries of a table as data. -/
def entriesData : List (String × Item) → List (Option String × Datum)
  | [] => []
  | (key, item) :: rest => (some key, item.toDatum) :: entriesData rest

/-- A list of tables as data. -/
def tablesData : List (List (String × Item)) → List Datum
  | [] => []
  | entries :: rest => .record (entriesData entries) :: tablesData rest

end

/-! ### Blanks and comments -/

/-- Whether a character is a blank inside a line. -/
def isBlank (c : Char) : Bool := c = ' ' || c = '\t'

/-- A text without the blanks at its start. -/
def skip (chars : List Char) : List Char := chars.dropWhile isBlank

/-- Whether a character may stand in a comment. -/
def isCommentChar (c : Char) : Bool := c = '\t' || (0x20 ≤ c.toNat && c.toNat ≠ 0x7F)

/-- What follows the end of a line. -/
def afterNewline? : List Char → Option (List Char)
  | '\n' :: rest => some rest
  | '\r' :: '\n' :: rest => some rest
  | _ => none

/-- A text without the comment at its start. -/
def dropComment : List Char → List Char
  | '#' :: rest => rest.dropWhile isCommentChar
  | chars => chars

/-- What follows the blanks, the comment and the end of a line. -/
def afterLine? (chars : List Char) : Option (List Char) :=
  match dropComment (skip chars) with
  | [] => some []
  | rest => afterNewline? rest

/-- A text without the blanks, comments and ends of lines at its start. -/
def dropLines : Nat → List Char → List Char
  | 0, chars => chars
  | fuel + 1, chars =>
    let rest := dropComment (skip chars)
    match afterNewline? rest with
    | some after => dropLines fuel after
    | none => rest

/-! ### Texts -/

/-- The character with a hexadecimal code. -/
def hexChar? (digits : List Char) : Option Char := do
  let code ← Json.hexNumber? digits
  if code < 0xD800 || (0xE000 ≤ code && code ≤ 0x10FFFF) then some (Char.ofNat code) else none

/-- The character that a letter after a backslash stands for. -/
def escape? (c : Char) : Option Char := if c = '/' then none else Json.escape? c

/-- Whether a character may stand in a text as it is. -/
def isPlain (c : Char) : Bool := isCommentChar c

/-- The character that an escape stands for, whose backslash is read already, and what follows. -/
def escaped? : List Char → Option (Char × List Char)
  | 'u' :: a :: b :: c :: d :: rest => (hexChar? [a, b, c, d]).map (·, rest)
  | 'U' :: a :: b :: c :: d :: e :: f :: g :: h :: rest =>
    (hexChar? [a, b, c, d, e, f, g, h]).map (·, rest)
  | c :: rest => (escape? c).map (·, rest)
  | [] => none

/-- A text in double quotes on one line, after its opening quote. -/
def basic? : Nat → List Char → Option (List Char × List Char)
  | 0, _ => none
  | fuel + 1, chars =>
    match chars with
    | [] => none
    | '"' :: rest => some ([], rest)
    | '\\' :: rest => do
      let (c, after) ← escaped? rest
      let (text, after) ← basic? fuel after
      return (c :: text, after)
    | c :: rest =>
      if isPlain c then (basic? fuel rest).map fun (text, after) => (c :: text, after) else none

/-- A text in single quotes on one line, after its opening quote. -/
def literal? : List Char → Option (List Char × List Char)
  | [] => none
  | '\'' :: rest => some ([], rest)
  | c :: rest =>
    if isPlain c then (literal? rest).map fun (text, after) => (c :: text, after) else none

/-- What follows a backslash at the end of a line: the blanks and empty lines after it. -/
def afterContinuation? : Nat → List Char → Option (List Char)
  | 0, _ => none
  | fuel + 1, chars =>
    match afterNewline? (skip chars) with
    | some rest => some ((afterContinuation? fuel rest).getD (skip rest))
    | none => none

/-- The quotes at the end of a text over several lines: up to two of them belong to the text. -/
def closing? (quote : Char) (chars : List Char) : Option (List Char × List Char) :=
  let run := (chars.takeWhile (· = quote)).length
  if run < 3 then none
  else
    let inside := min (run - 3) 2
    some (List.replicate inside quote, chars.drop (inside + 3))

/-- A text over several lines, after its opening quotes. -/
def multiline? (quote : Char) (escapes : Bool) : Nat → List Char → Option (List Char × List Char)
  | 0, _ => none
  | fuel + 1, chars =>
    match closing? quote chars with
    | some closed => some closed
    | none =>
      match chars with
      | [] => none
      | c :: rest =>
        if c = '\\' && escapes then
          match afterContinuation? fuel rest with
          | some after => multiline? quote escapes fuel after
          | none => do
            let (c, after) ← escaped? rest
            let (text, after) ← multiline? quote escapes fuel after
            return (c :: text, after)
        else
          match afterNewline? chars with
          | some after =>
            (multiline? quote escapes fuel after).map fun (text, after) => ('\n' :: text, after)
          | none =>
            if isPlain c then
              (multiline? quote escapes fuel rest).map fun (text, after) => (c :: text, after)
            else none

/-- A text over several lines without the line break after its opening quotes. -/
def opened (chars : List Char) : List Char := (afterNewline? chars).getD chars

/-- A text in any kind of quotes. -/
def text? (chars : List Char) : Option (List Char × List Char) :=
  let fuel := chars.length + 1
  match chars with
  | '"' :: '"' :: '"' :: rest => multiline? '"' true fuel (opened rest)
  | '\'' :: '\'' :: '\'' :: rest => multiline? '\'' false fuel (opened rest)
  | '"' :: rest => basic? fuel rest
  | '\'' :: rest => literal? rest
  | _ => none

/-! ### Keys -/

/-- Whether a character may stand in a key without quotes. -/
def isKeyChar (c : Char) : Bool := c.isAlphanum || c = '_' || c = '-'

/-- One part of a key. -/
def keyPart? (chars : List Char) : Option (String × List Char) :=
  let made := fun (found : List Char × List Char) => (String.ofList found.1, found.2)
  match chars with
  | '"' :: rest => (basic? (rest.length + 1) rest).map made
  | '\'' :: rest => (literal? rest).map made
  | _ =>
    let bare := chars.takeWhile isKeyChar
    if bare.isEmpty then none else some (String.ofList bare, chars.drop bare.length)

/-- A key has fewer parts than this, and brackets are nested less deep. -/
def depthLimit : Nat := 80

/-- The parts of a key with dots between them, and what follows the key and the blanks after
it. -/
def keyParts? : Nat → List Char → Option (List String × List Char)
  | 0, _ => none
  | fuel + 1, chars => do
    let (part, after) ← keyPart? (skip chars)
    match skip after with
    | '.' :: rest =>
      let (parts, after) ← keyParts? fuel rest
      return (part :: parts, after)
    | rest => return ([part], rest)

/-- A key: the parts before its last one, and the last one. -/
def key? (chars : List Char) : Option (List String × String × List Char) := do
  let (parts, after) ← keyParts? depthLimit chars
  let last ← parts.getLast?
  if parts.length < depthLimit then return (parts.dropLast, last, after) else none

/-! ### Numbers and dates -/

/-- What follows digits with single underscores between them. -/
def afterDigits? (isDigit : Char → Bool) (afterDigit : Bool) : List Char → Option (List Char)
  | [] => if afterDigit then some [] else none
  | c :: rest =>
    if isDigit c then afterDigits? isDigit true rest
    else if c = '_' && afterDigit then afterDigits? isDigit false rest
    else if afterDigit then some (c :: rest)
    else none

/-- The number of characters that were read. -/
def taken (chars rest : List Char) : List Char := chars.take (chars.length - rest.length)

/-- The value of digits of some base. -/
def digitsValue (base : Nat) (digits : List Char) : Nat :=
  digits.foldl (fun value c => base * value + (Json.hexValue? c).getD 0)
    0

/-- Whole numbers go from the negative of this up to below it. -/
def integerLimit : Nat := 0x8000000000000000

/-- A whole number whose base is marked. -/
def marked? (chars : List Char) : Option (Datum × List Char) := do
  let (base, isDigit, digits) ←
    match chars with
    | '0' :: 'x' :: rest => some (16, fun c => (Json.hexValue? c).isSome, rest)
    | '0' :: 'o' :: rest => some (8, fun (c : Char) => '0' ≤ c && c ≤ '7', rest)
    | '0' :: 'b' :: rest => some (2, fun (c : Char) => c = '0' || c = '1', rest)
    | _ => none
  let after ← afterDigits? isDigit false digits
  let value := digitsValue base ((taken digits after).filter (· ≠ '_'))
  if value < integerLimit then return (.natural value, after) else none

/-- A text without the sign at its start, and whether it is a minus. -/
def unsign (chars : List Char) : Bool × List Char :=
  match chars with
  | '-' :: rest => (true, rest)
  | '+' :: rest => (false, rest)
  | _ => (false, chars)

/-- What follows the whole part of a decimal number, which has no needless zero. -/
def afterWhole? (chars : List Char) : Option (List Char) :=
  match chars with
  | '0' :: rest => some rest
  | _ => afterDigits? Char.isDigit false chars

/-- A whole number in decimal digits. -/
def integer? (chars : List Char) : Option (Datum × List Char) := do
  let (negative, digits) := unsign chars
  let after ← afterWhole? digits
  let value := digitsValue 10 ((taken digits after).filter (· ≠ '_'))
  if negative then
    if value ≤ integerLimit then return (.number, after) else none
  else if value < integerLimit then return (.natural value, after)
  else none

/-- What follows an exponent. -/
def afterExponent? (chars : List Char) : Option (List Char) :=
  match chars with
  | e :: rest =>
    if e = 'e' || e = 'E' then afterDigits? Char.isDigit false (unsign rest).2 else none
  | [] => none

/-- A number with a fraction or an exponent, as its digits without the point and the power of ten
that they are multiplied by. -/
structure Decimal where
  digits : List Char
  power : Int

/-- The digits and the power of ten of a written number without a sign. -/
def decimal (written : List Char) : Decimal :=
  let plain := written.filter (· ≠ '_')
  let mantissa := plain.takeWhile fun c => c ≠ 'e' && c ≠ 'E'
  let (negative, exponent) := unsign ((plain.drop mantissa.length).drop 1)
  let power := Int.ofNat (digitsValue 10 exponent)
  let whole := mantissa.takeWhile (· ≠ '.')
  let fraction := (mantissa.dropWhile (· ≠ '.')).drop 1
  { digits := (whole ++ fraction).dropWhile (· = '0')
    power := (if negative then -power else power) - Int.ofNat fraction.length }

/-- The least whole number that is rounded to infinity in double precision: half a step above the
greatest number there is. -/
def infinite : Nat := Nat.pow 2 1024 - Nat.pow 2 970

/-- Whether a number is rounded to infinity in double precision. Numbers with another count of
digits before the point than `infinite` need no exact comparison. -/
def Decimal.isInfinite (number : Decimal) : Bool :=
  let size := Int.ofNat number.digits.length + number.power
  if number.digits.isEmpty || size < 309 then false
  else if 309 < size then true
  else
    let value := digitsValue 10 number.digits
    if number.power < 0 then infinite * Nat.pow 10 number.power.natAbs ≤ value
    else infinite ≤ value * Nat.pow 10 number.power.natAbs

/-- A number with a fraction or an exponent. A positive number may not be too large for double
precision. -/
def float? (chars : List Char) : Option (Datum × List Char) := do
  let (negative, digits) := unsign chars
  match digits with
  | 'i' :: 'n' :: 'f' :: rest => return (.number, rest)
  | 'n' :: 'a' :: 'n' :: rest => return (.number, rest)
  | _ =>
    let whole ← afterWhole? digits
    let after ←
      match whole with
      | '.' :: rest =>
        (afterDigits? Char.isDigit false rest).map fun after =>
          (afterExponent? after).getD after
      | _ => afterExponent? whole
    if !negative && (decimal (taken digits after)).isInfinite then none
    else return (.number, after)

/-- A number of exactly so many digits within bounds, and what follows it. -/
def field? (count low high : Nat) (chars : List Char) : Option (Nat × List Char) :=
  let digits := chars.take count
  let value := digitsValue 10 digits
  if digits.length = count && digits.all Char.isDigit && low ≤ value && value ≤ high then
    some (value, chars.drop count)
  else none

/-- What follows a given character. -/
def after? (c : Char) (chars : List Char) : Option (List Char) :=
  match chars with
  | other :: rest => if other = c then some rest else none
  | [] => none

/-- The number of days of a month. -/
def daysIn (year month : Nat) : Nat :=
  if month = 2 then
    if (year % 4 = 0 && year % 100 ≠ 0) || year % 400 = 0 then 29 else 28
  else if month = 4 || month = 6 || month = 9 || month = 11 then 30
  else 31

/-- What follows a date. -/
def afterDate? (chars : List Char) : Option (List Char) := do
  let (year, rest) ← field? 4 0 9999 chars
  let (month, rest) ← field? 2 1 12 (← after? '-' rest)
  let (_, rest) ← field? 2 1 (daysIn year month) (← after? '-' rest)
  return rest

/-- What follows a time. -/
def afterTime? (chars : List Char) : Option (List Char) := do
  let (_, rest) ← field? 2 0 23 chars
  let (_, rest) ← field? 2 0 59 (← after? ':' rest)
  let (_, rest) ← field? 2 0 60 (← after? ':' rest)
  match rest with
  | '.' :: c :: digits =>
    if c.isDigit then return digits.dropWhile Char.isDigit else return rest
  | _ => return rest

/-- What follows the offset of a time, if there is one. -/
def afterOffset? (chars : List Char) : Option (List Char) :=
  match chars with
  | 'Z' :: rest => some rest
  | 'z' :: rest => some rest
  | sign :: rest =>
    if sign = '+' || sign = '-' then do
      let (_, rest) ← field? 2 0 23 rest
      let (_, rest) ← field? 2 0 59 (← after? ':' rest)
      return rest
    else some chars
  | [] => some []

/-- The time after a date, if there is one. -/
def afterDateTime? (chars : List Char) : Option (List Char) :=
  match chars with
  | c :: rest =>
    if c = 'T' || c = 't' || c = ' ' then
      match afterTime? rest with
      | some after => afterOffset? after
      | none => some chars
    else some chars
  | [] => some []

/-- A date, a time or both, as a record of its own kind. -/
def date? (chars : List Char) : Option (Datum × List Char) :=
  let after := ((afterDate? chars).bind afterDateTime?).or (afterTime? chars)
  after.map fun rest =>
    (.object [("$__toml_private_datetime", .text (String.ofList (taken chars rest)))], rest)

/-- A date or a number. -/
def number? (chars : List Char) : Option (Datum × List Char) :=
  (date? chars).or ((float? chars).or ((marked? chars).or (integer? chars)))

/-! ### Values -/

mutual

/-- A value at some depth of brackets. -/
def value? : Nat → Nat → List Char → Option (Datum × List Char)
  | 0, _, _ => none
  | fuel + 1, depth, chars =>
    match chars with
    | '[' :: rest => if depth + 1 < depthLimit then items? fuel (depth + 1) [] rest else none
    | '{' :: rest =>
      if depth + 1 < depthLimit then
        match skip rest with
        | '}' :: after => some (.record [], after)
        | rest => entries? fuel (depth + 1) {} rest
      else none
    | 't' :: _ => (Json.afterWord? "true" chars).map (Datum.flag true, ·)
    | 'f' :: _ => (Json.afterWord? "false" chars).map (Datum.flag false, ·)
    | '"' :: _ => (text? chars).map fun (text, after) => (.text (String.ofList text), after)
    | '\'' :: _ => (text? chars).map fun (text, after) => (.text (String.ofList text), after)
    | _ => number? chars

/-- The rest of the items of a list up to its closing bracket. -/
def items? : Nat → Nat → List Datum → List Char → Option (Datum × List Char)
  | 0, _, _, _ => none
  | fuel + 1, depth, items, chars =>
    match dropLines (chars.length + 1) chars with
    | ']' :: after => some (.list items, after)
    | rest =>
      match value? fuel depth rest with
      | some (item, after) =>
        match dropLines (after.length + 1) after with
        | ',' :: after => items? fuel depth (items ++ [item]) after
        | ']' :: after => some (.list (items ++ [item]), after)
        | _ => none
      | none => none

/-- The rest of the entries of a table in braces. -/
def entries? : Nat → Nat → Table → List Char → Option (Datum × List Char)
  | 0, _, _, _ => none
  | fuel + 1, depth, table, chars =>
    match key? chars with
    | some (path, key, '=' :: after) =>
      match value? fuel depth (skip after) with
      | some (datum, after) =>
        match table.add path key datum, skip after with
        | some table, ',' :: after => entries? fuel depth table after
        | some table, '}' :: after => some (table.toItem.toDatum, after)
        | _, _ => none
      | none => none
    | _ => none

end

/-! ### Documents -/

/-- A document while it is being read: all tables but the last one opened, and that one with its
path. -/
structure Document where
  root : Table := {}
  current : Table := {}
  path : List String := []
  /-- Whether the last table opened belongs to a list of tables. -/
  listed : Bool := false
  deriving Inhabited

namespace Document

/-- The tables of a document with the last one put into its place. -/
def closed? (document : Document) : Option Table :=
  match document.path.getLast? with
  | none => some document.current
  | some key =>
    let change := fun (parent : Table) =>
      if document.listed then
        match parent.get? key with
        | some (.tables items) =>
          some (parent.put key (.tables (items ++ [document.current.entries])))
        | none => some (parent.put key (.tables [document.current.entries]))
        | _ => none
      else some (parent.put key document.current.toItem)
    document.root.descend false change document.path.dropLast

/-- The tables of a document as data. -/
def toDatum? (document : Document) : Option Datum := document.closed?.map (·.toItem.toDatum)

/-- What is at the end of a path of tables. -/
def itemAt? (root : Table) (path : List String) (key : String) : Option (Option Item) :=
  -- The path is followed as it would be for a change; only what is found there matters.
  let rec find : List String → Table → Option (Option Item)
    | [], table => some (table.get? key)
    | step :: rest, table =>
      match table.get? step with
      | none => some none
      | some (.value _) => none
      | some (.tables items) =>
        match items.getLast? with
        | some entries => find rest { entries }
        | none => none
      | some (.table implicit dotted entries) => find rest { implicit, dotted, entries }
  find path root

/-- Opens the table of a header. Only a table that other headers imply may be there already. -/
def openTable? (document : Document) (path : List String) (key : String) : Option Document := do
  let root ← document.closed?
  match ← itemAt? root path key with
  | none => return { root, path := path ++ [key] }
  | some (.table true false entries) =>
    return { root, current := { entries }, path := path ++ [key] }
  | some _ => none

/-- Opens one more table of a list of tables. -/
def openListed? (document : Document) (path : List String) (key : String) : Option Document := do
  let root ← document.closed?
  match ← itemAt? root path key with
  | none | some (.tables _) => return { root, path := path ++ [key], listed := true }
  | some _ => none

/-- Adds a line with a key and a value. -/
def add? (document : Document) (path : List String) (key : String) (datum : Datum) :
    Option Document :=
  (document.current.add path key datum).map fun current => { document with current }

end Document

/-- Reads a header, whose first bracket is read already. -/
def header? (document : Document) (chars : List Char) : Option (Document × List Char) :=
  match chars with
  | '[' :: rest =>
    match key? rest with
    | some (path, key, ']' :: ']' :: after) => do
      return (← document.openListed? path key, ← afterLine? after)
    | _ => none
  | _ =>
    match key? chars with
    | some (path, key, ']' :: after) => do
      return (← document.openTable? path key, ← afterLine? after)
    | _ => none

/-- Reads a line with a key and a value. -/
def assignment? (document : Document) (chars : List Char) : Option (Document × List Char) :=
  match key? chars with
  | some (path, key, '=' :: after) => do
    let (datum, after) ← value? (2 * chars.length + 2) 0 (skip after)
    return (← document.add? path key datum, ← afterLine? after)
  | _ => none

/-- Reads lines up to the end of the text. -/
def lines? : Nat → Document → List Char → Option Document
  | 0, _, _ => none
  | fuel + 1, document, chars =>
    match skip chars with
    | [] => some document
    | '#' :: rest => do lines? fuel document (← afterLine? ('#' :: rest))
    | '[' :: rest => do
      let (document, after) ← header? document rest
      lines? fuel document after
    | c :: rest =>
      match afterNewline? (c :: rest) with
      | some after => lines? fuel document after
      | none => do
        let (document, after) ← assignment? document (c :: rest)
        lines? fuel document after

/-- The datum that a text stands for. A mark of the byte order at its start is passed over. -/
def parse? (text : String) : Option Datum :=
  let chars :=
    match text.toList with
    | c :: rest => if c.toNat = 0xFEFF then rest else c :: rest
    | [] => []
  (lines? (chars.length + 1) {} chars).bind Document.toDatum?

end Toml

end DocStubs
