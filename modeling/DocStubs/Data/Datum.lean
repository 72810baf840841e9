/-!
# Data

A common form for what manifests and configuration files hold, whatever format they are written
in. Records keep their fields in the order they are written, repeated ones included, because a
repeated field is an error in some places and not in others.

Readers of data return an option: a datum has the wanted form or it has not.

## Main definitions

* `Datum` — data
* `DatumStyle` — what the formats of data differ in
* `Datum.text?`, `Datum.flag?`, `Datum.natural?`, `Datum.each?` — reading simple data
* `Datum.fields?` — the fields of a record, which may also be written as a list
* `Datum.word?` — a word that may be written as a record
-/

namespace DocStubs

/-- Data. -/
inductive Datum where
  | null
  | flag (value : Bool)
  /-- A whole number written with digits only. -/
  | natural (value : Nat)
  /-- Any other number. -/
  | number
  | text (value : String)
  /-- A text with an escape that stands for no character. -/
  | garbled
  | list (items : List Datum)
  /-- Fields with their keys; a key without a value is garbled. -/
  | record (fields : List (Option String × Datum))
  deriving Repr, Inhabited

/-- What the formats of data differ in. -/
structure DatumStyle where
  /-- Which data may follow a word that is written as a record. -/
  isEmpty : Datum → Bool
  /-- Whether a list that stands for a record may hold more items than the record has fields. -/
  allowsExtra : Bool

namespace Datum

/-- A record whose keys are plain texts. -/
def object (fields : List (String × Datum)) : Datum :=
  record (fields.map fun (key, value) => (some key, value))

/-- A text that may be missing. -/
def ofText? : Option String → Datum
  | some value => text value
  | none => null

/-! ### Simple data -/

/-- The text that a datum is. -/
def text? : Datum → Option String
  | text value => some value
  | _ => none

/-- The truth value that a datum is. -/
def flag? : Datum → Option Bool
  | flag value => some value
  | _ => none

/-- Numbers of 64 bits are smaller than this. -/
def naturalLimit : Nat := 0x10000000000000000

/-- The whole number that a datum is, if it fits into 64 bits. -/
def natural? : Datum → Option Nat
  | natural value => if value < naturalLimit then some value else none
  | _ => none

/-- Nothing for null, and else what the reader makes of a datum. -/
def optional? {α : Type} (read : Datum → Option α) : Datum → Option (Option α)
  | null => some none
  | datum => (read datum).map some

/-- The items of a list, all of them read by the reader. -/
def each? {α : Type} (read : Datum → Option α) : Datum → Option (List α)
  | list items => items.mapM read
  | _ => none

/-! ### Records -/

/-- The values that a list of fields holds under a key. -/
def valuesOf (key : String) (fields : List (Option String × Datum)) : List Datum :=
  (fields.filter (·.1 = some key)).map (·.2)

/-- The values of the named fields, in the order of the names. A record holds each of them at most
once, and may hold others. A list holds the values of the first few names, or of all of them and
more items where those are allowed. -/
def fields? (allowsExtra : Bool) (names : List String) : Datum → Option (List (Option Datum))
  | list items =>
    if allowsExtra || items.length ≤ names.length then
      some ((items.take names.length).map some ++
        List.replicate (names.length - items.length) none)
    else none
  | record fields =>
    if fields.all (·.1.isSome) && names.all fun name => (valuesOf name fields).length ≤ 1 then
      some (names.map fun name => (valuesOf name fields).head?)
    else none
  | _ => none

/-- What the reader makes of a value, or the default if there is no value. -/
def orDefault {α : Type} (default : α) (read : Datum → Option α) : Option Datum → Option α
  | none => some default
  | some datum => read datum

/-- A word, or a record with the word as its only key and no more than an empty value. -/
def word? (isEmpty : Datum → Bool) : Datum → Option String
  | text value => some value
  | record [(some key, value)] => if isEmpty value then some key else none
  | _ => none

end Datum

end DocStubs
