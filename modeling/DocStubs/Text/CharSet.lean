/-!
# Sets of characters

A set of characters is kept as the ranges of code points that make it up, in increasing order and
with a gap between neighbours, so two sets are equal when their ranges are. The surrogates are no
characters: no range starts or ends at one of them, and a range that reaches over them holds the
characters on both sides.

## Main definitions

* `CharRange`, `CharSet` — ranges of code points, and sets made of them
* `CharSet.contains` — membership, by halving
* `CharSet.union`, `CharSet.intersection`, `CharSet.difference`, `CharSet.symmetric`,
  `CharSet.complement` — the operations on sets
* `CharSet.ofText` — a set from its ranges in hexadecimal digits
-/

namespace DocStubs

/-- All code points from the first to the last, both included. -/
structure CharRange where
  first : Nat
  last : Nat
  deriving DecidableEq, Repr, Inhabited

/-- A set of characters: its ranges in increasing order, with a gap between neighbours. -/
structure CharSet where
  ranges : Array CharRange
  deriving DecidableEq, Repr, Inhabited

/-- The last code point. -/
def lastCode : Nat := 0x10FFFF

/-- The code point of the character after a given one. -/
def codeAfter (code : Nat) : Nat := if code = 0xD7FF then 0xE000 else code + 1

/-- The code point of the character before a given one. -/
def codeBefore (code : Nat) : Nat := if code = 0xE000 then 0xD7FF else code - 1

namespace CharSet

/-! ### Building sets -/

/-- Joins the ranges that touch or overlap, from `current` on; the list is in order of the first
code points. -/
def joinFrom (current : CharRange) : List CharRange → List CharRange
  | [] => [current]
  | next :: rest =>
    if next.first ≤ current.last + 1 then
      joinFrom ⟨current.first, max current.last next.last⟩ rest
    else current :: joinFrom next rest

/-- Joins the ranges of a list that touch or overlap. -/
def join : List CharRange → List CharRange
  | [] => []
  | range :: rest => joinFrom range rest

/-- Whether the first range starts before the second one or with it. -/
def startsFirst (left right : CharRange) : Bool := left.first ≤ right.first

/-- The set of all code points in some range of a list. -/
def ofRanges (ranges : List CharRange) : CharSet := ⟨(join (ranges.mergeSort startsFirst)).toArray⟩

/-- The set without members. -/
def empty : CharSet := ⟨#[]⟩

/-- All characters. -/
def any : CharSet := ⟨#[⟨0, lastCode⟩]⟩

/-- The set of one code point. -/
def single (code : Nat) : CharSet := ⟨#[⟨code, code⟩]⟩

/-- The set of a range. -/
def range (first last : Nat) : CharSet := ⟨#[⟨first, last⟩]⟩

/-- The set of the characters of a text. -/
def ofChars (text : String) : CharSet := ofRanges (text.toList.map fun c => ⟨c.toNat, c.toNat⟩)

/-- The value of a hexadecimal digit. -/
def digitValue (c : Char) : Nat := if c.isDigit then c.toNat - 48 else c.toNat - 55

/-- Reads ranges: `value` is the number being read, and `first?` the one before the hyphen. -/
def readRanges (first? : Option Nat) (value : Nat) : List Char → List CharRange
  | [] => [⟨first?.getD value, value⟩]
  | c :: rest =>
    if c = ' ' then ⟨first?.getD value, value⟩ :: readRanges none 0 rest
    else if c = '-' then readRanges (some value) 0 rest
    else readRanges first? (16 * value + digitValue c) rest

/-- The set given by a text: code points in hexadecimal digits with blanks between them, and a
hyphen between the first and the last one of a range. -/
def ofText (text : String) : CharSet := ofRanges (readRanges none 0 text.toList)

/-! ### Membership -/

/-- Whether the set has no member. -/
def isEmpty (set : CharSet) : Bool := set.ranges.isEmpty

/-- Looks for a code point between two places of the table; `fuel` bounds the halvings. -/
def search (ranges : Array CharRange) (code : Nat) : Nat → Nat → Nat → Bool
  | 0, _, _ => false
  | fuel + 1, low, high =>
    if low < high then
      let middle := (low + high) / 2
      match ranges[middle]? with
      | some range =>
        if code < range.first then search ranges code fuel low middle
        else if range.last < code then search ranges code fuel (middle + 1) high
        else true
      | none => false
    else false

/-- Whether a code point is in the set. -/
def contains (set : CharSet) (code : Nat) : Bool :=
  search set.ranges code (set.ranges.size + 1) 0 set.ranges.size

/-- The only member of the set, if it has just one. -/
def only? (set : CharSet) : Option Nat :=
  match set.ranges with
  | #[range] => if range.first = range.last then some range.first else none
  | _ => none

/-- Whether all members have codes below 128. -/
def isLatin (set : CharSet) : Bool := set.ranges.all (·.last < 128)

/-! ### Operations -/

/-- The members of both sets together. -/
def union (left right : CharSet) : CharSet :=
  ⟨(join (left.ranges.toList.merge right.ranges.toList startsFirst)).toArray⟩

/-- The members of several sets together. -/
def unions (sets : List CharSet) : CharSet := sets.foldl union empty

/-- The code points that two lists of ranges share. Each step drops a range of one of the lists,
and `fuel` bounds their number. -/
def common : Nat → List CharRange → List CharRange → List CharRange
  | 0, _, _ => []
  | _ + 1, [], _ => []
  | _ + 1, _, [] => []
  | fuel + 1, left :: lefts, right :: rights =>
    let first := max left.first right.first
    let last := min left.last right.last
    let rest :=
      if left.last < right.last then common fuel lefts (right :: rights)
      else common fuel (left :: lefts) rights
    if first ≤ last then ⟨first, last⟩ :: rest else rest

/-- The ranges that two lists of ranges share. -/
def shared (left right : List CharRange) : CharSet :=
  ⟨(common (left.length + right.length + 1) left right).toArray⟩

/-- The members that two sets share. -/
def intersection (left right : CharSet) : CharSet :=
  shared left.ranges.toList right.ranges.toList

/-- What lies from a code point on between the ranges of a list and after them, as the first and
the last character of every gap. Between the characters on both sides of the surrogates there is
a gap without characters; there the first one comes after the last one. -/
def gapsFrom (code : Nat) : List CharRange → List (Nat × Nat)
  | [] => if code ≤ lastCode then [(code, lastCode)] else []
  | range :: rest =>
    let after := gapsFrom (codeAfter range.last) rest
    if code < range.first || range.first = 0xE000 then (code, codeBefore range.first) :: after
    else after

/-- The gaps of a set. -/
def gaps (set : CharSet) : List (Nat × Nat) := gapsFrom 0 set.ranges.toList

/-- All characters that are not in the set. A gap without characters counts as the two characters
around it. -/
def complement (set : CharSet) : CharSet :=
  ⟨(set.gaps.map fun (first, last) => ⟨min first last, max first last⟩).toArray⟩

/-- The members of the first set that are not in the second one. -/
def difference (left right : CharSet) : CharSet :=
  let outside := right.gaps.filter fun (first, last) => first ≤ last
  shared left.ranges.toList (outside.map fun (first, last) => ⟨first, last⟩)

/-- The members of just one of two sets. -/
def symmetric (left right : CharSet) : CharSet :=
  difference (union left right) (intersection left right)

end CharSet

end DocStubs
