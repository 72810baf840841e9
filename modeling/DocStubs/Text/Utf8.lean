import DocStubs.Text.CharSet

/-!
# Sets of characters as sequences of bytes

Written in UTF-8, a character is one to four bytes. The characters of a range are written as a few
kinds of byte sequences, each with a range of bytes at every place: the range is cut where the
number of bytes changes, and then so that all but the first bytes of a piece run through all their
values.

## Main definitions

* `ByteRange`, `ByteSequence` — ranges of bytes, and a range at every place
* `CharRange.byteSequences` — the sequences of a range of characters, in order
* `CharSet.byteSequences` — those of a set
-/

namespace DocStubs

/-- All bytes from the first to the last, both included. -/
structure ByteRange where
  first : Nat
  last : Nat
  deriving DecidableEq, Repr, Inhabited

/-- Sequences of bytes with a range of bytes at every place. -/
abbrev ByteSequence := List ByteRange

/-- The bytes of a character. -/
def utf8Bytes (code : Nat) : List Nat :=
  if code < 0x80 then [code]
  else if code < 0x800 then [0xC0 + code / 64, 0x80 + code % 64]
  else if code < 0x10000 then [0xE0 + code / 4096, 0x80 + code / 64 % 64, 0x80 + code % 64]
  else
    [0xF0 + code / 262144, 0x80 + code / 4096 % 64, 0x80 + code / 64 % 64, 0x80 + code % 64]

namespace CharRange

/-- The pieces of a range before and after a place, those without code points left out. -/
def cutAfter (code : Nat) (range : CharRange) : List CharRange :=
  if range.first ≤ code && code < range.last then [⟨range.first, code⟩, ⟨code + 1, range.last⟩]
  else [range]

/-- The pieces of a range below and above the surrogates. -/
def cutSurrogates (range : CharRange) : List CharRange :=
  let pieces : List CharRange :=
    if range.first < 0xE000 && 0xD7FF < range.last then
      [⟨range.first, 0xD7FF⟩, ⟨0xE000, range.last⟩]
    else [range]
  pieces.filter fun piece => piece.first ≤ piece.last

/-- Cuts a range at the blocks of a size, of sixty-four such blocks, and so on, for a number of
levels: what stands before the first full block and after the last one is cut off. -/
def cutBlocks : Nat → Nat → CharRange → List CharRange
  | 0, _, range => [range]
  | levels + 1, size, range =>
    if range.first / size = range.last / size then [range]
    else
      let offset := range.first % size
      let first := if offset = 0 then range.first else range.first - offset + size
      let before : List CharRange :=
        if offset = 0 then [] else [⟨range.first, first - 1⟩]
      if first / size = range.last / size then before ++ [⟨first, range.last⟩]
      else
        let rest := range.last % size
        if rest + 1 = size then before ++ cutBlocks levels (64 * size) ⟨first, range.last⟩
        else
          before ++ cutBlocks levels (64 * size) ⟨first, range.last - rest - 1⟩ ++
            [⟨range.last - rest, range.last⟩]

/-- The sequences of bytes of the characters in a range. -/
def byteSequences (range : CharRange) : List ByteSequence :=
  let pieces := ((range.cutSurrogates.flatMap (cutAfter 0x7F)).flatMap (cutAfter 0x7FF)).flatMap
    (cutAfter 0xFFFF)
  let blocks := pieces.flatMap fun piece =>
    if piece.last < 0x80 then [piece] else cutBlocks 3 64 piece
  blocks.map fun block => List.zipWith ByteRange.mk (utf8Bytes block.first) (utf8Bytes block.last)

end CharRange

/-- The sequences of bytes of the characters in a set. -/
def CharSet.byteSequences (set : CharSet) : List ByteSequence :=
  set.ranges.toList.flatMap (·.byteSequences)

end DocStubs
