import DocStubs.Code.Terminal

/-!
# Layout

Lines, indentations and strings are no matter of a vocabulary: what ends a block or a string
depends on what was opened before. A `Layout` remembers what is open, the indentations of the
blocks around a place and the quotes of the strings around it, and `Layout.scan` finds the
terminals that follow from it.

An indentation is remembered up to a multiple of 256 only. The indentation of a line is its number
of blanks after the last character that returns to the margin, where a tab counts eight. Comments
of their own lines are skipped while the next line is looked for, but a block does not end before
a comment that belongs to it.

## Main definitions

* `Quote` — how a string was opened
* `Layout` — what is open at a place
* `Wishes` — which terminals of the layout are of use at a place
* `Quote.contentAt` — the plain text of a string
* `Margin.skip` — the blanks and comments before the next line
* `Layout.scan` — the terminal of the layout at a place
-/

namespace DocStubs.Code

/-- How a string was opened. -/
structure Quote where
  mark : Char
  isTriple : Bool
  isRaw : Bool
  isBytes : Bool
  /-- Whether the string has holes. -/
  isFormat : Bool
  deriving DecidableEq, Repr, Inhabited

/-- What is open at a place. -/
structure Layout where
  /-- The indentations of the blocks, the innermost first. -/
  indents : List Nat := []
  /-- The strings, the innermost first. -/
  quotes : List Quote := []
  /-- Whether the last quote that was read opened a string with holes. -/
  inFormat : Bool := false
  deriving DecidableEq, Repr, Inhabited

/-- Which terminals of the layout are of use at a place. -/
structure Wishes where
  newline : Bool
  indent : Bool
  dedent : Bool
  stringStart : Bool
  stringContent : Bool
  doubledBrace : Bool
  /-- One of the closing brackets. -/
  closing : Bool
  /-- The keyword of a handler in a `try` statement. -/
  handler : Bool
  deriving DecidableEq, Repr, Inhabited

namespace Wishes

/-- The wishes of a place that allows some terminals. -/
def ofAllowed (allows : Terminal → Bool) : Wishes :=
  { newline := allows .newline, indent := allows .indent, dedent := allows .dedent
    stringStart := allows .stringStart, stringContent := allows .stringContent
    doubledBrace := allows .doubledBrace
    closing := allows (.literal ")") || allows (.literal "]") || allows (.literal "\x7d")
    handler := allows (.literal "except") }

/-- The wishes of a place where nothing fits. -/
def everything : Wishes := ofAllowed fun _ => true

/-- No place wishes for a block and for the text of a string, except one where nothing fits. -/
def isLost (wishes : Wishes) : Bool := wishes.stringContent && wishes.indent

/-- Whether comments are looked through for the next line. -/
def skipsComments (wishes : Wishes) : Bool :=
  wishes.indent || wishes.dedent || wishes.newline || wishes.handler

end Wishes

/-! ### The text of strings -/

namespace Quote

/-- How the text of a string ends. -/
inductive Ending where
  /-- The first characters are plain text. -/
  | text (size : Nat)
  /-- There is no text, and the first characters close the string. -/
  | close (size : Nat)
  /-- There is neither. -/
  | neither
  /-- The text that is read ends before the string does. -/
  | open (size : Nat)
  deriving DecidableEq, Repr, Inhabited

/-- What belongs to a backslash before. -/
inductive Pending where
  | none
  /-- A quote or a backslash, and then a line break. -/
  | marked
  | lineBreak
  | lineFeed
  /-- Any one character. -/
  | one
  deriving DecidableEq, Repr, Inhabited

/-- The ending at a place where the string cannot go on; text counts only if there is some. -/
def Ending.at (hasText : Bool) (size : Nat) : Ending := if hasText then .text size else .neither

/-- The ending at a quote mark, given what follows it. -/
def endingAtMark (quote : Quote) (hasText : Bool) (size : Nat) (rest : List Char) : Ending :=
  if quote.isTriple then
    match rest with
    | a :: b :: _ =>
      if a = quote.mark && b = quote.mark then
        if hasText then .text size else .close (size + 3)
      else if a = quote.mark then .text (size + 2)
      else .text (size + 1)
    | [a] => if a = quote.mark then .text (size + 2) else .text (size + 1)
    | [] => .text (size + 1)
  else if hasText then .text size
  else .close (size + 1)

/-- How the text of a string ends, when some characters of it are read and the given ones
follow. -/
def endingFrom (quote : Quote) (pending : Pending) (hasText : Bool) (size : Nat) :
    List Char → Ending
  | [] => .open size
  | c :: rest =>
    if pending = .one then quote.endingFrom .none true (size + 1) rest
    else if pending = .marked && (c = quote.mark || c = '\\') then
      quote.endingFrom .lineBreak hasText (size + 1) rest
    else if (pending = .marked || pending = .lineBreak) && c = '\r' then
      quote.endingFrom .lineFeed hasText (size + 1) rest
    else if pending ≠ .none && c = '\n' then quote.endingFrom .none hasText (size + 1) rest
    else if c = '\x00' then .open size
    else if (c = '{' || c = '}') && quote.isFormat then .at hasText size
    else if c = '\\' then
      if quote.isRaw then quote.endingFrom .marked hasText (size + 1) rest
      else if quote.isBytes then
        match rest with
        | d :: rest =>
          if d = 'N' || d = 'u' || d = 'U' then quote.endingFrom .one hasText (size + 2) rest
          else .at hasText size
        | [] => .at hasText size
      else .at hasText size
    else if c = quote.mark then quote.endingAtMark hasText size rest
    else if c = '\n' && hasText && !quote.isTriple then .neither
    else quote.endingFrom .none true (size + 1) rest

/-- How the text of a string ends that goes on with the given characters. -/
def contentAt (quote : Quote) (chars : List Char) : Ending := quote.endingFrom .none false 0 chars

end Quote

/-! ### Blanks and comments -/

/-- What stands before the next line, or before the next character of the same line. -/
structure Margin where
  /-- How many characters that is. -/
  size : Nat := 0
  /-- Whether a line ends there. -/
  endsLine : Bool := false
  indent : Nat := 0
  /-- The indentation of the first comment. -/
  comment? : Option Nat := none
  deriving DecidableEq, Repr, Inhabited

namespace Margin

/-- What the last character has begun. -/
inductive Begun where
  | nothing | comment | continuation | carriage
  deriving DecidableEq, Repr, Inhabited

/-- Goes over blanks, comments and continued lines. There is no way on from a comment at the end of
a line, or from a stray backslash. -/
def skipFrom (comments : Bool) (begun : Begun) (margin : Margin) : List Char → Option Margin
  | [] => some { margin with endsLine := true, indent := 0 }
  | c :: rest =>
    let next := { margin with size := margin.size + 1 }
    match begun with
    | .comment =>
      if c = '\n' || c = '\x00' then skipFrom comments .nothing { next with indent := 0 } rest
      else skipFrom comments .comment next rest
    | .continuation =>
      if c = '\r' then skipFrom comments .carriage next rest
      else if c = '\n' then skipFrom comments .nothing next rest
      else none
    | .carriage => if c = '\n' then skipFrom comments .nothing next rest else none
    | .nothing =>
      if c = '\n' then skipFrom comments .nothing { next with endsLine := true, indent := 0 } rest
      else if c = ' ' then skipFrom comments .nothing { next with indent := margin.indent + 1 } rest
      else if c = '\r' || c = '\x0c' then skipFrom comments .nothing { next with indent := 0 } rest
      else if c = '\t' then
        skipFrom comments .nothing { next with indent := margin.indent + 8 } rest
      else if c = '#' && comments then
        if margin.endsLine then
          skipFrom comments .comment { next with comment? := margin.comment?.or margin.indent } rest
        else none
      else if c = '\\' then skipFrom comments .continuation next rest
      else some margin

/-- The blanks, comments and continued lines at the start of a text. -/
def skip (comments : Bool) (chars : List Char) : Option Margin :=
  skipFrom comments .nothing {} chars

end Margin

/-! ### The opening of strings -/

/-- The opening of a string at the start of a text: the letters before the quote, how many
characters it has, and the quote. -/
def Quote.openingAt (quote : Quote) (size : Nat) : List Char → Option (Quote × Nat)
  | [] => none
  | c :: rest =>
    if c = 'f' || c = 'F' then { quote with isFormat := true }.openingAt (size + 1) rest
    else if c = 'r' || c = 'R' then { quote with isRaw := true }.openingAt (size + 1) rest
    else if c = 'b' || c = 'B' then { quote with isBytes := true }.openingAt (size + 1) rest
    else if c = 'u' || c = 'U' then quote.openingAt (size + 1) rest
    else if c = '`' then some ({ quote with mark := c }, size + 1)
    else if c = '"' || c = '\'' then
      if [c, c].isPrefixOf rest then some ({ quote with mark := c, isTriple := true }, size + 3)
      else some ({ quote with mark := c }, size + 1)
    else none

/-- The opening of a string at the start of a text. -/
def Quote.opening? (chars : List Char) : Option (Quote × Nat) :=
  Quote.openingAt
    { mark := '"', isTriple := false, isRaw := false, isBytes := false, isFormat := false } 0 chars

/-! ### Terminals -/

namespace Layout

/-- A terminal of the layout, with the layout after it. -/
structure Found where
  terminal : Terminal
  start : Spot
  stop : Spot
  layout : Layout
  deriving Repr, Inhabited

/-- How many levels of blocks and strings are remembered together. -/
def capacity : Nat := 1022

/-- How many strings are remembered. -/
def quoteCapacity : Nat := 255

/-- The last elements of a list. -/
def lastOf {α : Type} (count : Nat) (list : List α) : List α := list.drop (list.length - count)

/-- What is remembered of a layout. -/
def remembered (layout : Layout) : Layout :=
  let quotes := lastOf quoteCapacity layout.quotes
  { layout with
    quotes, indents := (lastOf (capacity - quotes.length) layout.indents).map (· % 256) }

/-- The indentation of the innermost block. -/
def current (layout : Layout) : Nat := layout.indents.headD 0

/-- A terminal of the layout. -/
def found (terminal : Terminal) (start stop : Spot) (layout : Layout) : Option Found :=
  some { terminal, start, stop, layout := layout.remembered }

/-- The layout after a string has ended. -/
def closed (layout : Layout) : Layout :=
  { layout with quotes := layout.quotes.tail, inFormat := false }

/-- The end of a line, a new block, or the end of a block, at a place where a line ends. The
terminals have no text and stand at the given place. -/
def scanLine (layout : Layout) (wishes : Wishes) (spot : Spot) (margin : Margin) (next : Spot) :
    Option Found :=
  let opensString :=
    wishes.stringStart && (next.sees '"' || next.sees '\'' || next.sees '`')
  let isDedented := margin.indent < layout.current && !layout.inFormat &&
    margin.comment?.all (· < layout.current)
  if wishes.indent && layout.current < margin.indent then
    found .indent spot spot { layout with indents := margin.indent % 65536 :: layout.indents }
  else if (wishes.dedent || (!wishes.newline && !opensString && !wishes.closing)) && isDedented then
    found .dedent spot spot { layout with indents := layout.indents.tail }
  else if wishes.newline && !wishes.isLost then found .newline spot spot layout
  else none

/-- The opening of a string. -/
def scanOpening (layout : Layout) (wishes : Wishes) (margin : Margin) (next : Spot) :
    Option Found :=
  if margin.comment?.isNone && wishes.stringStart then
    match Quote.opening? next.rest with
    | some (quote, size) =>
      found .stringStart next (next.forward size)
        { layout with quotes := quote :: layout.quotes, inFormat := quote.isFormat }
    | none => none
  else none

/-- What is found outside of strings. -/
def scanOutside (layout : Layout) (wishes : Wishes) (spot : Spot) : Option Found :=
  match Margin.skip wishes.skipsComments spot.rest with
  | none => none
  | some margin =>
    let next := spot.forward margin.size
    let line := if margin.endsLine then layout.scanLine wishes spot margin next else none
    line.or (layout.scanOpening wishes margin next)

/-- The terminal of the layout at a place. -/
def scan (layout : Layout) (wishes : Wishes) (spot : Spot) : Option Found :=
  match layout.quotes with
  | quote :: _ =>
    let atBrace := quote.isFormat && (spot.sees '{' || spot.sees '}')
    if wishes.doubledBrace && !wishes.isLost && atBrace then
      if spot.next.front? = spot.front? then
        found .doubledBrace spot spot.next.next layout
      else none
    else if wishes.stringContent && !wishes.isLost then
      match quote.contentAt spot.rest with
      | .text size => found .stringContent spot (spot.forward size) layout
      | .close size => found .stringEnd spot (spot.forward size) layout.closed
      | .neither => none
      | .open size => layout.scanOutside wishes (spot.forward size)
    else layout.scanOutside wishes spot
  | [] => layout.scanOutside wishes spot

end Layout

end DocStubs.Code
