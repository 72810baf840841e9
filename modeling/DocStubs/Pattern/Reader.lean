import DocStubs.Pattern.Classes
import DocStubs.Pattern.Size
import DocStubs.Text.Blank
import DocStubs.Text.CaseFold
import DocStubs.Text.Letter

/-!
# Reading patterns

The written form of patterns. Flags hold from where they are set to the end of the group, so they
are part of the state of reading, and a pattern comes out with all of them worked in. There are
no references to groups and no conditions on texts of any length before or after a place.

Every reader gives up without a reason: a text is a pattern or it is none. A text is none, too,
when its parts are nested too deep or its machines would be too large.

## Main definitions

* `PatternFlags` — what the flags of a pattern can set
* `PatternReader` — reading actions
* `PatternReader.escape`, `PatternReader.brackets`, `PatternReader.group`,
  `PatternReader.alternatives` — the parts of a pattern
* `Pattern.parse?` — the pattern that a text stands for
-/

namespace DocStubs

/-- What the flags of a pattern can set. -/
structure PatternFlags where
  ignoreCase : Bool := false
  /-- Whether lines are searched one by one. -/
  multiLine : Bool := false
  /-- Whether the dot stands for line feeds, too. -/
  dotAll : Bool := false
  /-- Whether a carriage return ends a line, too. -/
  carriage : Bool := false
  /-- Whether only Latin characters belong to the named classes. -/
  latin : Bool := false
  /-- Whether blanks and comments may be put between the parts of a pattern. -/
  spaced : Bool := false
  /-- Whether repetitions prefer short matches unless told otherwise. -/
  preferShort : Bool := false
  deriving Repr, Inhabited

/-- The text still to be read, the flags that hold there, and the number and the names of the
groups so far. -/
structure PatternCursor where
  chars : List Char
  flags : PatternFlags := {}
  groups : Nat := 0
  names : List (List Char) := []
  deriving Repr, Inhabited

/-- Reading actions. -/
abbrev PatternReader := StateT PatternCursor Option

namespace PatternReader

/-- Parts may be nested this deep. -/
def nestingLimit : Nat := 250

/-! ### Characters -/

/-- Gives up. -/
def refuse {α : Type} : PatternReader α := fun _ => none

/-- The next character. -/
def peek : PatternReader (Option Char) := return (← get).chars.head?

/-- The flags that hold here. -/
def flags : PatternReader PatternFlags := return (← get).flags

/-- A text without the blanks and comments at its start. -/
def dropSpace (comment : Bool) : List Char → List Char
  | [] => []
  | c :: rest =>
    if comment then dropSpace (c ≠ '\n') rest
    else if isBlank c then dropSpace false rest
    else if c = '#' then dropSpace true rest
    else c :: rest

/-- Passes over blanks and comments where they may be put between parts. -/
def skipSpace : PatternReader Unit :=
  modify fun cursor =>
    if cursor.flags.spaced then { cursor with chars := dropSpace false cursor.chars } else cursor

/-- Passes over the next character. -/
def bump : PatternReader Unit :=
  modify fun cursor => { cursor with chars := cursor.chars.drop 1 }

/-- Passes over the next character and the space after it, and gives up at the end. -/
def advance : PatternReader Unit := do
  bump
  skipSpace
  if (← peek).isNone then refuse

/-- Passes over a text if it comes next. -/
def accept (text : String) : PatternReader Bool := do
  let cursor ← get
  if text.toList.isPrefixOf cursor.chars then
    set { cursor with chars := cursor.chars.drop text.length }
    return true
  else return false

/-- Passes over characters as long as they pass a test, with the space after each of them. -/
def takeSpaced (test : Char → Bool) : Nat → PatternReader (List Char)
  | 0 => return []
  | fuel + 1 => do
    match ← peek with
    | some c =>
      if test c then
        bump
        skipSpace
        return c :: (← takeSpaced test fuel)
      else return []
    | none => return []

/-- The number of characters left. -/
def left : PatternReader Nat := return (← get).chars.length

/-! ### Escapes -/

/-- What stands for one character or one place. -/
inductive Primitive where
  /-- A character; `byte` tells whether it is written by two hexadecimal digits. -/
  | literal (c : Char) (byte : Bool)
  | set (inner : CharSet)
  | look (condition : Look)

/-- Whether a character may stand after a backslash for itself: all but letters and digits. -/
def isEscapable (c : Char) : Bool := c.toNat < 128 && !c.isAlphanum && c ≠ '<' && c ≠ '>'

/-- The value of a hexadecimal digit. -/
def hexDigit? (c : Char) : Option Nat :=
  if c.isDigit then some (c.toNat - 48)
  else if 'a' ≤ c && c ≤ 'f' then some (c.toNat - 87)
  else if 'A' ≤ c && c ≤ 'F' then some (c.toNat - 55)
  else none

/-- The character with a hexadecimal code. -/
def hexChar? (digits : List Char) : Option Char := do
  let code ← digits.foldlM (fun value c => (hexDigit? c).map (16 * value + ·)) 0
  if code < 0xD800 || (0xE000 ≤ code && code ≤ 0x10FFFF) then some (Char.ofNat code) else none

/-- A given number of characters, with space between them. -/
def exactly : Nat → PatternReader (List Char)
  | 0 => return []
  | 1 => do
    match ← peek with
    | some c =>
      bump
      return [c]
    | none => refuse
  | count + 2 => do
    match ← peek with
    | some c =>
      advance
      return c :: (← exactly (count + 1))
    | none => refuse

/-- A character given by its code, whose introducing letter is read already. -/
def hex (count : Nat) : PatternReader Primitive := do
  if (← peek) = some '{' then
    advance
    let digits ← takeSpaced (· ≠ '}') (← left)
    if (← accept "\x7d") && !digits.isEmpty then
      match hexChar? digits with
      | some c => return .literal c false
      | none => refuse
    else refuse
  else
    match hexChar? (← exactly count) with
    | some c => return .literal c (count = 2)
    | none => refuse

/-- Splits a list at the first occurrence of a separator of one or two characters. -/
def splitAt? (separator : List Char) : List Char → Option (List Char × List Char)
  | [] => none
  | c :: rest =>
    if separator.isPrefixOf (c :: rest) then some ([], (c :: rest).drop separator.length)
    else (splitAt? separator rest).map fun (before, after) => (c :: before, after)

/-- The class of a property between braces, and whether its complement is meant. -/
def bracedProperty? (name : List Char) : Option (CharSet × Bool) :=
  match splitAt? ['!', '='] name with
  | some (key, value) => (CharSet.propertyValue? key value).map (·, true)
  | none =>
    match splitAt? [':'] name with
    | some (key, value) => (CharSet.propertyValue? key value).map (·, false)
    | none =>
      match splitAt? ['='] name with
      | some (key, value) => (CharSet.propertyValue? key value).map (·, false)
      | none => (CharSet.property? name).map (·, false)

/-- The complement of a set, if asked for. Where only Latin characters count, a complement would
hold bytes that are no characters. -/
def negateIf (negated : Bool) (set : CharSet) : PatternReader CharSet := do
  if !negated then return set
  else if (← flags).latin then refuse
  else return set.complement

/-- A set with the case of its members ignored, where the flags say so. -/
def foldCase (set : CharSet) : PatternReader CharSet := do
  let flags ← flags
  if !flags.ignoreCase then return set
  else if flags.latin then return set.foldLatinCase
  else return set.foldCase

/-- The class of a property, whose introducing letter is read already. -/
def property (negated : Bool) : PatternReader Primitive := do
  if (← flags).latin then refuse
  let found ←
    if (← peek) = some '{' then do
      advance
      let name ← takeSpaced (· ≠ '}') (← left)
      if ← accept "\x7d" then pure (bracedProperty? name) else refuse
    else
      match ← peek with
      | some '\\' => refuse
      | some c => do
        bump
        pure ((CharSet.property? [c]).map (·, false))
      | none => refuse
  match found with
  | some (set, inverted) => return .set (← negateIf (negated != inverted) (← foldCase set))
  | none => refuse

/-- What a name between braces after `\b` asks for. -/
def namedEdge? (latin : Bool) (name : String) : Option Look :=
  if name = "start" then some (.wordStart latin)
  else if name = "end" then some (.wordEnd latin)
  else if name = "start-half" then some (.afterWord latin)
  else if name = "end-half" then some (.beforeWord latin)
  else none

/-- The edge of a word, whose letter is read already. Braces with letters in them name a kind of
edge; with anything else in them they are a repetition. -/
def wordEdge : PatternReader Primitive := do
  let latin := (← flags).latin
  let isNamePart := fun (c : Char) => c.isAlpha || c = '-'
  if (← peek) = some '{' then
    let start ← get
    advance
    if (← peek).any isNamePart then
      let name ← takeSpaced isNamePart (← left)
      if ← accept "\x7d" then
        match namedEdge? latin (String.ofList name) with
        | some condition => return .look condition
        | none => refuse
      else refuse
    else
      set start
      return .look (.wordEdge latin)
  else return .look (.wordEdge latin)

/-- The class that a letter stands for. -/
def letterClass? (latin : Bool) (c : Char) : Option CharSet :=
  if c = 'd' then some (if latin then .latinDigit else Property.decimalDigits)
  else if c = 's' then some (if latin then .latinSpace else Property.blanks)
  else if c = 'w' then some (if latin then .latinWord else Property.patternWord)
  else none

/-- The character that a letter stands for. -/
def letterChar? (c : Char) : Option Char :=
  if c = 'a' then some '\x07'
  else if c = 'f' then some '\x0c'
  else if c = 't' then some '\t'
  else if c = 'n' then some '\n'
  else if c = 'r' then some '\r'
  else if c = 'v' then some '\x0b'
  else none

/-- What a backslash introduces; the backslash is read already. -/
def escape : PatternReader Primitive := do
  let latin := (← flags).latin
  match ← peek with
  | none => refuse
  | some c =>
    if c = 'x' || c = 'u' || c = 'U' then
      advance
      hex (if c = 'x' then 2 else if c = 'u' then 4 else 8)
    else if c = 'p' || c = 'P' then
      advance
      property (c = 'P')
    else
      bump
      match letterClass? latin c.toLower, letterChar? c with
      | some set, _ => return .set (← negateIf c.isUpper set)
      | none, some plain => return .literal plain false
      | none, none =>
        if c = 'A' then return .look .textStart
        else if c = 'z' then return .look .textEnd
        else if c = 'b' then wordEdge
        else if c = 'B' then return .look (.noWordEdge latin)
        else if c = '<' then return .look (.wordStart latin)
        else if c = '>' then return .look (.wordEnd latin)
        else if isEscapable c then return .literal c false
        else refuse

/-! ### Brackets -/

/-- The code of a literal between brackets. Where only Latin characters count, others are
refused. -/
def literalCode (c : Char) : PatternReader Nat := do
  if (← flags).latin && 128 ≤ c.toNat then refuse
  return c.toNat

/-- One item between brackets. -/
def bracketItem : PatternReader Primitive := do
  match ← peek with
  | some '\\' =>
    bump
    escape
  | some c =>
    bump
    return .literal c false
  | none => refuse

/-- The character that comes next, where a character has to come. -/
def peekSpaced : PatternReader Char := do
  skipSpace
  match ← peek with
  | some c => return c
  | none => refuse

/-- The first character of a text that is no blank, where a number sign counts as one blank. -/
def firstVisible? (chars : List Char) : Option Char :=
  match chars.dropWhile isBlank with
  | '#' :: rest => (rest.dropWhile isBlank).head?
  | rest => rest.head?

/-- The character after the next one, with space between them passed over. -/
def afterNext : PatternReader (Option Char) := do
  let cursor ← get
  let rest := cursor.chars.drop 1
  return if cursor.flags.spaced then firstVisible? rest else rest.head?

/-- One item between brackets, or a range between two of them. -/
def bracketRange : PatternReader CharSet := do
  let first ← bracketItem
  let c ← peekSpaced
  let follower ← afterNext
  if c ≠ '-' || follower = some ']' || follower = some '-' then
    match first with
    | .literal c _ => return .single (← literalCode c)
    | .set inner => return inner
    | .look _ => refuse
  else
    advance
    match first, ← bracketItem with
    | .literal low _, .literal high _ =>
      let first ← literalCode low
      let last ← literalCode high
      if first ≤ last then return .range first last else refuse
    | _, _ => refuse

/-- A class between brackets and colons, if one comes next; else nothing is read. -/
def namedClass? : PatternReader (Option CharSet) := do
  let start ← get
  if ← accept "[:" then
    let negated ← accept "^"
    let name := (← get).chars.takeWhile (· ≠ ':')
    modify fun cursor => { cursor with chars := cursor.chars.drop name.length }
    let closed ← accept ":]"
    match closed, CharSet.bracketClass? (String.ofList name) with
    | true, some set => return some (← negateIf negated (← foldCase set))
    | _, _ =>
      set start
      return none
  else return none

/-- The operations between the parts of brackets. -/
inductive SetOperation where
  | intersection | difference | symmetric

/-- What an operation makes of two sets. -/
def SetOperation.apply : SetOperation → CharSet → CharSet → CharSet
  | intersection => .intersection
  | difference => .difference
  | symmetric => .symmetric

/-- The operation that comes next. -/
def operation? : PatternReader (Option SetOperation) := do
  if ← accept "&&" then return some .intersection
  else if ← accept "--" then return some .difference
  else if ← accept "~~" then return some .symmetric
  else return none

/-- A set between brackets with the depth of nesting in it. -/
structure NestedSet where
  members : CharSet
  depth : Nat

/-- Items side by side between brackets: all their members, their number, and the depth of
nesting in them. -/
structure SetItems where
  members : CharSet := .empty
  count : Nat := 0
  depth : Nat := 0

namespace SetItems

/-- The items with one more. -/
def add (items : SetItems) (set : CharSet) (depth : Nat) : SetItems where
  members := items.members.union set
  count := items.count + 1
  depth := max items.depth depth

/-- The items as one set. Several items are nested in what holds them. -/
def close (items : SetItems) : NestedSet where
  members := items.members
  depth := if 2 ≤ items.count then items.depth + 1 else items.depth

end SetItems

/-- The items before an operation with the operation before them. -/
def closeOperation (earlier : Option (NestedSet × SetOperation)) (items : SetItems) :
    PatternReader NestedSet := do
  let right := items.close
  match earlier with
  | some (left, operation) =>
    let members := operation.apply (← foldCase left.members) (← foldCase right.members)
    return { members, depth := max left.depth right.depth + 1 }
  | none => return right

/-- Hyphens at the start of brackets, which stand for themselves. -/
def leadingHyphens : Nat → SetItems → PatternReader SetItems
  | 0, items => return items
  | fuel + 1, items => do
    if (← peek) = some '-' then
      advance
      leadingHyphens fuel (items.add (.single 45) 0)
    else return items

/-- The items at the start of brackets that stand for themselves only there: hyphens, or else a
closing bracket. -/
def leadingItems : PatternReader SetItems := do
  let items ← leadingHyphens (← left) {}
  if items.count = 0 && (← peek) = some ']' then
    advance
    return items.add (.single 93) 0
  else return items

/-- The rest of the items between brackets; `nested` reads brackets inside them. -/
def bracketRest (nested : PatternReader NestedSet) :
    Nat → Option (NestedSet × SetOperation) → SetItems → PatternReader NestedSet
  | 0, _, _ => refuse
  | fuel + 1, earlier, items => do
    let c ← peekSpaced
    if c = '[' then
      match ← namedClass? with
      | some set => bracketRest nested fuel earlier (items.add set 0)
      | none =>
        let inner ← nested
        bracketRest nested fuel earlier (items.add inner.members inner.depth)
    else if c = ']' then
      bump
      closeOperation earlier items
    else
      match ← operation? with
      | some operation =>
        let closed ← closeOperation earlier items
        bracketRest nested fuel (some (closed, operation)) {}
      | none =>
        let set ← bracketRange
        bracketRest nested fuel earlier (items.add set 0)

/-- A set between brackets, up to a depth of nesting. -/
def brackets : Nat → PatternReader NestedSet
  | 0 => refuse
  | fuel + 1 => do
    advance
    let negated := (← peek) = some '^'
    if negated then advance
    let items ← leadingItems
    let set ← bracketRest (brackets fuel) ((← left) + 1) none items
    return { members := ← negateIf negated (← foldCase set.members), depth := set.depth + 1 }

/-! ### Flags and groups -/

/-- Sets a flag by its letter. -/
def setFlag? (flags : PatternFlags) (value : Bool) (letter : Char) : Option PatternFlags :=
  if letter = 'i' then some { flags with ignoreCase := value }
  else if letter = 'm' then some { flags with multiLine := value }
  else if letter = 's' then some { flags with dotAll := value }
  else if letter = 'R' then some { flags with carriage := value }
  else if letter = 'u' then some { flags with latin := !value }
  else if letter = 'x' then some { flags with spaced := value }
  else if letter = 'U' then some { flags with preferShort := value }
  else none

/-- Reads flags up to a colon or a closing bracket. No letter stands twice, a hyphen before the
letters to be taken back stands at most once, and some letter follows it. -/
def flagLetters (flags : PatternFlags) (value : Bool) (seen : List Char) :
    List Char → Option (PatternFlags × List Char × List Char)
  | [] => none
  | c :: rest =>
    if c = ':' || c = ')' then
      if seen.head? = some '-' then none else some (flags, seen, c :: rest)
    else if seen.contains c then none
    else if c = '-' then flagLetters flags false ('-' :: seen) rest
    else
      match setFlag? flags value c with
      | some flags => flagLetters flags value (c :: seen) rest
      | none => none

/-- Whether a character may stand in the name of a group. -/
def isNamePart (c : Char) : Bool :=
  c = '_' || c = '.' || c = '[' || c = ']' || isAlphanumeric c

/-- The name of a group up to the angle that closes it. -/
def groupName : PatternReader Unit := do
  let cursor ← get
  let name := cursor.chars.takeWhile (· ≠ '>')
  let startsWell :=
    match name with
    | c :: rest => (c = '_' || isAlphabetic c) && rest.all isNamePart
    | [] => false
  if !startsWell || name.length = cursor.chars.length || cursor.names.contains name then refuse
  set { cursor with chars := cursor.chars.drop (name.length + 1), names := name :: cursor.names }

/-- A part of a pattern while its neighbours are being read. -/
structure Piece where
  pattern : Pattern
  /-- How deep its parts are nested. -/
  depth : Nat := 0
  /-- Whether a repetition may follow it. -/
  repeatable : Bool := true

/-- The number of a new group. -/
def newGroup : PatternReader Nat := do
  modify fun cursor => { cursor with groups := cursor.groups + 1 }
  return (← get).groups

/-- The inside of a group up to its closing bracket. The flags that are set inside hold no
longer. -/
def groupInside (inside : PatternReader Piece) (outer : PatternFlags) : PatternReader Piece := do
  let piece ← inside
  if ← accept ")" then
    modify fun cursor => { cursor with flags := outer }
    return { pattern := piece.pattern, depth := piece.depth + 1 }
  else refuse

/-- A group whose match is kept. -/
def keptGroup (inside : PatternReader Piece) (index : Nat) : PatternReader Piece := do
  let piece ← groupInside inside (← flags)
  return { piece with pattern := .group index piece.pattern }

/-- What an opening bracket introduces; `inside` reads the inside of a group. -/
def group (inside : PatternReader Piece) : PatternReader Piece := do
  bump
  skipSpace
  let chars := (← get).chars
  let lookAround := ["?=", "?!", "?<=", "?<!"].any (·.toList.isPrefixOf chars)
  if lookAround then refuse
  let outer ← flags
  if (← accept "?P<") || (← accept "?<") then
    let index ← newGroup
    groupName
    keptGroup inside index
  else if ← accept "?" then
    match flagLetters outer true [] (← get).chars with
    | some (flags, _, ':' :: rest) =>
      modify fun cursor => { cursor with chars := rest, flags }
      groupInside inside outer
    | some (flags, seen, ')' :: rest) =>
      if seen.isEmpty then refuse
      modify fun cursor => { cursor with chars := rest, flags }
      return { pattern := .empty, repeatable := false }
    | _ => refuse
  else keptGroup inside (← newGroup)

/-! ### Repetitions -/

/-- The bounds of repetitions are below this number. -/
def countLimit : Nat := 0x100000000

/-- Passes over blanks. -/
def skipBlanks : PatternReader Unit :=
  modify fun cursor => { cursor with chars := cursor.chars.dropWhile isBlank }

/-- A decimal number with blanks around it. -/
def decimal? : PatternReader (Option Nat) := do
  skipBlanks
  let digits ← takeSpaced Char.isDigit (← left)
  skipBlanks
  if digits.isEmpty then return none
  else
    let value := digits.foldl (fun value c => 10 * value + (c.toNat - 48)) 0
    if value < countLimit then return some value else refuse

/-- The bounds between braces: the least number and, if there is a bound, the greatest one. -/
def counts : PatternReader (Nat × Option Nat) := do
  advance
  match ← decimal? with
  | none => refuse
  | some least =>
    let most ←
      if (← peek) = some ',' then do
        advance
        if (← peek) = some '}' then pure none
        else
          match ← decimal? with
          | some most => if least ≤ most then pure (some most) else refuse
          | none => refuse
      else pure (some least)
    if ← accept "\x7d" then
      skipSpace
      return (least, most)
    else refuse

/-- The last part repeated. -/
def repeatLast (pieces : List Piece) (least : Nat) (most : Option Nat) :
    PatternReader (List Piece) := do
  let marked ← accept "?"
  let isLazy := marked != (← flags).preferShort
  match pieces with
  | piece :: before =>
    if piece.repeatable then
      let pattern := Pattern.repetition piece.pattern least most isLazy
      return { pattern, depth := piece.depth + 1 } :: before
    else refuse
  | [] => refuse

/-! ### Patterns -/

/-- The dot. -/
def dot : PatternReader CharSet := do
  let flags ← flags
  if flags.latin then refuse
  else if flags.dotAll then return .any
  else if flags.carriage then return (CharSet.ofChars "\r\n").complement
  else return (CharSet.ofChars "\n").complement

/-- A character that stands for itself; `byte` tells whether it is written by two hexadecimal
digits. Where only Latin characters count, a byte beyond them is no character, and the case of
others cannot be ignored. -/
def literalPattern (c : Char) (byte : Bool) : PatternReader Pattern := do
  let flags ← flags
  if flags.latin && 128 ≤ c.toNat && (byte || flags.ignoreCase) then refuse
  else if flags.ignoreCase then return .ofSet (← foldCase (.single c.toNat))
  else return .literal [c]

/-- A single character or place. -/
def primitive (c : Char) : PatternReader Piece := do
  let flags ← flags
  bump
  if c = '.' then return { pattern := .ofSet (← dot) }
  else if c = '^' then
    return { pattern := .look (if flags.multiLine then .lineStart flags.carriage else .textStart) }
  else if c = '$' then
    return { pattern := .look (if flags.multiLine then .lineEnd flags.carriage else .textEnd) }
  else if c = '\\' then
    match ← escape with
    | .literal c byte => return { pattern := ← literalPattern c byte }
    | .set inner => return { pattern := .ofSet inner }
    | .look condition => return { pattern := .look condition }
  else return { pattern := ← literalPattern c false }

/-- Parts side by side as one. -/
def joinPieces : List Piece → Piece
  | [] => { pattern := .empty, repeatable := false }
  | [piece] => piece
  | pieces =>
    { pattern := Pattern.sequence (pieces.map (·.pattern))
      depth := pieces.foldl (fun depth piece => max depth piece.depth) 0 + 1 }

/-- Reads parts side by side; the last one comes first in `pieces`. -/
def parts (inside : PatternReader Piece) :
    Nat → List Piece → PatternReader (List Piece)
  | 0, _ => refuse
  | fuel + 1, pieces => do
    skipSpace
    match ← peek with
    | none => return pieces
    | some c =>
      if c = '|' || c = ')' then return pieces
      else
        let pieces ←
          if c = '(' then do pure ((← group inside) :: pieces)
          else if c = '[' then do
            let set ← brackets nestingLimit
            pure ({ pattern := .ofSet set.members, depth := set.depth } :: pieces)
          else if c = '?' then do
            bump
            repeatLast pieces 0 (some 1)
          else if c = '*' then do
            bump
            repeatLast pieces 0 none
          else if c = '+' then do
            bump
            repeatLast pieces 1 none
          else if c = '{' then do
            let (least, most) ← counts
            repeatLast pieces least most
          else do pure ((← primitive c) :: pieces)
        parts inside fuel pieces

/-- Reads alternatives up to the end of the text or a closing bracket. -/
def branches (inside : PatternReader Piece) : Nat → PatternReader (List Piece)
  | 0 => refuse
  | fuel + 1 => do
    let pieces ← parts inside ((← left) + 1) []
    let branch := joinPieces pieces.reverse
    if ← accept "|" then return branch :: (← branches inside fuel)
    else return [branch]

/-- Alternatives as one part. -/
def joinBranches : List Piece → Piece
  | [] => { pattern := .empty, repeatable := false }
  | [piece] => piece
  | pieces =>
    { pattern := Pattern.choice (pieces.map (·.pattern))
      depth := pieces.foldl (fun depth piece => max depth piece.depth) 0 + 1 }

/-- Alternatives, with groups up to a depth of nesting. -/
def alternatives : Nat → PatternReader Piece
  | 0 => refuse
  | depth + 1 => do
    return joinBranches (← branches (alternatives depth) ((← left) + 1))

end PatternReader

/-- The pattern that a text stands for. -/
def Pattern.parse? (text : String) : Option Pattern :=
  let limit := PatternReader.nestingLimit
  match (PatternReader.alternatives (limit + 1)).run { chars := text.toList } with
  | some (piece, cursor) =>
    if cursor.chars.isEmpty && piece.depth ≤ limit && piece.pattern.fits then some piece.pattern
    else none
  | none => none

end DocStubs
