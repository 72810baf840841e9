import Std.Data.HashMap
import DocStubs.Text.Letter
import DocStubs.Code.Spot

/-!
# Terminals

The terminals of the grammar of module code: what the reader sees of a text in one look. Most of
them are literals, that is keywords and signs. Some have no text at all, since the end of a line
and a change of the indentation are terminals too; `Layout` finds these, and those of strings.

Which terminals are looked for depends on the place: `**` is one sign where a power can stand, and
two stars where it cannot. A place has a `Vocabulary`, and the longest terminal of the vocabulary
is taken. A keyword is no terminal of a vocabulary but a name that is read as a keyword where the
keyword is of use.

## Main definitions

* `Terminal`, `Terminal.all`, `Terminal.code` — the terminals and their numbers
* `Number.length` — how many characters of a text form a number
* `Vocabulary` — the terminals that are looked for together
* `Vocabulary.all`, `Vocabulary.clashes` — the vocabularies, and when a place cannot have one
* `Vocabulary.read` — the longest terminal at a place
-/

namespace DocStubs.Code

/-- The terminals of the grammar. -/
inductive Terminal where
  /-- The end of the text. -/
  | finish
  /-- A name. -/
  | name
  /-- A keyword or a sign. -/
  | literal (spelling : String)
  /-- An escape in a string, such as `\n`. -/
  | escape
  /-- A backslash in a string that starts no escape. -/
  | backslash
  /-- Text in the format of a hole. -/
  | formatText
  /-- The conversion of a hole, such as `!r`. -/
  | conversion
  | integer
  | float
  | comment
  /-- A backslash at the end of a line that goes on in the next one. -/
  | continuation
  /-- The end of a line that ends a statement. -/
  | newline
  | indent
  | dedent
  /-- The opening quote of a string, with the letters before it. -/
  | stringStart
  /-- Plain text in a string. -/
  | stringContent
  /-- A brace that is written twice in a string with holes. -/
  | doubledBrace
  | stringEnd
  deriving DecidableEq, Repr, Inhabited, Hashable

namespace Terminal

/-- All terminals, in the order of their numbers. -/
def all : Array Terminal := Id.run do
  let words (texts : List String) : Array Terminal := (texts.map literal).toArray
  return #[finish, name] ++
    words [
      ";", "import", ".", "from", "__future__", "(", ")", ",", "as", "*", "print", ">>", "assert",
      ":=", "return", "del", "raise", "pass", "break", "continue", "if", ":", "elif", "else",
      "match", "case", "async", "for", "in", "while", "try", "except", "except*", "finally",
      "with", "def", "->", "**", "global", "nonlocal", "exec", "type", "=", "class", "[", "]",
      "@", "-", "_", "|", "\x7b", "\x7d", "+", "not", "and", "or", "/", "%", "//", "&", "^", "<<",
      "~", "is", "<", "<=", "==", "!=", ">=", ">", "<>", "lambda", "+=", "-=", "*=", "/=", "@=",
      "//=", "%=", "**=", ">>=", "<<=", "&=", "^=", "|=", "yield", "..."] ++
    #[escape, backslash, formatText, conversion, integer, float] ++
    words ["await", "True", "False", "None"] ++
    #[comment, continuation, newline, indent, dedent, stringStart, stringContent, doubledBrace,
      stringEnd]

/-- The numbers of the terminals. -/
def codes : Std.HashMap Terminal Nat :=
  Std.HashMap.ofList (all.toList.zipIdx)

/-- The number of terminals. -/
def count : Nat := all.size

/-- The number of a terminal. -/
def code (terminal : Terminal) : Nat := codes.getD terminal count

/-- The words that are read as names where they are no keywords. The word `except` is not one of
them, as it is looked for by itself. -/
def isKeyword : Terminal → Bool
  | literal spelling =>
    spelling ≠ "except" && spelling.toList.all fun c => c.isAlpha || c = '_'
  | _ => false

/-- The keyword with a given spelling. -/
def keyword? (spelling : String) : Option Terminal :=
  if codes.contains (literal spelling) && (literal spelling).isKeyword then some (literal spelling)
  else none

/-- Whether the terminal appears in the trees that are read. -/
def isShown : Terminal → Bool
  | finish | backslash | formatText | newline | indent | dedent | stringContent => false
  | _ => true

/-- The terminals that may stand anywhere. -/
def extras : List Terminal := [comment, continuation]

/-- The terminals that only the layout of the text decides on. -/
def ofLayout : List Terminal :=
  [newline, indent, dedent, stringStart, stringContent, doubledBrace, stringEnd]

/-- The terminals that tell the layout where it is: none of them is added to what a place
allows. -/
def guides : List Terminal :=
  ofLayout ++ [comment, literal ")", literal "]", literal "\x7d", literal "except"]

end Terminal

/-! ### Numbers -/

namespace Number

/-- The length of the longest run of digits in which single underscores follow digits. -/
def digitsLength (afterDigit : Bool) : List Char → Nat
  | [] => 0
  | c :: rest =>
    if c.isDigit then digitsLength true rest + 1
    else if c = '_' && afterDigit then digitsLength false rest + 1
    else 0

/-- The length of the longest run of digits of some base in which single underscores stand before
digits. -/
def basedLength (isDigit : Char → Bool) : List Char → Nat
  | [] => 0
  | '_' :: c :: rest => if isDigit c then basedLength isDigit rest + 2 else 0
  | c :: rest => if isDigit c then basedLength isDigit rest + 1 else 0

/-- Whether a character is a hexadecimal digit. -/
def isHex (c : Char) : Bool :=
  c.isDigit || ('a' ≤ c && c ≤ 'f') || ('A' ≤ c && c ≤ 'F')

/-- One if the text starts with one of the letters, else zero. -/
def suffixLength (letters : List Char) : List Char → Nat
  | c :: _ => if letters.contains c then 1 else 0
  | [] => 0

/-- The length of the exponent at the start of a text, zero if there is none. -/
def exponentLength : List Char → Nat
  | e :: rest =>
    if e = 'e' || e = 'E' then
      let sign := suffixLength ['+', '-'] rest
      let digits := digitsLength false (rest.drop sign)
      if digits = 0 then 0 else 1 + sign + digits
    else 0
  | [] => 0

/-- The length of a number with a base mark such as `0x`, zero if the text starts with none. -/
def markedLength : List Char → Nat
  | '0' :: base :: rest =>
    let digits :=
      if base = 'x' || base = 'X' then basedLength isHex rest
      else if base = 'o' || base = 'O' then basedLength (fun c => '0' ≤ c && c ≤ '7') rest
      else if base = 'b' || base = 'B' then basedLength (fun c => c = '0' || c = '1') rest
      else 0
    if digits = 0 then 0 else 2 + digits + suffixLength ['l', 'L'] (rest.drop digits)
  | _ => 0

/-- The length of the integer at the start of a text, zero if there is none. -/
def integerLength (chars : List Char) : Nat :=
  let marked := markedLength chars
  if marked ≠ 0 then marked
  else
    let digits := digitsLength false chars
    if digits = 0 then 0
    else digits + suffixLength ['l', 'L', 'j', 'J'] (chars.drop digits)

/-- The length of the number with a point or an exponent at the start of a text, zero if there is
none. -/
def floatLength (chars : List Char) : Nat :=
  let whole := digitsLength false chars
  let afterWhole := chars.drop whole
  let point := suffixLength ['.'] afterWhole
  let fraction := if point = 0 then 0 else digitsLength false (afterWhole.drop 1)
  let mantissa := if whole = 0 && fraction = 0 then 0 else whole + point + fraction
  let exponent := if mantissa = 0 then 0 else exponentLength (chars.drop mantissa)
  if mantissa = 0 || (point = 0 && exponent = 0) then 0
  else
    let size := mantissa + exponent
    size + suffixLength ['j', 'J'] (chars.drop size)

end Number

/-! ### Other terminals with a text -/

/-- Whether at least `count` characters follow and the first `count` are hexadecimal digits. -/
def hexDigits (count : Nat) (chars : List Char) : Bool :=
  (chars.take count).length = count && (chars.take count).all Number.isHex

/-- The length of the escape at the start of a text, zero if there is none. -/
def escapeLength : List Char → Nat
  | '\\' :: '\r' :: '\n' :: _ => 3
  | '\\' :: c :: rest =>
    if "'\"abfrntv\\\n".toList.contains c then 2
    else if c = 'x' && hexDigits 2 rest then 4
    else if c = 'u' && hexDigits 4 rest then 6
    else if c = 'U' && hexDigits 8 rest then 10
    else if c.isDigit && (rest.take 2).length = 2 && (rest.take 2).all Char.isDigit then 4
    else if c = 'N' then
      match rest with
      | '{' :: name =>
        let label := name.takeWhile fun c => c ≠ '}' && c ≠ '\x00'
        if label.isEmpty || (name.drop label.length).head? ≠ some '}' then 0
        else label.length + 4
      | _ => 0
    else 0
  | _ => 0

/-- The length of the line continuation at the start of a text, zero if there is none. -/
def continuationLength : List Char → Nat
  | '\\' :: '\r' :: '\n' :: _ => 3
  | '\\' :: '\n' :: _ | '\\' :: '\x00' :: _ => 2
  | _ => 0

/-- The length of the name at the start of a text, zero if there is none. -/
def nameLength : List Char → Nat
  | c :: rest => if isWordStart c then (rest.takeWhile isWordPart).length + 1 else 0
  | [] => 0

/-- The length of the conversion at the start of a text, zero if there is none. -/
def conversionLength : List Char → Nat
  | '!' :: c :: _ => if 'a' ≤ c && c ≤ 'z' then 2 else 0
  | _ => 0

/-- The length of the comment at the start of a text, zero if there is none. -/
def commentLength : List Char → Nat
  | '#' :: rest => (rest.takeWhile fun c => c ≠ '\n' && c ≠ '\x00').length + 1
  | _ => 0

/-- Whether a character separates terminals. -/
def isSeparator (c : Char) : Bool :=
  c = ' ' || ('\t' ≤ c && c ≤ '\r') || c.toNat = 0xFEFF || c.toNat = 0x2060 || c.toNat = 0x200B

namespace Terminal

/-- How many characters at the start of a text form the terminal; zero if none do. -/
def lengthAt (chars : List Char) : Terminal → Nat
  | literal spelling => if spelling.toList.isPrefixOf chars then spelling.length else 0
  | name => nameLength chars
  | integer => Number.integerLength chars
  | float => Number.floatLength chars
  | comment => commentLength chars
  | continuation => continuationLength chars
  | conversion => conversionLength chars
  | _ => 0

end Terminal

/-! ### Vocabularies -/

/-- Terminals that are looked for together. -/
structure Vocabulary where
  terminals : List Terminal
  /-- Whether an escape or a single backslash is looked for, directly at the place. -/
  escapes : Bool := false
  /-- Whether the text of a format is looked for, before all else. -/
  formats : Bool := false
  deriving Repr, Inhabited

namespace Vocabulary

/-- What an expression can start with, signs apart. -/
def operands : List Terminal :=
  [.name, .integer, .float, .literal "...", .literal "(", .literal "[", .literal "\x7b",
   .literal "~", .literal "+", .literal "-", .literal "*"]

/-- The operators that stand between two operands, and what can follow one. -/
def operators : List Terminal :=
  (["!=", "%", "&", "(", "*", "**", "+", ",", "-", ".", "/", "//", ":", ";", "<", "<<", "<=", "<>",
    "=", "==", ">", ">=", ">>", "@", "[", "^", "|"].map Terminal.literal)

/-- The signs of assignments that also change a value. -/
def augmented : List Terminal :=
  (["%=", "&=", "**=", "*=", "+=", "-=", "//=", "/=", "<<=", ">>=", "@=", "^=", "|="].map
    Terminal.literal)

/-- Some literals. -/
def literals (spellings : List String) : List Terminal := spellings.map Terminal.literal

/-- A vocabulary with some terminals, besides those that may stand anywhere. -/
def of (terminals : List Terminal) : Vocabulary := { terminals := Terminal.extras ++ terminals }

/-- The vocabulary of a place where nothing fits: all terminals but the text of formats. -/
def whole : Vocabulary :=
  { of (.finish :: .conversion :: operands ++ operators ++ augmented ++
      literals [")", "]", "\x7d", "->", ":=", "except", "except*"])
    with escapes := true }

/-- The vocabularies, in the order in which a place tries them. -/
def all : Array Vocabulary := #[
  whole,
  of (.finish :: .conversion :: operands ++
    literals ["!=", ")", ",", ":", ";", "<", "<=", "<>", "=", "==", ">", ">=", "@", "]", "|",
      "\x7d"]),
  of (.name :: operands ++ operators ++ augmented ++ literals [":="]),
  of (.conversion :: operands ++ operators ++ literals [")", ":=", "]", "\x7d"]),
  of (operands ++ operators ++ augmented),
  of (.conversion :: operands ++ operators ++ literals [")", "]", "\x7d"]),
  of (operands ++ augmented ++ literals [":", ";", "="]),
  of (.name :: operators ++ augmented ++ literals [")", ":=", "]", "\x7d"]),
  of (.finish :: operands ++ literals ["@", "except"]),
  of (.finish :: operands ++ literals ["@", "except*"]),
  of (.name :: operators ++ augmented ++ literals [")", "]"]),
  of (.name :: .conversion :: operators ++ literals [")", "]", "\x7d"]),
  of (.name :: .conversion :: operators ++ literals [")", ":=", "]", "\x7d"]),
  of (.name :: literals ["->", ":", "except", "except*"]),
  { of (literals ["\x7b", "\x7d"]) with formats := true }]

/-- Whether a terminal that is not allowed at a place would be taken for a part of one that is
allowed there, or the other way round. -/
def clashes (other allowed : Terminal) : Bool :=
  let pair (a b : String) : Bool := other = .literal a && allowed = .literal b
  pair "**" "*" || pair "**=" "*" || pair "..." "." || pair ":=" ":" || pair "->" "-" ||
  pair "-" "->" || pair "except*" "except" || other = .name && allowed = .literal "except" ||
  (other = .literal "except" || other = .literal "except*") && allowed = .name

/-- Whether the vocabulary does for a place that allows some terminals. A keyword counts as a
name. -/
def serves (vocabulary : Vocabulary) (allowed : List Terminal) : Bool :=
  let escapes := allowed.contains .escape || allowed.contains .backslash
  let formats := allowed.contains .formatText
  let plain := (allowed.map fun t => if t.isKeyword then .name else t).filter fun t =>
    t ≠ .escape && t ≠ .backslash && t ≠ .formatText && !Terminal.ofLayout.contains t
  escapes = vocabulary.escapes && formats = vocabulary.formats &&
    plain.all vocabulary.terminals.contains &&
    vocabulary.terminals.all fun other =>
      plain.contains other || !plain.any (clashes other)

/-- What is found at a place: the terminal with its start and its end. -/
structure Found where
  terminal : Terminal
  start : Spot
  stop : Spot
  deriving Repr, Inhabited

/-- The longest terminal directly at a place; of two equally long ones a literal is taken. -/
def longest (vocabulary : Vocabulary) (spot : Spot) : Option Found :=
  let best := vocabulary.terminals.foldl
    (fun (best : Terminal × Nat) terminal =>
      let size := terminal.lengthAt spot.rest
      let isLiteral := match terminal with
        | .literal _ => true
        | _ => false
      if size > best.2 || (size = best.2 && isLiteral) then (terminal, size) else best)
    (.finish, 0)
  if best.2 = 0 then none
  else some { terminal := best.1, start := spot, stop := spot.forward best.2 }

/-- An escape or a backslash at a place. -/
def readEscape (spot : Spot) : Option Found :=
  let size := escapeLength spot.rest
  if size ≠ 0 then some { terminal := .escape, start := spot, stop := spot.forward size }
  else
    let continued := continuationLength spot.rest
    if continued ≠ 0 then
      some { terminal := .continuation, start := spot, stop := spot.forward continued }
    else some { terminal := .backslash, start := spot, stop := spot.next }

/-- The text of a format at a place, which blanks belong to. -/
def readFormat (spot : Spot) : Option Found :=
  let start := spot.skipWhile (· = '\n')
  let stop := start.skipWhile fun c => c ≠ '{' && c ≠ '}' && c ≠ '\n' && c ≠ '\x00'
  if stop.offset = start.offset then none else some { terminal := .formatText, start, stop }

/-- Looks for a terminal of the vocabulary, after separators. -/
def readAfterBlanks (vocabulary : Vocabulary) (spot : Spot) : Option Found :=
  let start := spot.skipWhile isSeparator
  if start.rest.isEmpty then
    if vocabulary.terminals.contains .finish then
      some { terminal := .finish, start, stop := start }
    else none
  else vocabulary.longest start

/-- How many characters are looked at in vain where no terminal of the whole vocabulary starts. -/
def vainLength : List Char → Nat
  | '\\' :: '\r' :: _ => 2
  | '\\' :: _ | '!' :: _ => 1
  | _ => 0

/-- The terminal of the vocabulary at a place. -/
def read (vocabulary : Vocabulary) (spot : Spot) : Option Found :=
  if vocabulary.formats then (readFormat spot).or (vocabulary.readAfterBlanks spot)
  else if vocabulary.escapes && spot.sees '\\' then readEscape spot
  else vocabulary.readAfterBlanks spot

end Vocabulary

end DocStubs.Code
