import DocStubs.Text.CharSet

/-!
# Patterns

A pattern describes texts. It is kept in a form where nothing is written in two ways that need not
be: texts side by side are one text, sequences hold no sequences, choices hold no choices, and a
choice between single characters is a set. The constructors are therefore never used as they are,
but through `Pattern.ofSet`, `Pattern.sequence`, `Pattern.choice` and `Pattern.repetition`.

Which of several matches is preferred, and what the groups of a match hold, makes no difference to
whether a pattern occurs in a text. Both are kept all the same, because they decide which parts of
a pattern are equal.

## Main definitions

* `Look` — what a pattern asks of a place
* `Pattern` — patterns
* `PatternFacts`, `Pattern.facts` — what is known of all texts that a pattern matches
* `Pattern.ofSet`, `Pattern.sequence`, `Pattern.choice`, `Pattern.repetition`
-/

namespace DocStubs

/-- What a pattern can ask of the characters around a place. The flag of a condition on words
tells whether only Latin word characters count, that of a condition on lines whether a carriage
return ends a line, too. -/
inductive Look where
  | textStart
  | textEnd
  | lineStart (carriage : Bool)
  | lineEnd (carriage : Bool)
  | wordEdge (latin : Bool)
  | noWordEdge (latin : Bool)
  | wordStart (latin : Bool)
  | wordEnd (latin : Bool)
  /-- No word character stands before the place. -/
  | afterWord (latin : Bool)
  /-- No word character stands after the place. -/
  | beforeWord (latin : Bool)
  deriving DecidableEq, Repr, Inhabited

/-- Patterns. -/
inductive Pattern where
  | empty
  | literal (chars : List Char)
  | set (members : CharSet)
  | look (condition : Look)
  | seq (parts : List Pattern)
  | alt (parts : List Pattern)
  /-- At least `least` times and, if there is a bound, at most `most` times. -/
  | repeated (inner : Pattern) (least : Nat) (most : Option Nat) (lazy : Bool)
  /-- A part whose match is kept under a number. -/
  | group (index : Nat) (inner : Pattern)
  deriving Inhabited

/-- What is known of all texts that a pattern matches. -/
structure PatternFacts where
  /-- The least number of characters, if the pattern matches any text. -/
  shortest? : Option Nat := some 0
  /-- Whether only the empty text matches. -/
  onlyEmpty : Bool := true
  /-- Whether a match starts where the text starts. -/
  atStart : Bool := false
  /-- Whether a match ends where the text ends. -/
  atEnd : Bool := false
  deriving Repr, Inhabited

namespace PatternFacts

/-- The parts of a list up to the first one that matches more than the empty text, and that
one. -/
def leading : List PatternFacts → List PatternFacts
  | [] => []
  | part :: rest => if part.onlyEmpty then part :: leading rest else [part]

/-- The sum of the least numbers of characters, if all parts match. -/
def total? : List PatternFacts → Option Nat
  | [] => some 0
  | part :: rest => do return (← part.shortest?) + (← total? rest)

/-- The facts of a sequence. -/
def seq (parts : List PatternFacts) : PatternFacts where
  shortest? := total? parts
  onlyEmpty := parts.all (·.onlyEmpty)
  atStart := (leading parts).any (·.atStart)
  atEnd := (leading parts.reverse).any (·.atEnd)

/-- The least of the least numbers of characters, if all parts match. -/
def least? : List PatternFacts → Option Nat
  | [] => none
  | [part] => part.shortest?
  | part :: rest => do return min (← part.shortest?) (← least? rest)

/-- The facts of a choice. -/
def alt (parts : List PatternFacts) : PatternFacts where
  shortest? := least? parts
  onlyEmpty := parts.all (·.onlyEmpty)
  atStart := parts.all (·.atStart)
  atEnd := parts.all (·.atEnd)

end PatternFacts

namespace Pattern

/-! ### Facts -/

mutual

/-- What is known of all texts that a pattern matches. -/
def facts : Pattern → PatternFacts
  | empty => {}
  | literal chars => { shortest? := some chars.length, onlyEmpty := false }
  | set members =>
    { shortest? := if members.isEmpty then none else some 1, onlyEmpty := false }
  | look condition =>
    { atStart := condition = .textStart, atEnd := condition = .textEnd }
  | seq parts => .seq (factsAll parts)
  | alt parts => .alt (factsAll parts)
  | repeated inner least _ _ =>
    let once := facts inner
    { shortest? := once.shortest?.map (· * least), onlyEmpty := once.onlyEmpty
      atStart := 0 < least && once.atStart, atEnd := 0 < least && once.atEnd }
  | group _ inner => facts inner

/-- The facts of all patterns of a list. -/
def factsAll : List Pattern → List PatternFacts
  | [] => []
  | part :: rest => facts part :: factsAll rest

end

/-! ### Equality -/

mutual

/-- Whether two patterns are equal. -/
def same : Pattern → Pattern → Bool
  | empty, empty => true
  | literal chars, literal others => chars = others
  | set members, set others => members = others
  | look condition, look other => condition = other
  | seq parts, seq others => sameAll parts others
  | alt parts, alt others => sameAll parts others
  | repeated inner least most isLazy, repeated other least' most' isLazy' =>
    least = least' && most = most' && isLazy = isLazy' && same inner other
  | group index inner, group index' other => index = index' && same inner other
  | _, _ => false

/-- Whether two lists of patterns are equal. -/
def sameAll : List Pattern → List Pattern → Bool
  | [], [] => true
  | part :: rest, other :: others => same part other && sameAll rest others
  | _, _ => false

end

/-! ### Sets and sequences -/

/-- The pattern for one character of a set. -/
def ofSet (members : CharSet) : Pattern :=
  match members.only? with
  | some code => literal [Char.ofNat code]
  | none => set members

/-- The pattern that matches no text. -/
def never : Pattern := set .empty

/-- The parts that a pattern adds to a sequence. -/
def seqParts : Pattern → List Pattern
  | empty => []
  | seq parts => parts
  | part => [part]

/-- Puts texts that stand side by side together. -/
def joinLiterals : List Pattern → List Pattern
  | [] => []
  | part :: rest =>
    match part, joinLiterals rest with
    | literal chars, literal others :: joined => literal (chars ++ others) :: joined
    | _, joined => part :: joined

/-- Patterns one after the other. -/
def sequence (parts : List Pattern) : Pattern :=
  match joinLiterals (parts.flatMap seqParts) with
  | [] => empty
  | [part] => part
  | joined => seq joined

/-! ### Choices -/

/-- The parts that a pattern adds to a choice. -/
def altParts : Pattern → List Pattern
  | alt parts => parts
  | part => [part]

/-- The set that a pattern for one character stands for. -/
def members? : Pattern → Option CharSet
  | set members => some members
  | literal [c] => some (.single c.toNat)
  | _ => none

/-- A choice between patterns, without a look at how they start. -/
def plainChoice (parts : List Pattern) : Pattern :=
  match parts.flatMap altParts with
  | [] => never
  | [part] => part
  | branches =>
    match branches.mapM members? with
    | some sets => ofSet (.unions sets)
    | none => alt branches

/-- The parts that two lists start with. -/
def sharedStart : List Pattern → List Pattern → List Pattern
  | part :: rest, other :: others =>
    if same part other then part :: sharedStart rest others else []
  | _, _ => []

/-- The parts of a sequence, if the pattern is one. -/
def sequenceParts? : Pattern → Option (List Pattern)
  | seq parts => some parts
  | _ => none

/-- Sequences that start alike as their common start and a choice between what follows it. -/
def factored? (branches : List Pattern) : Option Pattern := do
  match ← branches.mapM sequenceParts? with
  | first :: others =>
    let start := others.foldl sharedStart first
    if start.isEmpty then none
    else
      let rests := (first :: others).map fun parts => sequence (parts.drop start.length)
      some (sequence (start ++ [plainChoice rests]))
  | [] => none

/-- A choice between patterns. -/
def choice (parts : List Pattern) : Pattern :=
  match plainChoice parts with
  | alt branches => (factored? branches).getD (alt branches)
  | part => part

/-! ### Repetitions -/

/-- A pattern so many times. To repeat the empty text more than once is to match it once. -/
def repetition (inner : Pattern) (least : Nat) (most : Option Nat) (isLazy : Bool) : Pattern :=
  let (least, most) :=
    if inner.facts.onlyEmpty then (min least 1, some (min (most.getD 1) 1)) else (least, most)
  if most = some 0 then empty
  else if least = 1 && most = some 1 then inner
  else repeated inner least most isLazy

end Pattern

end DocStubs
