import DocStubs.Pattern.Basic
import DocStubs.Pattern.Classes

/-!
# Searching a text

A pattern is searched anywhere in a text, and only whether it occurs matters, so a pattern acts as
a function on sets of places: from the places where a match may start to the places where it may
end. A set of places is a list in the order of the text.

## Main definitions

* `TextPlace` — a place in a text
* `Pattern.reach` — the places where matches end
* `Pattern.occursIn` — whether a pattern occurs in a text
-/

namespace DocStubs

/-- A place in a text: its number and the characters around it. -/
structure TextPlace where
  index : Nat
  before : Option Char
  after : List Char
  deriving Repr, Inhabited

namespace TextPlace

/-- The places of a text from a given one on. -/
def fromHere (index : Nat) (before : Option Char) : List Char → List TextPlace
  | [] => [{ index, before, after := [] }]
  | c :: rest => { index, before, after := c :: rest } :: fromHere (index + 1) (some c) rest

/-- All places of a text. -/
def all (text : String) : List TextPlace := fromHere 0 none text.toList

/-- The place after the next character, if that passes a test. -/
def step? (test : Char → Bool) (place : TextPlace) : Option TextPlace :=
  match place.after with
  | c :: rest =>
    if test c then some { index := place.index + 1, before := some c, after := rest } else none
  | [] => none

/-- Drops places that stand twice side by side. -/
def distinct : List TextPlace → List TextPlace
  | [] => []
  | place :: rest =>
    match distinct rest with
    | [] => [place]
    | next :: others =>
      if place.index = next.index then next :: others else place :: next :: others

/-- The places of two sets. -/
def merge (left right : List TextPlace) : List TextPlace :=
  distinct (left.merge right fun place other => place.index ≤ other.index)

/-- Whether two sets have the same places. -/
def sameAs (left right : List TextPlace) : Bool := left.map (·.index) = right.map (·.index)

/-- Whether a character is there and is a word character. -/
def isWord (latin : Bool) (c : Option Char) : Bool :=
  c.any fun c => (if latin then CharSet.latinWord else Property.patternWord).contains c.toNat

/-- Whether a condition holds at a place. -/
def meets (place : TextPlace) : Look → Bool
  | .textStart => place.before.isNone
  | .textEnd => place.after.isEmpty
  | .lineStart carriage =>
    place.before.isNone || place.before = some '\n' ||
      (carriage && place.before = some '\r' && place.after.head? ≠ some '\n')
  | .lineEnd carriage =>
    let next := place.after.head?
    if carriage then
      next.isNone || next = some '\r' || (next = some '\n' && place.before ≠ some '\r')
    else next.isNone || next = some '\n'
  | .wordEdge latin => isWord latin place.before != isWord latin place.after.head?
  | .noWordEdge latin => isWord latin place.before == isWord latin place.after.head?
  | .wordStart latin => !isWord latin place.before && isWord latin place.after.head?
  | .wordEnd latin => isWord latin place.before && !isWord latin place.after.head?
  | .afterWord latin => !isWord latin place.before
  | .beforeWord latin => !isWord latin place.after.head?

end TextPlace

namespace Pattern

/-- Takes a step from a set of places so many times. Once a step leads back to the same places,
so do all others. -/
def times (step : List TextPlace → List TextPlace) : Nat → List TextPlace → List TextPlace
  | 0, places => places
  | count + 1, places =>
    let next := step places
    if TextPlace.sameAs next places then places else times step count next

/-- Adds the places that up to so many steps lead to. -/
def upTo (step : List TextPlace → List TextPlace) : Nat → List TextPlace → List TextPlace
  | 0, places => places
  | count + 1, places =>
    let next := TextPlace.merge places (step places)
    if TextPlace.sameAs next places then places else upTo step count next

mutual

/-- The places where a match of the pattern can end that starts at one of the given places. In a
text with `size` places, any number of steps leads no further than `size` steps. -/
def reach (size : Nat) : Pattern → List TextPlace → List TextPlace
  | empty, places => places
  | literal chars, places =>
    chars.foldl (fun places c => places.filterMap (TextPlace.step? (· = c))) places
  | set members, places =>
    places.filterMap (TextPlace.step? fun c => members.contains c.toNat)
  | look condition, places => places.filter (·.meets condition)
  | seq parts, places => reachSeq size parts places
  | alt parts, places => reachAlt size parts places
  | repeated inner least most _, places =>
    let more := (most.map (· - least)).getD size
    upTo (reach size inner) more (times (reach size inner) least places)
  | group _ inner, places => reach size inner places

/-- The places where matches of all patterns of a list one after the other end. -/
def reachSeq (size : Nat) : List Pattern → List TextPlace → List TextPlace
  | [], places => places
  | part :: rest, places => reachSeq size rest (reach size part places)

/-- The places where matches of any pattern of a list end. -/
def reachAlt (size : Nat) : List Pattern → List TextPlace → List TextPlace
  | [], _ => []
  | part :: rest, places => TextPlace.merge (reach size part places) (reachAlt size rest places)

end

/-- Whether the pattern occurs in a text. -/
def occursIn (pattern : Pattern) (text : String) : Bool :=
  let places := TextPlace.all text
  !(reach places.length pattern places).isEmpty

end Pattern

end DocStubs
