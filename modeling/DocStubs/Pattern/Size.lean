import DocStubs.Pattern.Basic
import DocStubs.Text.Utf8
import Std.Data.HashMap

/-!
# The size of a pattern

A pattern is searched by a machine that reads a text byte by byte, once from the front and once
from the back. Both machines are put together from states in one pass over the pattern, and a
pattern is refused when the states of one of them take too much room. Repetitions are written out,
so a short pattern can have a large machine.

Only the room is worked out here, together with the numbers of the states, because the part of a
machine that reads a character shares states, and which ones it finds again depends on their
numbers: they are looked up in a table where a newer entry drops an older one in the same slot.

## Main definitions

* `Machine` — the states so far and their room
* `MachineBuilder` — steps of building that stop when there is no room left
* `Pattern.build` — the machine of a pattern
* `Pattern.fits` — whether both machines of a pattern have room
-/

namespace DocStubs

/-- A machine under construction: the number of its states, and the room for their links. -/
structure Machine where
  states : Nat := 0
  links : Nat := 0
  deriving Repr, Inhabited

namespace Machine

/-- The room of a state without its links. -/
def stateRoom : Nat := 32

/-- The room of a link that is taken without reading. -/
def branchRoom : Nat := 4

/-- The room of a link that reads a byte. -/
def readRoom : Nat := 8

/-- The room that a machine may take. -/
def limit : Nat := 10485760

/-- The room that a machine takes. -/
def room (machine : Machine) : Nat := machine.states * stateRoom + machine.links

end Machine

/-- Steps of building a machine. They give up when there is no room left. -/
abbrev MachineBuilder := StateT Machine Option

namespace MachineBuilder

/-- Goes on with a machine that has room. -/
def settle (machine : Machine) : MachineBuilder Unit :=
  fun _ => if machine.room ≤ Machine.limit then some ((), machine) else none

/-- Adds room for links. -/
def addLinks (room : Nat) : MachineBuilder Unit := do
  let machine ← get
  settle { machine with links := machine.links + room }

/-- Adds a state with room for its links, and tells its number. -/
def addLinked (room : Nat) : MachineBuilder Nat := do
  let machine ← get
  settle { states := machine.states + 1, links := machine.links + room }
  return machine.states

/-- Adds a state that takes no room for links. -/
def addState : MachineBuilder Unit := discard (addLinked 0)

/-- How a part of a machine ends. Only a state that branches takes room for the link to what
follows. -/
inductive Ending where
  | plain
  | branch
  deriving DecidableEq, Repr, Inhabited

/-- Links the end of a part to what follows. -/
def link : Ending → MachineBuilder Unit
  | .plain => return
  | .branch => addLinks Machine.branchRoom

/-- Links the end of a part to what follows, if there is such a part. -/
def link? : Option Ending → MachineBuilder Unit
  | some ending => link ending
  | none => return

/-! ### Reading a character -/

/-- Mixes a number into a hash. -/
def mix (hash : UInt64) (value : Nat) : UInt64 :=
  (hash ^^^ value.toUInt64) * 1099511628211

/-- The slot of a list of numbers in a table of a given size. -/
def slot (size : Nat) (values : List Nat) : Nat :=
  (values.foldl mix 14695981039346656037).toNat % size

/-- A table of states by what they are made of: in every slot the newest entry. -/
structure StateTable where
  size : Nat
  entries : Std.HashMap Nat (List Nat × Nat) := {}

namespace StateTable

/-- The state for a key, if it is still in the table. -/
def find? (table : StateTable) (key : List Nat) : Option Nat :=
  match table.entries[slot table.size key]? with
  | some (other, state) => if other = key then some state else none
  | none => none

/-- The table with a new entry. -/
def insert (table : StateTable) (key : List Nat) (state : Nat) : StateTable :=
  { table with entries := table.entries.insert (slot table.size key) (key, state) }

end StateTable

/-- The number of slots for states that read on from the first byte. -/
def forwardSlots : Nat := 10000

/-- The number of slots for states that read back from the last byte. -/
def backwardSlots : Nat := 1000

/-- The state for a key, which is made when it is not in the table. -/
def sharedState (key : List Nat) (room : Nat) : StateT StateTable MachineBuilder Nat := do
  match (← get).find? key with
  | some state => return state
  | none =>
    let state ← addLinked room
    modify (·.insert key state)
    return state

/-- Whether two sequences start with the same range. -/
def startAlike (left right : ByteSequence) : Bool := left.head? = right.head?

/-- The state that reads one of several sequences up to the state `target`. Sequences that start
alike share a link; a sequence has at most so many bytes as `depth` tells. -/
def readForward (target : Nat) : Nat → List ByteSequence → StateT StateTable MachineBuilder Nat
  | 0, _ => return target
  | depth + 1, sequences => do
    let links ← (sequences.splitBy startAlike).mapM fun alike => do
      let rests := (alike.map List.tail).filter fun rest => !rest.isEmpty
      let next ← if rests.isEmpty then pure target else readForward target depth rests
      let range := (alike.head?.bind List.head?).getD default
      return [range.first, range.last, next]
    sharedState links.flatten (Machine.readRoom * links.length)

/-- The state that reads a sequence back from its last byte down to the state `target`, which
comes first. -/
def readBackward (target : Nat) (sequence : ByteSequence) : StateT StateTable MachineBuilder Nat :=
  sequence.foldlM (fun state range => sharedState [state, range.first, range.last] 0) target

/-- Reads a character of a set. -/
def readSet (backward : Bool) (members : CharSet) : MachineBuilder Unit := do
  if members.isEmpty then
    addState
  else if members.isLatin then
    addState
    discard (addLinked (Machine.readRoom * members.ranges.size))
  else if backward then
    addState
    let target ← addLinked 0
    let read := members.byteSequences.forM fun sequence => do
      discard (readBackward target sequence)
      addLinks Machine.branchRoom
    discard (StateT.run read { size := backwardSlots })
  else
    let target ← addLinked 0
    discard (StateT.run (readForward target 4 members.byteSequences) { size := forwardSlots })

/-! ### Reading one of several texts -/

/-- The bytes of a text. -/
def textBytes (chars : List Char) : List Nat := chars.flatMap fun c => utf8Bytes c.toNat

/-- The texts between the empty ones of a list; `current` holds those since the last empty one in
reverse. -/
def partAtEmpty (current : List (List Nat)) : List (List Nat) → List (List (List Nat))
  | [] => [current.reverse]
  | [] :: rest => current.reverse :: partAtEmpty [] rest
  | text :: rest => partAtEmpty (text :: current) rest

/-- The texts that lead on from a place, in parts between which a text ends there. A text that
ends there again before any text leads on changes nothing. -/
def textParts (texts : List (List Nat)) : List (List (List Nat)) :=
  if texts.head? = some [] then partAtEmpty [] ([] :: texts.dropWhile (·.isEmpty))
  else partAtEmpty [] texts

/-- What follows a byte in the texts that start with it. -/
def tailsAfter (byte : Nat) (texts : List (List Nat)) : List (List Nat) :=
  texts.filterMap fun text =>
    match text with
    | [] => none
    | first :: rest => if first = byte then some rest else none

/-- Reads one of several texts. Texts that start alike share states; `fuel` is more than the
length of each text. -/
def readTexts : Nat → List (List Nat) → MachineBuilder Unit
  | 0, _ => return
  | fuel + 1, texts => do
    let parts := textParts texts
    let starts := parts.map fun part => (part, (part.filterMap List.head?).eraseDups)
    starts.forM fun (part, bytes) => do
      bytes.forM fun byte => do
        let tails := tailsAfter byte part
        if tails.all (·.isEmpty) then return else readTexts fuel tails
      if bytes.isEmpty then return
      else discard (addLinked (if bytes.length = 1 then 0 else Machine.readRoom * bytes.length))
    let leading := starts.filter fun (_, bytes) => !bytes.isEmpty
    discard (addLinked (Machine.branchRoom * (leading.length + (parts.length - 1))))

/-- Reads one of several texts in one direction. -/
def readChoice (backward : Bool) (texts : List (List Char)) : MachineBuilder Unit := do
  addState
  let texts := texts.map fun chars =>
    if backward then (textBytes chars).reverse else textBytes chars
  readTexts (texts.foldl (fun longest text => max longest text.length) 0 + 1) texts

/-! ### Repetitions -/

/-- Builds a part after what ends as told, if anything comes before it. -/
def append (part : MachineBuilder Ending) (before? : Option Ending) :
    MachineBuilder (Option Ending) := do
  let ending ← part
  link? before?
  return some ending

/-- Builds a part so many times in a row. -/
def copies (part : MachineBuilder Ending) :
    Nat → Option Ending → MachineBuilder (Option Ending)
  | 0, before? => return before?
  | count + 1, before? => do copies part count (← append part before?)

/-- A part exactly so many times. -/
def exactly (part : MachineBuilder Ending) (count : Nat) : MachineBuilder Ending := do
  match ← copies part count none with
  | some ending => return ending
  | none =>
    addState
    return .plain

/-- A part up to so many times, with a way out before each of them. -/
def optional (part : MachineBuilder Ending) : Nat → Ending → MachineBuilder Ending
  | 0, before => return before
  | count + 1, before => do
    addState
    let ending ← part
    link before
    addLinks (2 * Machine.branchRoom)
    optional part count ending

/-- A part any number of times. If the part may be empty, a second branch keeps the machine from
going round without reading. -/
def star (part : MachineBuilder Ending) (mayBeEmpty : Bool) : MachineBuilder Ending := do
  if mayBeEmpty then
    let ending ← part
    addState
    link ending
    addState
    addState
    addLinks (4 * Machine.branchRoom)
    return .plain
  else
    addState
    let ending ← part
    addLinks Machine.branchRoom
    link ending
    return .branch

/-- A part so many times or more. -/
def atLeast (part : MachineBuilder Ending) (mayBeEmpty : Bool) :
    Nat → MachineBuilder Ending
  | 0 => star part mayBeEmpty
  | count + 1 => do
    let before? ← copies part count none
    let ending ← part
    addState
    link? before?
    link ending
    addLinks Machine.branchRoom
    return .branch

/-- A part between two numbers of times. -/
def between (part : MachineBuilder Ending) (least most : Nat) : MachineBuilder Ending := do
  let before ← exactly part least
  addState
  link (← optional part (most - least) before)
  return .plain

/-- A part that may be left out. -/
def maybe (part : MachineBuilder Ending) : MachineBuilder Ending := do
  addState
  let ending ← part
  addState
  addLinks (2 * Machine.branchRoom)
  link ending
  return .plain

/-- A part repeated. -/
def repeatPart (part : MachineBuilder Ending) (mayBeEmpty : Bool) (least : Nat) :
    Option Nat → MachineBuilder Ending
  | none => atLeast part mayBeEmpty least
  | some most =>
    if least = 0 && most = 1 then maybe part
    else if least = most then exactly part least
    else between part least most

end MachineBuilder

namespace Pattern

open MachineBuilder

/-- The text of a pattern that is a text. -/
def text? : Pattern → Option (List Char)
  | literal chars => some chars
  | _ => none

mutual

/-- Builds the machine of a pattern, in one direction. -/
def build (backward : Bool) : Pattern → MachineBuilder Ending
  | empty | look _ => do
    addState
    return .plain
  | literal chars => do
    (textBytes chars).forM fun _ => addState
    return .plain
  | set members => do
    readSet backward members
    return .plain
  | seq parts => return (← buildSeq backward none parts).getD .plain
  | alt parts =>
    match parts.mapM text? with
    | some texts => do
      readChoice backward texts
      return .plain
    | none => do
      buildAlt backward 0 parts
      return .plain
  | repeated inner least most _ =>
    repeatPart (build backward inner) (inner.facts.shortest?.getD 0 = 0) least most
  | group _ inner =>
    if backward then build backward inner
    else do
      addState
      let ending ← build backward inner
      addState
      link ending
      return .plain

/-- Builds parts one after the other, in the order of reading. -/
def buildSeq (backward : Bool) (before? : Option Ending) :
    List Pattern → MachineBuilder (Option Ending)
  | [] => return before?
  | part :: rest =>
    if backward then do append (build backward part) (← buildSeq backward before? rest)
    else do buildSeq backward (← append (build backward part) before?) rest

/-- Builds the parts of a choice. The states where they part and meet come after the second
one. -/
def buildAlt (backward : Bool) (count : Nat) : List Pattern → MachineBuilder Unit
  | [] => return
  | part :: rest => do
    let ending ← build backward part
    if count = 1 then
      addState
      addState
    addLinks Machine.branchRoom
    link ending
    buildAlt backward (count + 1) rest

end

/-- Builds the states that skip what comes before a match, unless it can only start at the end of
the text where the machine starts. -/
def buildSkip (anchored : Bool) : MachineBuilder Unit := do
  addState
  if anchored then return
  else
    addState
    discard (addLinked Machine.readRoom)
    addLinks (2 * Machine.branchRoom)

/-- Builds the whole machine of a pattern, in one direction. Read from the front, the whole match
is kept like that of a group. -/
def buildWhole (backward : Bool) (pattern : Pattern) : MachineBuilder Unit := do
  let facts := pattern.facts
  buildSkip (if backward then facts.atEnd else facts.atStart)
  let ending ← build backward (if backward then pattern else group 0 pattern)
  addState
  link ending

/-- Whether both machines of a pattern have room. -/
def fits (pattern : Pattern) : Bool :=
  (StateT.run (buildWhole false pattern) {}).isSome &&
    (StateT.run (buildWhole true pattern) {}).isSome

end Pattern

end DocStubs
