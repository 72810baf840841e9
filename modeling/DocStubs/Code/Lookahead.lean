import DocStubs.Code.Process
import DocStubs.Code.Tables

/-!
# The next terminal

What comes next in a text depends on the version that asks for it: its state tells which terminals
are of use, and its layout what is open. The layout is asked first. If no terminal of use is found,
any terminal will do; and text that does not even start a terminal becomes an error by itself.

## Main definitions

* `Sighting` — what is found at a place
* `Process.look` — looks for a terminal at a place
* `Process.lookahead` — the next terminal of a version
-/

namespace DocStubs.Code

/-- What is found at a place. -/
inductive Sighting where
  /-- A terminal of the layout; `changes` tells whether it changes the layout. -/
  | layout (found : Layout.Found) (changes : Bool)
  /-- Any other terminal. -/
  | plain (found : Vocabulary.Found)
  /-- Nothing: where a terminal would start, and how far the text was looked at. -/
  | nothing (start reached : Spot)
  deriving Inhabited

namespace Process

/-- The place where a text is looked at: a mark of the byte order at its start is passed by. -/
def afterMark (spot : Spot) : Spot :=
  if spot.offset = 0 && spot.sees '\uFEFF' then spot.next else spot

/-- Looks for a terminal of a vocabulary. -/
def lookPlain (vocabulary : Vocabulary) (spot : Spot) : Sighting :=
  match vocabulary.read spot with
  | some found => .plain found
  | none =>
    let start := spot.skipWhile isSeparator
    .nothing start (start.forward (Vocabulary.vainLength start.rest))

/-- Looks for a terminal at a place. A terminal of the layout that has no text and changes nothing
is of no use after an error, as long as nothing else was read. -/
def look (process : Process) (number : Nat) (vocabulary : Vocabulary) (wishes : Wishes)
    (isLost : Bool) (spot : Spot) : Sighting :=
  let version := process.version number
  match (version.layout.getD {}).scan wishes (afterMark spot) with
  | none => lookPlain vocabulary (afterMark spot)
  | some found =>
    let changes := version.layout ≠ some found.layout
    if found.stop.offset ≤ spot.offset && !changes &&
        (isLost || !Reading.hasAdvanced process number) then
      lookPlain vocabulary (afterMark spot)
    else .layout found changes

/-- The end of the text from a place on that starts no terminal, at most a number of steps away. -/
def unreadEnd (process : Process) (number : Nat) : Nat → Spot → Spot
  | 0, stop => stop
  | steps + 1, stop =>
    match process.look number Vocabulary.whole Wishes.everything true stop with
    | .nothing _ reached =>
      unreadEnd process number steps
        (if reached.offset = stop.offset then reached.next else reached)
    | _ => stop

/-- A terminal as a node. A name that is spelled like a keyword is a keyword where it is of use. -/
def nodeOf (tables : Tables) (state : Nat) (before : Spot) : Sighting → Node
  | .layout found changes =>
    .mk { (Node.leaf found.terminal before found.start found.stop).facts with
          layout := some found.layout, changesLayout := changes } []
  | .plain found =>
    if found.terminal = .name then
      match Terminal.keyword? (found.start.textTo found.stop) with
      | none => Node.leaf .name before found.start found.stop
      | some keyword =>
        let terminal :=
          if (tables.actions state keyword.code).isEmpty then Terminal.name else keyword
        .mk { (Node.leaf terminal before found.start found.stop).facts with isWord := true } []
    else Node.leaf found.terminal before found.start found.stop
  | .nothing start reached => Node.unread before start reached

/-- The next terminal of a version. -/
def lookahead (tables : Tables) (process : Process) (number : Nat) : Node :=
  let vertex := process.top number
  let state := vertex.state
  let isLost := state = Tables.errorState
  let first :=
    process.look number (tables.vocabulary state) (tables.wishesAt state) isLost vertex.spot
  let sighting :=
    match first with
    | .nothing .. =>
      if isLost then first
      else process.look number Vocabulary.whole Wishes.everything true vertex.spot
    | _ => first
  match sighting with
  | .nothing start reached =>
    let skipped := if reached.offset = start.offset then reached.next else reached
    Node.unread vertex.spot start
      (process.unreadEnd number (skipped.rest.length + 1) skipped)
  | _ => nodeOf tables state vertex.spot sighting

end Process

end DocStubs.Code
