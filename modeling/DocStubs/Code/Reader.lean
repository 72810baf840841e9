import DocStubs.Code.Recovery

/-!
# The tree of a text

The reader lets every version advance by one terminal in turn, merges and removes versions as they
come to the same place or fall behind, and ends when no version can lead to a better tree than the
best one found so far.

## Main definitions

* `Reading.advance` — lets a version take the next terminal
* `Reading.condense` — merges versions and removes those that fall behind
* `Node.read` — the tree of a text
-/

namespace DocStubs.Code

namespace Reading

open Process

/-! ### One version -/

/-- What became of an attempt to act on a terminal. -/
inductive Attempt where
  /-- The terminal was dealt with. -/
  | done
  /-- Elements were built; the last of the new versions has the given number. -/
  | reduced (last : Nat)
  /-- Nothing fits. -/
  | failed
  deriving Inhabited

/-- Carries out the actions of a state at a terminal, up to one that takes it. -/
def act (tables : Tables) (number : Nat) (ahead : Node) (last : Option Nat) :
    List Action → Reading Attempt
  | [] =>
    return match last with
      | some last => .reduced last
      | none => .failed
  | .shift state passedOver :: rest => do
    if passedOver then act tables number ahead last rest
    else
      shift number state ahead false
      return .done
  | .extra :: _ => do
    shift number ((← get).top number).state ahead true
    return .done
  | .reduce head size favour shownAs :: rest => do
    let new ← reduce tables number head size favour shownAs
    act tables number ahead (new.or last) rest
  | .accept :: _ => do
    accept tables number ahead
    return .done
  | .recover :: _ => do
    recover tables number ahead
    return .done

/-- The terminal as a name, if it is a keyword that can be one in some state. -/
def asName? (tables : Tables) (state : Nat) : Node → Option Node
  | .mk facts parts =>
    if facts.isWord && facts.code ≠ Terminal.name.code &&
        !(tables.actions state Terminal.name.code).isEmpty then
      some (.mk { facts with code := Terminal.name.code, isShown := true } parts)
    else none

/-- Pauses a version: nothing fits the next terminal. -/
def pause (number : Nat) (ahead : Node) : Reading Unit :=
  modify fun p =>
    let weight := (p.top number).weight
    { p with
      versions := p.versions.modify number
        ({ · with status := .paused ahead, weightAtError := weight }) }

/-- Builds elements until the next terminal is taken, in a number of rounds at most. -/
def advanceWith (tables : Tables) (number : Nat) : Nat → Node → Reading Unit
  | 0, ahead => pause number ahead
  | rounds + 1, ahead => do
    let state := ((← get).top number).state
    match ← act tables number ahead none (tables.actions state ahead.facts.code) with
    | .done => pure ()
    | .reduced last =>
      replace last number
      advanceWith tables number rounds ahead
    | .failed =>
      match asName? tables state ahead with
      | some name => advanceWith tables number rounds name
      | none =>
        if state = Tables.errorState then recover tables number ahead else pause number ahead

/-- Lets a version take the next terminal. Every element that is built takes the place of at least
one vertex, except for as many in a row as there are elements. -/
def advance (tables : Tables) (number : Nat) : Reading Unit := do
  let process ← get
  let ahead := process.lookahead tables number
  advanceWith tables number (tables.elements.size * (process.vertices.size + 1)) ahead

/-! ### All versions -/

/-- Compares a version with those before it: merges it into one of them, or removes the worse one
of two, or puts the better one first. Tells the number of the version that was last looked at. -/
def settle (own : Standing) : Nat → Nat → Nat → Reading Nat
  | 0, number, _ => return number
  | rounds + 1, number, other => do
    if number ≤ other then return number
    else
      match (← standing other).judge own with
      | .takeFirst =>
        remove number
        return number - 1
      | .preferFirst | .neither =>
        if ← merge other number then return number - 1
        else settle own rounds number (other + 1)
      | .preferSecond =>
        if ← merge other number then return number - 1
        else
          modify fun p => { p with versions := p.versions.swapIfInBounds number other }
          settle own rounds number (other + 1)
      | .takeSecond =>
        remove other
        settle own rounds (number - 1) other

/-- Compares all versions from a number on with those before them. Tells the least cost of a
version without an error on top. -/
def settleAll (least : Option Nat) : Nat → Nat → Reading (Option Nat)
  | 0, _ => return least
  | rounds + 1, number => do
    let process ← get
    if process.count ≤ number then return least
    else if (process.version number).status.isHalted then
      remove number
      settleAll least rounds number
    else
      let own ← standing number
      let least :=
        if own.inError then least else some (least.elim own.cost (min own.cost))
      let last ← settle own (number + 1) number 0
      settleAll least rounds (last + 1)

/-- How many trees of the whole text may be found while paused versions still go on. -/
def acceptanceLimit : Nat := 6

/-- Lets the first paused version go on if no version before it does, and removes the other paused
versions. -/
def resume (tables : Tables) (least : Option Nat) (anyActive : Bool) (number : Nat) :
    Nat → Reading (Option Nat)
  | 0 => return least
  | rounds + 1 => do
    let process ← get
    match (process.version number).status with
    | .paused ahead =>
      if !anyActive && process.acceptances < acceptanceLimit then
        let cost := costOf process number
        change number ({ · with status := .active })
        handleError tables number ahead
        resume tables (some cost) true (number + 1) rounds
      else
        remove number
        resume tables least anyActive number rounds
    | _ => resume tables least true (number + 1) rounds

/-- Merges versions and removes those that fall behind. Tells the least cost of a version that
goes on. -/
def condense (tables : Tables) : Reading (Option Nat) := do
  let count := (← get).count
  let least ← settleAll none (2 * count + 1) 0
  modify fun p => { p with versions := p.versions.extract 0 versionLimit }
  resume tables least false 0 (← get).count

/-- Lets a version advance until it has come further than the others. -/
def advanceFully (tables : Tables) (number : Nat) : Nat → Nat → Reading Nat
  | 0, furthest => return furthest
  | rounds + 1, furthest => do
    if ((← get).version number).status.isActive then
      advance tables number
      let offset := ((← get).top number).spot.offset
      if furthest < offset || (0 < number && offset = furthest) then return offset
      else advanceFully tables number rounds furthest
    else return furthest

/-- Lets every version from a number on advance. -/
def advanceAll (tables : Tables) (limit : Nat) : Nat → Nat → Nat → Reading Nat
  | 0, _, furthest => return furthest
  | rounds + 1, number, furthest => do
    if (← get).count ≤ number then return furthest
    else
      let furthest ← advanceFully tables number limit furthest
      advanceAll tables limit rounds (number + 1) furthest

/-- Reads to the end of a text, in a number of rounds at most. -/
def toEnd (tables : Tables) (limit : Nat) : Nat → Nat → Reading Unit
  | 0, _ => pure ()
  | rounds + 1, furthest => do
    let furthest ← advanceAll tables limit limit 0 furthest
    let count := (← get).count
    let least ← condense tables
    let isBest := (← get).finished.any fun tree => least.all (tree.cost < ·)
    if isBest || count = 0 then pure () else toEnd tables limit rounds furthest

end Reading

/-- The tree of a text. A character of the text is taken by a few versions, and stands for a few
terminals at most. -/
def Node.read (tables : Tables) (text : String) : Option Node :=
  let limit := 100 * (text.utf8ByteSize + 10)
  let process := Process.start Tables.startState (Spot.start text)
  ((Reading.toEnd tables limit limit 0).run process).2.finished

end DocStubs.Code
