import DocStubs.Code.Lookahead

/-!
# Steps of a reading, and the way on after an error

A version takes terminals and builds elements as the tables say. Where nothing fits, it is paused;
if no other version is better, it tries to go on in three ways: with a terminal that may be
missing, from an earlier state for which the terminal fits, or after the terminal is skipped. The
costs of the errors tell which version is better.

## Main definitions

* `Reading.reduce`, `Reading.shift`, `Reading.accept` — what actions do
* `Standing`, `Standing.judge` — which of two versions is better
* `Reading.reduceAll` — all elements that a version can build
* `Reading.recover` — goes back to an earlier state, or skips a terminal
* `Reading.handleError` — lets a paused version go on
-/

namespace DocStubs.Code.Reading

open Process

/-! ### Actions -/

/-- Splits off the nodes at the end that may stand anywhere. -/
def splitExtras (nodes : List Node) : List Node × List Node :=
  let trailing := (nodes.reverse.takeWhile (·.facts.isExtra)).reverse
  (nodes.take (nodes.length - trailing.length), trailing)

/-- Builds an element in the best one of several ways, and tells what follows it. -/
def buildBest (build : List Node → Node) (best : Node) (after : List Node) :
    List (List Node) → Node × List Node
  | [] => (best, after)
  | way :: rest =>
    let (nodes, extras) := splitExtras way
    let candidate := build nodes
    if best.yields candidate then buildBest build candidate extras rest
    else buildBest build best after rest

/-- Builds an element on top of the versions that start at a given number, one for each slice.
Versions that come to the same state at the same place are merged. -/
def reduceSlices (tables : Tables) (origin : Nat) (head : Nat) (favour : Int)
    (shownAs : List (Option Element)) (number : Nat) : List Slice → Reading Unit
  | [] => pure ()
  | slice :: rest => do
    if versionLimit + versionExcess < number then
      remove number
      reduceSlices tables origin head favour shownAs number rest
    else
      let vertex := (← get).top number
      let build := Node.build head (tables.isShown head) shownAs vertex.spot
      let (nodes, extras) := splitExtras (slice.ways.headD [])
      let (node, after) := buildBest build (build nodes) extras slice.ways.tail
      let state := tables.move vertex.state head
      push number (some (node.favoured favour)) state
      pushAll number state after
      let others := (List.range number).filter (· ≠ origin)
      let merged ← mergeInto number others
      reduceSlices tables origin head favour shownAs (if merged then number else number + 1) rest

/-- Builds an element from the last nodes of a version. Tells the number of the first version that
comes from it, if there is one. -/
def reduce (tables : Tables) (number : Nat) (head size : Nat) (favour : Int)
    (shownAs : List (Option Element)) : Reading (Option Nat) := do
  let first := (← get).count
  let slices ← pop number size
  reduceSlices tables number head favour shownAs first slices.toList
  return if first < (← get).count then some first else none

/-- Takes the layout of a terminal over into a version. -/
def takeLayout (number : Nat) (node : Node) : Reading Unit :=
  match node.facts.layout with
  | some layout => change number ({ · with layout := some layout })
  | none => pure ()

/-- Takes a terminal. -/
def shift (number state : Nat) (ahead : Node) (isExtra : Bool) : Reading Unit := do
  push number (some (ahead.withExtra isExtra)) state
  takeLayout number ahead

/-- The tree of the whole text: the last node that is no extra and not the end of the text, with
the nodes around it. -/
def wholeTree (tables : Tables) (nodes : List Node) : Option Node :=
  let isOuter (node : Node) : Bool := node.facts.isExtra || node.facts.code = Terminal.finish.code
  match nodes.reverse.dropWhile isOuter with
  | [] => none
  | node :: before =>
    let after := (nodes.reverse.takeWhile isOuter).reverse
    let facts := node.facts
    let isShown := node.isError || tables.isShown facts.code
    some (Node.build facts.code isShown facts.shownAs facts.before
      (before.reverse ++ node.parts ++ after))

/-- Counts a tree of the whole text, and keeps it if it is better than the one so far. -/
def finishWith (tree : Option Node) : Reading Unit :=
  modify fun p =>
    let finished :=
      match p.finished, tree with
      | some old, some new => if old.yields new then some new else some old
      | old, new => old.or new
    { p with finished, acceptances := p.acceptances + 1 }

/-- Ends a version at the end of the text. -/
def accept (tables : Tables) (number : Nat) (ahead : Node) : Reading Unit := do
  push number (some ahead) Tables.startState
  (allNodes (← get) number).forM fun nodes => finishWith (wholeTree tables nodes)
  halt number

/-! ### Better and worse versions -/

/-- What versions are compared by. -/
structure Standing where
  cost : Nat
  /-- How many nodes were read since the last error. -/
  weight : Nat
  favour : Int
  inError : Bool
  deriving Inhabited

/-- What to do about two versions. -/
inductive Verdict where
  | takeFirst | preferFirst | neither | preferSecond | takeSecond
  deriving DecidableEq, Repr, Inhabited

/-- How much more a version may cost than another one that has read little since. -/
def costTolerance : Nat := 1600

/-- Which of two versions is better. -/
def Standing.judge (a b : Standing) : Verdict :=
  if !a.inError && b.inError then if a.cost < b.cost then .takeFirst else .preferFirst
  else if a.inError && !b.inError then if b.cost < a.cost then .takeSecond else .preferSecond
  else if a.cost < b.cost then
    if costTolerance < (b.cost - a.cost) * (1 + a.weight) then .takeFirst else .preferFirst
  else if b.cost < a.cost then
    if costTolerance < (a.cost - b.cost) * (1 + b.weight) then .takeSecond else .preferSecond
  else if b.favour < a.favour then .preferFirst
  else if a.favour < b.favour then .preferSecond
  else .neither

/-- The standing of a version. -/
def standing (number : Nat) : Reading Standing := do
  let weight ← weightSinceError number
  let process ← get
  let vertex := process.top number
  let isPaused := (process.version number).status.isPaused
  let cost := costOf process number
  return { cost := if isPaused then cost + costs.skippedNode else cost
           weight, favour := vertex.favour
           inError := isPaused || vertex.state = Tables.errorState }

/-- Whether one of some versions is better than a version would be. -/
def anyBetter (number : Nat) (own : Standing) (offset : Nat) : List Nat → Reading Bool
  | [] => return false
  | other :: rest => do
    let process ← get
    if other = number || !(process.version other).status.isActive ||
        (process.top other).spot.offset < offset then
      anyBetter number own offset rest
    else
      match own.judge (← standing other) with
      | .takeSecond => return true
      | .preferSecond =>
        if canMerge (← get) other number then return true else anyBetter number own offset rest
      | _ => anyBetter number own offset rest

/-- Whether there is a better version than a version would be with a given cost. -/
def hasBetter (number : Nat) (cost : Nat) : Reading Bool := do
  let process ← get
  if process.finished.any fun tree => tree.cost ≤ cost then return true
  else
    let vertex := process.top number
    let own : Standing :=
      { cost, weight := ← weightSinceError number, favour := vertex.favour, inError := false }
    anyBetter number own vertex.spot.offset (List.range process.count)

/-! ### All reductions -/

/-- What a state does at some terminals: whether it can take one, and what it can build. -/
def prospects (tables : Tables) (state : Nat) (codes : List Nat) : Bool × List Action :=
  (codes.flatMap (tables.actions state)).foldl
    (fun (shifts, reductions) action =>
      match action with
      | .shift _ passedOver => (shifts || !passedOver, reductions)
      | .recover => (true, reductions)
      | .reduce head size _ _ =>
        let isKnown := reductions.any fun known =>
          match known with
          | .reduce head' size' _ _ => head = head' && size = size'
          | _ => false
        (shifts, if size = 0 || isKnown then reductions else reductions ++ [action])
      | _ => (shifts, reductions))
    (false, [])

/-- Carries out reductions, and tells the version that comes from the last one. -/
def reduceEach (tables : Tables) (number : Nat) (last : Option Nat) :
    List Action → Reading (Option Nat)
  | [] => return last
  | .reduce head size favour shownAs :: rest => do
    let last ← reduce tables number head size favour shownAs
    reduceEach tables number last rest
  | _ :: rest => reduceEach tables number last rest

/-- Builds all elements that a version can build, and those that the new versions can build.
Versions that cannot take one of the terminals are removed, unless all terminals count. -/
def reduceFrom (tables : Tables) (codes : List Nat) (removes : Bool) (origin first : Nat) :
    Nat → Nat → Nat → Bool → Reading Bool
  | 0, _, _, canShift => return canShift
  | rounds + 1, done, number, canShift => do
    let total := (← get).count
    if total ≤ number then return canShift
    else if ← mergeInto number ((List.range number).filter (first ≤ ·)) then
      reduceFrom tables codes removes origin first rounds (done + 1) number canShift
    else
      let (shifts, reductions) := prospects tables ((← get).top number).state codes
      match shifts, ← reduceEach tables number none reductions with
      | false, some last =>
        if done < versionLimit then
          replace last number
          reduceFrom tables codes removes origin first rounds (done + 1) number canShift
        else
          if removes then remove number
          reduceFrom tables codes removes origin first rounds (done + 1)
            (if number = origin then total else number + 1) canShift
      | _, _ =>
        if !shifts && removes then remove number
        reduceFrom tables codes removes origin first rounds (done + 1)
          (if number = origin then total else number + 1) (canShift || shifts)

/-- More rounds than the limit of versions allows. -/
def reductionRounds : Nat := 10000

/-- Builds all elements that a version can build before a terminal, and tells whether the terminal
can be taken then. The end of the text stands for any terminal. -/
def reduceBefore (tables : Tables) (number code : Nat) : Reading Bool := do
  let isAny : Bool := code = Terminal.finish.code
  let codes := if isAny then (List.range Terminal.count).drop 1 else [code]
  reduceFrom tables codes (!isAny) number (← get).count reductionRounds 0 number false

/-- Builds all elements that a version can build before any terminal. -/
def reduceAll (tables : Tables) (number : Nat) : Reading Unit := do
  let _ ← reduceBefore tables number Terminal.finish.code

/-! ### Recovery -/

/-- Puts what was read since some outposts into errors, and goes on from these. Tells whether there
was one with the wanted state. -/
def returnTo (goal : Nat) (number : Nat) (found : Bool) : List Slice → Reading Bool
  | [] => return found
  | slice :: rest => do
    let vertex := (← get).top number
    if vertex.state ≠ goal then
      halt number
      returnTo goal (number + 1) found rest
    else
      let earlier := ((← popError number).map Node.parts).getD []
      let (nodes, extras) := splitExtras (earlier ++ slice.ways.headD [])
      if !nodes.isEmpty then
        push number (some ((Node.error vertex.spot nodes).withExtra true)) goal
      pushAll number goal extras
      returnTo goal (number + 1) true rest

/-- Looks among the outposts of a version for a state in which a terminal fits, and goes back to
it, unless one of the first versions is in that state already. -/
def goBack (tables : Tables) (total number : Nat) (ahead : Node) (cost weight : Nat) :
    List Outpost → Reading Bool
  | [] => return false
  | outpost :: rest => do
    let process ← get
    let spot := (process.top number).spot
    let isTaken := (List.range total).any fun other =>
      (process.top other).state = outpost.state &&
        (process.top other).spot.offset = spot.offset
    if outpost.state = Tables.errorState || outpost.spot.offset = spot.offset || isTaken then
      goBack tables total number ahead cost weight rest
    else
      let newCost := cost + outpost.depth * costs.skippedNode +
        (spot.offset - outpost.spot.offset) * costs.skippedByte +
        (spot.line - outpost.spot.line) * costs.skippedLine
      if ← hasBetter number newCost then return false
      else if (tables.actions outpost.state ahead.facts.code).isEmpty then
        goBack tables total number ahead cost weight rest
      else
        let first := (← get).count
        let slices ← pop number (if 0 < weight then outpost.depth + 1 else outpost.depth)
        if ← returnTo outpost.state first false slices.toList then return true
        else goBack tables total number ahead cost weight rest

/-- Removes the versions from a number on that do not go on. -/
def removeInactive (first : Nat) : Reading Unit :=
  modify fun p =>
    { p with
      versions := p.versions.extract 0 first ++
        (p.versions.extract first p.versions.size).filter (·.status.isActive) }

/-- Skips a terminal: adds it to the text skipped before it. -/
def skip (tables : Tables) (number : Nat) (ahead : Node) (weight : Nat) : Reading Unit := do
  let isExtra := (tables.actions Tables.startState ahead.facts.code).getLast? = some .extra
  let ahead := if isExtra then ahead.withExtra true else ahead
  let spot := ((← get).top number).spot
  let skipped := Node.skipped spot [ahead]
  if 0 < weight then
    let first := (← get).count
    let slices ← pop number 1
    modify fun p => { p with versions := p.versions.extract 0 (first + 1) }
    replace first number
    let before := ((slices[0]?.map (·.ways)).getD []).headD []
    push number (some (Node.skipped spot (before ++ [skipped]))) Tables.errorState
  else
    push number (some skipped) Tables.errorState
  takeLayout number ahead

/-- Goes back to an earlier state in which a terminal fits, or skips the terminal, or both. At the
end of the text what is left becomes an error. -/
def recover (tables : Tables) (number : Nat) (ahead : Node) : Reading Unit := do
  let first := (← get).count
  let weight ← weightSinceError number
  let cost := costOf (← get) number
  let wentBack ←
    match ((← get).version number).outposts with
    | some outposts =>
      if ahead.isError then pure false else goBack tables first number ahead cost weight outposts
    | none => pure false
  removeInactive first
  if wentBack && (versionLimit < (← get).count || ahead.facts.changesLayout) then halt number
  else if ahead.facts.code = Terminal.finish.code then
    push number (some (Node.error ((← get).top number).spot [])) Tables.startState
    accept tables number ahead
  else
    let newCost := cost + costs.skippedNode + ahead.width * costs.skippedByte +
      (ahead.facts.stop.line - ahead.facts.before.line) * costs.skippedLine
    if ← hasBetter number newCost then halt number
    else skip tables number ahead weight

/-! ### Missing terminals -/

/-- The state that a terminal leads to, if it is a new one. -/
def stateAfter (tables : Tables) (state code : Nat) : Option Nat :=
  match (tables.actions state code).getLast? with
  | some (.shift next _) => if next = Tables.errorState || next = state then none else some next
  | _ => none

/-- Whether a state builds an element before a terminal. -/
def reducesAt (tables : Tables) (state code : Nat) : Bool :=
  match tables.actions state code with
  | .reduce .. :: _ => true
  | _ => false

/-- Looks for a terminal that is missing before the next one, and adds a version in which it is
there. -/
def addMissing (tables : Tables) (number : Nat) (spot : Spot) (ahead : Node) :
    List Terminal → Reading Bool
  | [] => return false
  | terminal :: rest => do
    match stateAfter tables ((← get).top number).state terminal.code with
    | none => addMissing tables number spot ahead rest
    | some next =>
      if reducesAt tables next ahead.facts.code then
        let copy ← duplicate number
        push copy (some (Node.missing terminal spot)) next
        if ← reduceBefore tables copy ahead.facts.code then return true
        else addMissing tables number spot ahead rest
      else addMissing tables number spot ahead rest

/-- Starts an error on top of some versions, after a look for a missing terminal. -/
def startErrors (tables : Tables) (spot : Spot) (ahead : Node) (found : Bool) :
    List Nat → Reading Unit
  | [] => pure ()
  | number :: rest => do
    let found ←
      if found then pure true
      else addMissing tables number spot ahead (Terminal.all.toList.drop 1)
    push number none Tables.errorState
    startErrors tables spot ahead found rest

/-- Merges a number of versions, one after the other, into another one. -/
def mergeRun (target first : Nat) : Nat → Reading Unit
  | 0 => pure ()
  | count + 1 => do
    let _ ← merge target first
    mergeRun target first count

/-- Lets a version go on for which nothing fits. -/
def handleError (tables : Tables) (number : Nat) (ahead : Node) : Reading Unit := do
  let first := (← get).count
  reduceAll tables number
  let process ← get
  let added := (List.range process.count).filter (first ≤ ·)
  startErrors tables (process.top number).spot ahead false (number :: added)
  mergeRun number first added.length
  summarize number
  recover tables number ahead

end DocStubs.Code.Reading
