import DocStubs.Code.Grammar

/-!
# The automaton of a grammar

A *state* stands for all items that are possible at some place. It tells what the reader does at
the next terminal: go on to another state, build an element from the parts read last, or both,
where two readings are possible. `Grammar.states` finds all states that a text can lead to.

Where an element could be built and a terminal could be read as well, the strength of the steps
decides, and the side if the strengths are equal. Some conflicts stay: there the reader follows
both ways. In a repetition the reader never has to look for both, since what is repeated can be
grouped in one way only; a step to be passed over is kept all the same, as it shows that the
terminal fits.

## Main definitions

* `Action` — what the reader does at a terminal
* `State` — the actions of a place, and where complete elements lead
* `Outlook` — what the items of a place lead to
* `Contest.settle` — how conflicts between actions are settled
* `Grammar.states` — the states of a grammar
-/

namespace DocStubs.Code

/-- What the reader does at a terminal. -/
inductive Action where
  /-- Take the terminal and go on in a state. A step that would only regroup a repetition is
  passed over. -/
  | shift (state : Nat) (passedOver : Bool)
  /-- Take the terminal as something that may stand anywhere. -/
  | extra
  /-- Build an element from the parts read last. -/
  | reduce (head size : Nat) (favour : Int) (shown : List (Option Element))
  | accept
  /-- Look for a way to go on after an error. -/
  | recover
  deriving DecidableEq, Repr, Inhabited

/-- A state of the reader. -/
structure State where
  /-- The actions at every terminal. -/
  actions : Array (List Action)
  /-- The states that complete elements lead to, in the order of the elements. -/
  moves : Array (Nat × Nat)
  deriving DecidableEq, Repr, Inhabited

namespace State

/-- The actions at the terminal with a given number. -/
def actionsAt (state : State) (code : Nat) : List Action := state.actions.getD code []

/-- The actions of the state by the terminals that it has actions for. -/
def entries (state : State) : List (Nat × List Action) :=
  state.actions.toList.zipIdx.filterMap fun (actions, code) =>
    if actions.isEmpty then none else some (code, actions)

/-- The terminals that the state has actions for. -/
def allowed (state : State) : TokenSet :=
  state.entries.foldl (fun set (code, _) => set ||| TokenSet.single code) 0

/-- The state that a complete element leads to. -/
def move? (state : State) (head : Nat) : Option Nat :=
  (state.moves.find? (·.1 = head)).map (·.2)

end State

/-! ### Conflicts -/

/-- The ways to build an element that compete at one terminal. -/
structure Contest where
  actions : List Action := []
  strength : Option Int := none
  /-- Whether one of them prefers the left one of two equal operators. -/
  leftward : Bool := false
  /-- Whether one of them prefers the right one of two equal operators. -/
  rightward : Bool := false
  /-- Whether one of them prefers neither. -/
  neutral : Bool := false
  deriving Repr, Inhabited

namespace Contest

/-- The order of two strengths; a missing one is zero. -/
def compareStrength (a b : Option Int) : Ordering := compare (a.getD 0) (b.getD 0)

/-- Adds one more way to build an element. Only the strongest ones are kept. -/
def add (contest : Contest) (item : Item) (action : Action) : Contest :=
  let alone : Contest :=
    { actions := [action], strength := item.strength, leftward := item.side = some .left
      rightward := item.side = some .right, neutral := item.side = none }
  if contest.actions.isEmpty then alone
  else
    match compareStrength item.strength contest.strength with
    | .gt => alone
    | .eq =>
      { actions := contest.actions ++ alone.actions
        strength := alone.strength
        leftward := contest.leftward || alone.leftward
        rightward := contest.rightward || alone.rightward
        neutral := contest.neutral || alone.neutral }
    | .lt => contest

/-- Settles whether the reader takes the terminal, builds an element, or does both. The terminal
is wanted by items with the given strengths. -/
def settle (contest : Contest) (wanted : List (Option Int)) (target : Nat) : List Action :=
  let shift := Action.shift target false
  let stronger := wanted.any fun s => compareStrength s contest.strength = .gt
  let weaker := wanted.any fun s => compareStrength s contest.strength = .lt
  if stronger && !weaker then [shift]
  else if weaker && !stronger then contest.actions
  else if !stronger && !weaker && contest.leftward && !contest.rightward && !contest.neutral then
    contest.actions
  else if !stronger && !weaker && contest.rightward && !contest.leftward && !contest.neutral then
    [shift]
  else contest.actions ++ [shift]

end Contest

/-! ### From items to states -/

/-- What the items of a place lead to. -/
structure Outlook where
  /-- The items after every element. -/
  successors : Array (List (Nat × TokenSet))
  /-- The elements that can be built, by the terminals that follow. -/
  contests : Array Contest
  deriving Inhabited

namespace Outlook

/-- Adds an item to a list in the order of items. -/
def insertItem (item : Nat) (ahead : TokenSet) : List (Nat × TokenSet) → List (Nat × TokenSet)
  | [] => [(item, ahead)]
  | (other, set) :: rest =>
    if item < other then (item, ahead) :: (other, set) :: rest
    else if item = other then (other, set ||| ahead) :: rest
    else (other, set) :: insertItem item ahead rest

/-- What a complete item asks for. -/
def completion (grammar : Grammar) (item : Item) : Action :=
  if item.head = grammar.elements then .accept
  else
    let shown := (item.shown.reverse.dropWhile Option.isNone).reverse
    .reduce item.head item.size item.favour shown

/-- What the items of a place lead to. -/
def ofItems (grammar : Grammar) (sets : Array TokenSet) : Outlook :=
  let start : Outlook :=
    { successors := Array.replicate grammar.elements []
      contests := Array.replicate Terminal.count {} }
  sets.size.fold
    (fun number _ outlook =>
      let ahead := sets.getD number 0
      if ahead = 0 then outlook
      else
        match grammar.nexts.getD number none with
        | some next =>
          { outlook with
            successors := outlook.successors.modify next
              (insertItem (grammar.successors.getD number 0) ahead) }
        | none =>
          let item := grammar.items.getD number default
          let action := completion grammar item
          { outlook with
            contests := (TokenSet.members ahead).foldl
              (fun contests code => contests.modify code (·.add item action))
              outlook.contests })
    start

end Outlook

/-! ### All states -/

/-- States in the making: each has the items it is known by. -/
structure Workshop where
  kernels : Array Grammar.Kernel := #[]
  numbers : Std.HashMap Grammar.Kernel Nat := {}
  states : Array State := #[]
  deriving Inhabited

namespace Workshop

/-- The number of the state with given items. -/
def number (workshop : Workshop) (kernel : Grammar.Kernel) : Nat × Workshop :=
  match workshop.numbers.get? kernel with
  | some number => (number, workshop)
  | none =>
    let number := workshop.kernels.size
    (number, { workshop with
      kernels := workshop.kernels.push kernel, numbers := workshop.numbers.insert kernel number })

/-- The order in which the successors of a state get their numbers: first those after terminals of
the layout. -/
def successorOrder (grammar : Grammar) : List Nat :=
  let layout := Terminal.ofLayout.map Terminal.code
  layout ++ (List.range grammar.elements).filter fun code => !layout.contains code

/-- The states that the elements lead to. -/
def targets (workshop : Workshop) (outlook : Outlook) (order : List Nat) :
    Array (Option Nat) × Workshop :=
  order.foldl
    (fun (targets, workshop) code =>
      match outlook.successors.getD code [] with
      | [] => (targets, workshop)
      | items =>
        let (number, workshop) := workshop.number items.toArray
        (targets.setIfInBounds code (some number), workshop))
    (Array.replicate outlook.successors.size none, workshop)

end Workshop

namespace Grammar

/-- The items of a place of which something is seen, or that are complete. -/
def underway (grammar : Grammar) (sets : Array TokenSet) : List (Item × TokenSet) :=
  sets.size.fold
    (fun number _ found =>
      let ahead := sets.getD number 0
      if ahead = 0 then found
      else
        let item := grammar.items.getD number default
        if 0 < item.seen || item.rest.isEmpty then (item, ahead) :: found else found)
    []

/-- Whether an item wants to read a terminal. -/
def wants (grammar : Grammar) (code : Nat) (item : Item) : Bool :=
  match item.next? with
  | some next => (grammar.firsts.getD next 0).testBit code
  | none => false

/-- Whether the number of an element is the number of a repetition. -/
def isRepetitionCode (code : Nat) : Bool := Terminal.count + Phrase.count ≤ code

/-- The actions at a terminal, if it leads to a state when it is read. -/
def actionsFor (grammar : Grammar) (underway : List (Item × TokenSet)) (code : Nat)
    (contest : Contest) (target? : Option Nat) : List Action :=
  match contest.actions, target? with
  | actions, none => actions
  | [], some target => [.shift target false]
  | actions, some target =>
    let wanting := (underway.filter fun (item, _) => grammar.wants code item).map (·.1)
    let complete := (underway.filter fun (item, ahead) =>
      item.rest.isEmpty && ahead.testBit code).map (·.1)
    match (wanting ++ complete).map (·.head) |>.filter (· ≠ grammar.elements) with
    | head :: others =>
      if isRepetitionCode head && others.all (· = head) then actions ++ [.shift target true]
      else contest.settle (wanting.map (·.strength)) target
    | [] => contest.settle (wanting.map (·.strength)) target

/-- The state with given items. -/
def stateOf (grammar : Grammar) (order : List Nat) (kernel : Kernel) (workshop : Workshop) :
    State × Workshop :=
  let sets := grammar.closure kernel
  let outlook := Outlook.ofItems grammar sets
  let (targets, workshop) := workshop.targets outlook order
  let underway := grammar.underway sets
  let found := (Array.range Terminal.count).map fun code =>
    grammar.actionsFor underway code (outlook.contests.getD code {}) (targets.getD code none)
  let actions := Terminal.extras.foldl
    (fun actions extra =>
      actions.modify extra.code fun old => if old.isEmpty then [.extra] else old)
    found
  let moves := targets.toList.zipIdx.filterMap fun (target, code) =>
    if Element.isTerminalCode code then none else target.map fun number => (code, number)
  ({ actions, moves := moves.toArray }, workshop)

/-- Makes the states that are not made yet, at most a number of them. -/
def makeStates (grammar : Grammar) (order : List Nat) : Nat → Workshop → Workshop
  | 0, workshop => workshop
  | rounds + 1, workshop =>
    match workshop.kernels[workshop.states.size]? with
    | none => workshop
    | some kernel =>
      let (state, workshop) := grammar.stateOf order kernel workshop
      makeStates grammar order rounds { workshop with states := workshop.states.push state }

/-- More states than the grammar of any language of this size has. -/
def stateLimit : Nat := 100000

/-- The states of a grammar with their items. The first one, with no items, is the state after an
error; the second one is the state at the start of a text. -/
def states (grammar : Grammar) : Workshop :=
  let start : Workshop := {}
  let (_, withError) := start.number #[]
  let (_, withStart) := withError.number #[(grammar.start, TokenSet.single Terminal.finish.code)]
  grammar.makeStates (Workshop.successorOrder grammar) stateLimit withStart

end Grammar

end DocStubs.Code
