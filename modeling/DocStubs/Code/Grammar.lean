import DocStubs.Code.Rules

/-!
# Items

An *item* is a production of which the reader has seen the first steps. The reader follows all
items at once that are possible at some place; with each of them goes the set of the terminals
that may follow the element when it is complete.

Items that differ only in steps already seen are one item: what was seen matters no more, except
for how it appears.

## Main definitions

* `TokenSet` — sets of terminals
* `Item` — a production of which the first steps are seen
* `Grammar` — the items of a list of rules, in order, with their links to each other
* `Grammar.closure` — all items that are possible together with given ones
* `Grammar.ofRules` — the grammar of a list of rules
-/

namespace DocStubs.Code

/-! ### Sets of terminals -/

/-- A set of terminals, given by the bits of a number. -/
abbrev TokenSet := Nat

namespace TokenSet

/-- The set of one terminal. -/
def single (code : Nat) : TokenSet := 1 <<< code

/-- The numbers of the terminals in a set. -/
def members (set : TokenSet) : List Nat := (List.range Terminal.count).filter set.testBit

end TokenSet

/-! ### Items -/

/-- A production of which the first steps are seen. -/
structure Item where
  /-- The number of the element that is built. -/
  head : Nat
  /-- How many steps are seen. -/
  seen : Nat := 0
  /-- How many steps there are. -/
  size : Nat
  favour : Int
  /-- The strength of the last step seen. -/
  strength : Option Int := none
  /-- The side of the last step seen. -/
  side : Option Side := none
  /-- What the steps seen appear as. -/
  shown : List (Option Element) := []
  /-- The steps to come. -/
  rest : List Step
  deriving DecidableEq, Repr, Inhabited, Hashable

namespace Item

/-- A production of which nothing is seen. -/
def ofProduction (production : Production) : Item :=
  { head := production.head, size := production.steps.length, favour := production.favour
    rest := production.steps }

/-- The item after one more step. -/
def advance (item : Item) : Item :=
  match item.rest with
  | [] => item
  | step :: rest =>
    { item with seen := item.seen + 1, strength := step.strength, side := step.side
                shown := item.shown ++ [step.shownAs], rest }

/-- An item and what becomes of it, up to a number of steps. -/
def stages (item : Item) : Nat → List Item
  | 0 => [item]
  | steps + 1 => item :: item.advance.stages steps

/-- The place of an item in the order of items. -/
def key (item : Item) : List Int :=
  let strengthKey : List Int :=
    match item.strength with
    | none => [0, 0]
    | some strength => [1, strength]
  let sideKey : Int :=
    match item.side with
    | none => 0
    | some .left => 1
    | some .right => 2
  let counts : List Int := [item.seen, item.head, item.favour, item.size]
  counts ++ strengthKey ++ [sideKey]

/-- The number of the element to come. -/
def next? (item : Item) : Option Nat := item.rest.head?.map (·.code)

end Item

/-! ### Grammars -/

/-- An item that comes with every item in front of some element: the terminals that may follow
it, and whether those that may follow the element are among them. -/
structure Addition where
  item : Nat
  ahead : TokenSet
  inherits : Bool
  deriving Repr, Inhabited

/-- The items of a list of rules. Items and elements are given by their numbers. -/
structure Grammar where
  items : Array Item
  /-- The item after one more step. -/
  successors : Array Nat
  /-- The element to come. -/
  nexts : Array (Option Nat)
  /-- The element after the one to come. -/
  seconds : Array (Option Nat)
  /-- The terminals that an element can start with. -/
  firsts : Array TokenSet
  /-- The items that come with an item in front of an element. -/
  additions : Array (Array Addition)
  /-- The number of elements. -/
  elements : Nat
  /-- The item of a whole text of which nothing is seen. -/
  start : Nat
  deriving Inhabited

namespace Grammar

/-- Repeats a step until nothing changes, at most a number of times. -/
def settle {α : Type} [BEq α] (step : α → α) : Nat → α → α
  | 0, state => state
  | rounds + 1, state =>
    let next := step state
    if next == state then state else settle step rounds next

/-- The terminals that every element can start with. -/
def firstSets (elements : Nat) (productions : List Production) : Array TokenSet :=
  let initial := (Array.range elements).map fun code =>
    if Element.isTerminalCode code then TokenSet.single code else 0
  let grow (sets : Array TokenSet) : Array TokenSet :=
    productions.foldl
      (fun sets production =>
        match production.steps with
        | [] => sets
        | step :: _ => sets.modify production.head (· ||| sets.getD step.code 0))
      sets
  settle grow elements initial

/-- How an element follows from another one that it starts: the terminals that may follow it
there, or none if it is the whole of it. -/
abbrev Corner := Nat × Option TokenSet

/-- The elements that every element can start with. -/
def cornersOf (elements : Nat) (firsts : Array TokenSet) (productions : List Production) :
    Array (List Corner) :=
  productions.foldl
    (fun corners production =>
      match production.steps with
      | [] => corners
      | [step] =>
        if Element.isTerminalCode step.code then corners
        else corners.modify production.head ((step.code, none) :: ·)
      | step :: second :: _ =>
        if Element.isTerminalCode step.code then corners
        else corners.modify production.head
          ((step.code, some (firsts.getD second.code 0)) :: ·))
    (Array.replicate elements [])

/-- The elements that an element can start with, at any depth, with the terminals that may follow
them and whether those that may follow the element are among them. -/
def reach (elements : Nat) (corners : Array (List Corner)) (code : Nat) :
    Array (Option (TokenSet × Bool)) :=
  let join (known : Option (TokenSet × Bool)) (ahead : TokenSet) (inherits : Bool) :
      Option (TokenSet × Bool) :=
    match known with
    | none => some (ahead, inherits)
    | some (set, flag) => some (set ||| ahead, flag || inherits)
  let grow (reached : Array (Option (TokenSet × Bool))) : Array (Option (TokenSet × Bool)) :=
    (List.range elements).foldl
      (fun reached source =>
        match reached.getD source none with
        | none => reached
        | some (ahead, inherits) =>
          (corners.getD source []).foldl
            (fun reached corner =>
              match corner.2 with
              | none => reached.modify corner.1 (join · ahead inherits)
              | some set => reached.modify corner.1 (join · set false))
            reached)
      reached
  settle grow elements ((Array.replicate elements none).setIfInBounds code (some (0, true)))

/-- The grammar of a list of rules, of which the first one is the rule of a whole text. -/
def ofRules (rules : List (Phrase × Rule)) : Grammar :=
  let (productions, repetitions) := Production.ofRules rules
  let elements := Terminal.count + Phrase.count + repetitions
  let whole : Production :=
    { head := elements, steps := [{ code := (Element.phrase .module).code }] }
  let staged := (whole :: productions).flatMap fun production =>
    (Item.ofProduction production).stages production.steps.length
  let precedes (a b : Item) : Bool := !decide (b.key < a.key)
  let items := (staged.eraseDupsBy (· == ·)).mergeSort precedes
  let numbers : Std.HashMap Item Nat := Std.HashMap.ofList items.zipIdx
  let number (item : Item) : Nat := numbers.getD item 0
  let firsts := firstSets elements productions
  let corners := cornersOf elements firsts productions
  let heads := productions.foldl
    (fun (heads : Array (List Nat)) production =>
      heads.modify production.head (number (Item.ofProduction production) :: ·))
    (Array.replicate elements [])
  let additionsOf (code : Nat) : Array Addition :=
    if Element.isTerminalCode code then #[]
    else
      let reached := reach elements corners code
      ((List.range elements).flatMap fun source =>
        match reached.getD source none with
        | none => []
        | some (ahead, inherits) =>
          (heads.getD source []).map fun item => { item, ahead, inherits }).toArray
  { items := items.toArray
    successors := (items.map fun item => number item.advance).toArray
    nexts := (items.map Item.next?).toArray
    seconds := (items.map fun item => item.advance.next?).toArray
    firsts
    additions := (Array.range elements).map additionsOf
    elements
    start := number (Item.ofProduction whole) }

/-- The items at some place that cannot be told from their first steps alone: each item with the
terminals that may follow its element. -/
abbrev Kernel := Array (Nat × TokenSet)

/-- All items that are possible together with the given ones: the terminals that may follow their
elements, by the number of the item. Zero means that the item is not possible. -/
def closure (grammar : Grammar) (kernel : Kernel) : Array TokenSet :=
  let given := kernel.foldl (fun sets (item, ahead) => sets.modify item (· ||| ahead))
    (Array.replicate grammar.items.size 0)
  kernel.foldl
    (fun sets (item, ahead) =>
      match grammar.nexts.getD item none with
      | none => sets
      | some next =>
        let following :=
          match grammar.seconds.getD item none with
          | some second => grammar.firsts.getD second 0
          | none => ahead
        (grammar.additions.getD next #[]).foldl
          (fun sets addition =>
            sets.modify addition.item
              (· ||| (if addition.inherits then addition.ahead ||| following
                      else addition.ahead)))
          sets)
    given

end Grammar

end DocStubs.Code
