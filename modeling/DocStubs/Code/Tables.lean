import DocStubs.Code.Automaton
import DocStubs.Code.Layout

/-!
# Tables

Most states of an automaton differ only in the terminals they allow. Such states are merged, so
that a place may allow a terminal that cannot follow there; the reader then finds the error a
little later, and reports it at another place. What is merged therefore shows, and has to follow a
rule:

* states of one *core*, that is with the same items, are taken together;
* two of them part if they act differently at some terminal, or if one of them allows a terminal
  that must not be added to the other one;
* groups part further as long as their members lead to different groups.

## Main definitions

* `Terminal.masks` — the terminals that must not be added where others are allowed
* `Merging.separate` — a group and those of its members that part from it
* `Merging.groups` — the groups of states that are merged
* `Tables` — the merged states with their vocabularies
* `tables` — the tables of the grammar of modules
-/

namespace DocStubs.Code

/-- The literals that start with another one and go on with a character that may follow it. -/
def Terminal.extensions : List (String × String) :=
  [("assert", "as"), ("async", "as"), (":=", ":"), ("**", "*"), ("**=", "*"), ("...", ".")]

/-- Whether a terminal that is added where another one is allowed could be found in its place. -/
def Terminal.masks (added present : Terminal) : Bool :=
  match added, present with
  | literal long, literal short => extensions.contains (long, short)
  | literal "except*", name | float, integer | escape, backslash => true
  | formatText, literal text | literal text, formatText => text ≠ "\x7b" && text ≠ "\x7d"
  | formatText, _ | _, formatText => true
  | _, _ => false

namespace Merging

/-- For every terminal the terminals that mask it. -/
def maskers : Array TokenSet :=
  Terminal.all.map fun present =>
    Terminal.all.toList.zipIdx.foldl
      (fun set (added, code) =>
        if added.masks present then set ||| TokenSet.single code else set) 0

/-- The terminals that must not be added to a place that allows those with the given numbers. -/
def refused (maskers : Array TokenSet) (guides allowed : TokenSet) (codes : List Nat) : TokenSet :=
  let found := codes.foldl (fun set code => set ||| maskers.getD code 0) guides
  found ^^^ (found &&& allowed)

/-- Whether two actions differ, when states lead to groups. -/
def actionsDiffer (group : Nat → Nat) : List Action → List Action → Bool
  | [], [] => false
  | .shift a passedOver :: as, .shift b passedOver' :: bs =>
    group a ≠ group b || passedOver ≠ passedOver' || actionsDiffer group as bs
  | a :: as, b :: bs => a ≠ b || actionsDiffer group as bs
  | _, _ => true

/-- The state that the last one of some actions leads to. -/
def target? : List Action → Option Nat
  | [] => none
  | [.shift state _] => some state
  | _ :: rest => target? rest

/-- A state with its actions, the terminals it leads on at, and the terminals that must not be
added to it. -/
structure Member where
  state : State
  entries : List (Nat × List Action)
  shifts : List (Nat × Nat)
  allowed : TokenSet
  refused : TokenSet
  deriving Inhabited

/-- A state as a member of a group. -/
def Member.of (maskers : Array TokenSet) (guides : TokenSet) (state : State) : Member :=
  let entries := state.entries
  let allowed := state.allowed
  { state, entries, allowed
    shifts := entries.filterMap fun (code, actions) =>
      (target? actions).map fun next => (code, next)
    refused := Merging.refused maskers guides allowed (entries.map (·.1)) }

/-- Whether two states cannot be merged: they differ in what they do at a terminal that both
allow, or one of them allows a terminal that must not be added to the other one. -/
def Member.isUnlike (group : Nat → Nat) (a b : Member) : Bool :=
  a.allowed &&& b.refused ≠ 0 || b.allowed &&& a.refused ≠ 0 ||
  a.entries.any fun (code, actions) =>
    match b.state.actionsAt code with
    | [] => false
    | others => actionsDiffer group actions others

/-- Whether two states of one core lead to different groups. -/
def Member.isApart (group : Nat → Nat) (a b : Member) : Bool :=
  (a.state.moves.zip b.state.moves).any (fun (x, y) => group x.2 ≠ group y.2) ||
  a.shifts.any fun (code, x) =>
    match target? (b.state.actionsAt code) with
    | some y => group x ≠ group y
    | none => false

/-- Splits a group: those members that differ from one that stays part from it. -/
def separate (differ : Nat → Nat → Bool) : List Nat → List Nat × List Nat
  | [] => ([], [])
  | first :: rest =>
    let parted := separate differ (rest.filter fun other => !differ first other)
    (first :: parted.1, rest.filter (differ first) ++ parted.2)
termination_by members => members.length
decreasing_by
  simp only [List.length_unattach, List.length_cons]
  exact Nat.lt_succ_of_le
    (Nat.le_trans (List.length_filter_le ..) (Nat.le_of_eq List.length_attach))

/-- A partition of the states: the members of every group, and the group of every state. -/
structure Partition where
  groups : Array (List Nat)
  groupOf : Array Nat
  deriving Inhabited

namespace Partition

/-- Splits the group with a given number; what parts from it becomes the last group. -/
def splitGroup (differ : (Nat → Nat) → Nat → Nat → Bool) (partition : Partition) (number : Nat) :
    Partition :=
  let group (state : Nat) := partition.groupOf.getD state 0
  match separate (differ group) (partition.groups.getD number []) with
  | (_, []) => partition
  | (kept, parted) =>
    { groups := (partition.groups.setIfInBounds number kept).push parted
      groupOf := parted.foldl (fun groupOf state =>
        groupOf.setIfInBounds state partition.groups.size) partition.groupOf }

/-- Splits the groups from a given number on, also those that come up on the way. -/
def splitFrom (differ : (Nat → Nat) → Nat → Nat → Bool) (number : Nat) :
    Nat → Partition → Partition
  | 0, partition => partition
  | rounds + 1, partition =>
    if number < partition.groups.size then
      splitFrom differ (number + 1) rounds (partition.splitGroup differ number)
    else partition

/-- Splits all groups until none can be split any more. There are at most as many groups as there
are states. -/
def splitAll (differ : (Nat → Nat) → Nat → Nat → Bool) : Nat → Partition → Partition
  | 0, partition => partition
  | rounds + 1, partition =>
    let next := partition.splitFrom differ 0 partition.groupOf.size
    if next.groups.size = partition.groups.size then next else splitAll differ rounds next

end Partition

/-- The states by their cores. -/
def byCore (kernels : Array Grammar.Kernel) : Partition :=
  let start : Std.HashMap (Array Nat) Nat × Partition :=
    ({}, { groups := #[], groupOf := #[] })
  (kernels.foldl
    (fun (cores, partition) kernel =>
      let core := kernel.map (·.1)
      let state := partition.groupOf.size
      match cores.get? core with
      | some number =>
        (cores, { groups := partition.groups.modify number (· ++ [state])
                  groupOf := partition.groupOf.push number })
      | none =>
        let number := partition.groups.size
        (cores.insert core number,
          { groups := partition.groups.push [state], groupOf := partition.groupOf.push number }))
    start).2

/-- The groups of states that are merged. -/
def groups (workshop : Workshop) : Partition :=
  let guides := (Terminal.guides.map fun t => TokenSet.single t.code).foldl (· ||| ·) 0
  let members := workshop.states.map (Member.of maskers guides)
  let member (number : Nat) : Member := members.getD number default
  let unlike (group : Nat → Nat) (a b : Nat) : Bool := (member a).isUnlike group (member b)
  let apart (group : Nat → Nat) (a b : Nat) : Bool := (member a).isApart group (member b)
  let partition := byCore workshop.kernels
  (partition.splitFrom unlike 0 members.size).splitAll apart members.size

/-- One state in place of all members of a group. -/
def merged (states : Array State) (partition : Partition) (members : List Nat) : State :=
  let group (state : Nat) := partition.groupOf.getD state 0
  let renamed (action : Action) : Action :=
    match action with
    | .shift state passedOver => .shift (group state) passedOver
    | other => other
  let first := states.getD (members.headD 0) default
  let actions := (Array.range Terminal.count).map fun code =>
    let found := members.findSome? fun member =>
      match (states.getD member default).actionsAt code with
      | [] => none
      | actions => some (actions.map renamed)
    found.getD []
  { actions, moves := first.moves.map fun (code, target) => (code, group target) }

end Merging

/-- What the reader goes by. -/
structure Tables where
  states : Array State
  /-- The vocabulary of every state. -/
  vocabularies : Array Vocabulary
  /-- What every state wishes of the layout. -/
  wishes : Array Wishes
  /-- The elements by their numbers. -/
  elements : Array Element
  deriving Inhabited

namespace Tables

/-- The state after an error. -/
def errorState : Nat := 0

/-- The state at the start of a text. -/
def startState : Nat := 1

/-- After an error every terminal but the text of a format makes the reader look for a way to go
on. -/
def recovering (state : State) : State :=
  { state with
    actions := (state.actions.zip Terminal.all).map fun (actions, terminal) =>
      if actions.isEmpty && terminal ≠ .formatText then [.recover] else actions }

/-- The vocabulary of a state: the first one that does. -/
def vocabularyOf (allowed : TokenSet) : Vocabulary :=
  let terminals := (TokenSet.members allowed).filterMap fun code => Terminal.all[code]?
  (Vocabulary.all.find? fun vocabulary => vocabulary.serves terminals).getD Vocabulary.whole

/-- The vocabularies of some states. Many states allow the same terminals. -/
def vocabulariesOf (states : Array State) : Array Vocabulary :=
  let start : Std.HashMap TokenSet Vocabulary × Array Vocabulary := ({}, #[])
  (states.foldl
    (fun (known, vocabularies) state =>
      let allowed := state.allowed
      match known.get? allowed with
      | some vocabulary => (known, vocabularies.push vocabulary)
      | none =>
        let vocabulary := vocabularyOf allowed
        (known.insert allowed vocabulary, vocabularies.push vocabulary))
    start).2

/-- What a state wishes of the layout. -/
def wishesOf (state : State) : Wishes :=
  Wishes.ofAllowed fun terminal => !(state.actionsAt terminal.code).isEmpty

/-- The elements of a list of rules, with a number of repetitions, by their numbers. -/
def elementsOf (rules : List (Phrase × Rule)) (count : Nat) : Array Element :=
  let terminals := Terminal.all.map Element.terminal
  let repetitions := (Array.range (count - terminals.size)).map fun index =>
    Element.repetition (index - Phrase.count)
  rules.foldl
    (fun elements (phrase, _) =>
      elements.setIfInBounds (Element.phrase phrase).code (.phrase phrase))
    (terminals ++ repetitions)

/-- The tables of a list of rules. -/
def ofRules (rules : List (Phrase × Rule)) : Tables :=
  let grammar := Grammar.ofRules rules
  let workshop := grammar.states
  let partition := Merging.groups workshop
  let merged := partition.groups.map (Merging.merged workshop.states partition)
  let vocabularies := vocabulariesOf merged
  { states := merged.modify errorState recovering
    vocabularies := vocabularies.setIfInBounds errorState Vocabulary.whole
    wishes := (merged.map wishesOf).setIfInBounds errorState Wishes.everything
    elements := elementsOf rules grammar.elements }

/-- The state with a given number. -/
def state (tables : Tables) (number : Nat) : State := tables.states.getD number default

/-- The vocabulary of a state. -/
def vocabulary (tables : Tables) (number : Nat) : Vocabulary :=
  tables.vocabularies.getD number Vocabulary.whole

/-- What a state wishes of the layout. -/
def wishesAt (tables : Tables) (number : Nat) : Wishes :=
  tables.wishes.getD number Wishes.everything

/-- The element with a given number. -/
def element? (tables : Tables) (code : Nat) : Option Element := tables.elements[code]?

/-- Whether the element with a given number appears in trees. -/
def isShown (tables : Tables) (code : Nat) : Bool := (tables.element? code).any Element.isShown

/-- The actions of a state at a terminal. -/
def actions (tables : Tables) (number code : Nat) : List Action :=
  (tables.state number).actionsAt code

/-- The state that a complete element leads to. -/
def move (tables : Tables) (number head : Nat) : Nat :=
  ((tables.state number).move? head).getD errorState

end Tables

/-- The tables of the grammar of modules. -/
def tables : Tables := Tables.ofRules rules

end DocStubs.Code
