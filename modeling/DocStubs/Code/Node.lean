import DocStubs.Code.Layout
import DocStubs.Code.Phrase

/-!
# Trees while a text is read

A `Node` is a terminal of the text, or an element with the nodes it was built from. Text that fits
nowhere is kept in trees too, as an *error*: what was skipped, and what had been read before it
and could not be completed. A terminal that is not in the text but would make it fit is *missing*.

Of several ways to read a text the cheapest one is wanted. Every error has a cost, which grows
with the lines, the bytes and the nodes that are skipped, and so has every missing terminal.
Nodes of equal costs are told apart by their favour, and by a fixed order if need be.

## Main definitions

* `Node` — the trees
* `Node.cost` — what the errors in a tree cost
* `Node.leaf`, `Node.missing`, `Node.build` — new trees
* `Node.compare`, `Node.yields` — which of two trees is kept
* `Node.resembles` — whether two trees count as one
-/

namespace DocStubs.Code

/-- What the errors in a text cost. -/
structure Costs where
  recovery : Nat := 500
  missing : Nat := 110
  skippedNode : Nat := 100
  skippedLine : Nat := 30
  skippedByte : Nat := 1

/-- The costs of errors. -/
def costs : Costs := {}

/-- What is known of a node besides its parts. -/
structure Facts where
  /-- The number of the element. -/
  code : Nat
  /-- Where the separators before it start. -/
  before : Spot
  start : Spot
  stop : Spot
  /-- Whether it may stand anywhere. -/
  isExtra : Bool := false
  isMissing : Bool := false
  /-- The cost of the errors in its parts, and of the error that it is. -/
  partCost : Nat := 0
  favour : Int := 0
  isShown : Bool := false
  /-- The number of nodes directly in it that appear in trees. -/
  shownParts : Nat := 0
  /-- The number of all nodes in it that appear in trees. -/
  shownInside : Nat := 0
  /-- The layout after it, if it is a terminal of the layout. -/
  layout : Option Layout := none
  /-- Whether it changed the layout. -/
  changesLayout : Bool := false
  /-- Whether it is spelled like a keyword. -/
  isWord : Bool := false
  /-- What its parts appear as. -/
  shownAs : List (Option Element) := []
  deriving Inhabited

/-- A terminal of a text, or an element with its parts. -/
inductive Node where
  | mk (facts : Facts) (parts : List Node)
  deriving Inhabited

namespace Node

/-- The number of errors as elements, which no element of a grammar has. -/
def errorCode : Nat := 65535

/-- The number of skipped text that more can be added to. -/
def skippedCode : Nat := 65534

/-- What is known of a node besides its parts. -/
def facts : Node → Facts
  | mk facts _ => facts

/-- The parts of a node. -/
def parts : Node → List Node
  | mk _ parts => parts

/-- Whether the node is an error. -/
def isError (node : Node) : Bool := node.facts.code = errorCode

/-- What the errors in a tree cost. -/
def cost (node : Node) : Nat :=
  if node.facts.isMissing then costs.missing + costs.recovery else node.facts.partCost

/-- How many bytes the node has, with the separators before it. -/
def width (node : Node) : Nat := node.facts.stop.offset - node.facts.before.offset

/-- How many nodes the tree counts for when progress is measured. -/
def weight (node : Node) : Nat :=
  node.facts.shownInside + (if node.facts.isShown then 1 else 0) +
    (if node.facts.code = skippedCode then 1 else 0)

/-- Marks a node as one that may stand anywhere, or as one that may not. -/
def withExtra (isExtra : Bool) : Node → Node
  | mk facts parts => mk { facts with isExtra } parts

/-- A terminal. -/
def leaf (terminal : Terminal) (before start stop : Spot) : Node :=
  mk { code := terminal.code, before, start, stop, isShown := terminal.isShown } []

/-- A terminal that is not in the text. -/
def missing (terminal : Terminal) (spot : Spot) : Node :=
  mk { code := terminal.code, before := spot, start := spot, stop := spot, isMissing := true
       isShown := terminal.isShown } []

/-- Text that is no terminal. -/
def unread (before start stop : Spot) : Node :=
  mk { code := errorCode, before, start, stop, isShown := true } []

/-! ### Building -/

/-- Sums over the parts of a node. -/
structure Sums where
  cost : Nat := 0
  favour : Int := 0
  shownParts : Nat := 0
  shownInside : Nat := 0

/-- What one part of an error costs by itself. -/
def skippedCost (part : Node) : Nat :=
  if part.facts.isExtra || (part.isError && part.parts.isEmpty) then 0
  else if part.facts.isShown then costs.skippedNode
  else if part.parts.isEmpty then 0
  else costs.skippedNode * part.facts.shownParts

/-- Adds up the parts of a node; `shownAs` tells what those that are no extras appear as. -/
def sums (inError : Bool) (total : Sums) : List (Option Element) → List Node → Sums
  | _, [] => total
  | shownAs, part :: rest =>
    let label := if part.facts.isExtra then none else shownAs.head?.join
    let appears := label.isSome || part.facts.isShown
    let next : Sums :=
      { cost := total.cost + (if part.facts.code = skippedCode then 0 else part.cost) +
          (if inError then skippedCost part else 0)
        favour := total.favour + part.facts.favour
        shownParts := total.shownParts +
          (if appears then 1 else if part.parts.isEmpty then 0 else part.facts.shownParts)
        shownInside := total.shownInside + part.facts.shownInside + (if appears then 1 else 0) }
    sums inError next (if part.facts.isExtra then shownAs else shownAs.tail) rest

/-- Builds an element from its parts. It stands at the given place if it has none. -/
def build (code : Nat) (isShown : Bool) (shownAs : List (Option Element)) (spot : Spot)
    (parts : List Node) : Node :=
  let first := (parts.head?.map facts).getD { code, before := spot, start := spot, stop := spot }
  let last := (parts.getLast?.map facts).getD first
  let inError := code = errorCode || code = skippedCode
  let total := sums inError {} shownAs parts
  let ownCost :=
    if inError then
      costs.recovery + costs.skippedByte * (last.stop.offset - first.start.offset) +
        costs.skippedLine * (last.stop.line - first.start.line)
    else 0
  mk { code, before := first.before, start := first.start, stop := last.stop, isShown, shownAs
       partCost := total.cost + ownCost, favour := total.favour
       shownParts := total.shownParts, shownInside := total.shownInside } parts

/-- An error with what was skipped. -/
def error (spot : Spot) (parts : List Node) : Node := build errorCode true [] spot parts

/-- Skipped text that more can be added to. -/
def skipped (spot : Spot) (parts : List Node) : Node := build skippedCode false [] spot parts

/-- Adds to the favour of a node. -/
def favoured (favour : Int) : Node → Node
  | mk facts parts => mk { facts with favour := facts.favour + favour } parts

/-! ### Choosing -/

mutual

/-- A fixed order of trees: by their elements, then by the number of their parts, then by the
parts. -/
def compare : Node → Node → Ordering
  | mk facts parts, mk facts' parts' =>
    (Ord.compare facts.code facts'.code).then
      ((Ord.compare parts.length parts'.length).then (compareAll parts parts'))

/-- The order of two lists of trees of one length. -/
def compareAll : List Node → List Node → Ordering
  | [], _ | _, [] => .eq
  | a :: as, b :: bs => (compare a b).then (compareAll as bs)

end

/-- Whether the second one of two trees is kept. -/
def yields (first second : Node) : Bool :=
  if first.cost ≠ second.cost then second.cost < first.cost
  else if first.facts.favour ≠ second.facts.favour then first.facts.favour < second.facts.favour
  else if 0 < first.cost then true
  else compare first second = .gt

/-- Whether two trees count as one: elements with errors do whatever is in them, others if they
have the same extent and the same number of parts. -/
def resembles (first second : Node) : Bool :=
  let a := first.facts
  let b := second.facts
  a.code = b.code &&
    ((0 < first.cost && 0 < second.cost) ||
      (a.start.offset - a.before.offset = b.start.offset - b.before.offset &&
        a.stop.offset - a.start.offset = b.stop.offset - b.start.offset &&
        first.parts.length = second.parts.length && a.isExtra = b.isExtra && a.layout = b.layout))

end Node

end DocStubs.Code
