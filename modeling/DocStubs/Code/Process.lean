import DocStubs.Code.Node

/-!
# Several readings at once

Where a text can be read in two ways, and where it cannot be read at all, several *versions* of
the reading are followed at once. A version is a stack of nodes with states between them. The
stacks share what they have in common: a `Vertex` stands for all stacks that end in one state, and
its links lead to the vertices below, through the nodes on top of these. Two versions that come to
the same state at the same place are merged into one, which then has several links.

## Main definitions

* `Vertex`, `Link` — stacks that share their parts
* `Version` — one version of a reading
* `Process` — all versions, and the best tree of the whole text so far
* `Process.push`, `Process.merge`, `Process.pop` — the operations on versions
* `Process.summarize` — the states a version could go back to after an error
-/

namespace DocStubs.Code

/-- A way down from a vertex; there is no node where an error starts. -/
structure Link where
  below : Nat
  node? : Option Node
  deriving Inhabited

/-- The stacks that end in one state at one place. -/
structure Vertex where
  state : Nat
  links : List Link
  spot : Spot
  cost : Nat := 0
  favour : Int := 0
  /-- How many nodes were read. -/
  weight : Nat := 0
  deriving Inhabited

/-- Whether a version goes on. -/
inductive Status where
  | active
  /-- Nothing fits the given terminal. -/
  | paused (ahead : Node)
  | halted
  deriving Inhabited

namespace Status

/-- Whether the version goes on. -/
def isActive : Status → Bool
  | active => true
  | _ => false

/-- Whether nothing fits the next terminal. -/
def isPaused : Status → Bool
  | paused _ => true
  | _ => false

/-- Whether the version has ended. -/
def isHalted : Status → Bool
  | halted => true
  | _ => false

end Status

/-- A state below the top of a version. -/
structure Outpost where
  spot : Spot
  depth : Nat
  state : Nat
  deriving Inhabited

/-- One version of a reading. -/
structure Version where
  vertex : Nat
  /-- How many nodes had been read at the last error. -/
  weightAtError : Nat := 0
  layout : Option Layout := none
  status : Status := .active
  /-- Where the version could go back to after the last error. -/
  outposts : Option (List Outpost) := none
  deriving Inhabited

/-- A text while it is read. -/
structure Process where
  vertices : Array Vertex
  versions : Array Version
  /-- The best tree of the whole text so far. -/
  finished : Option Node := none
  /-- How many trees of the whole text were found. -/
  acceptances : Nat := 0
  deriving Inhabited

/-- Steps of a reading. -/
abbrev Reading := StateM Process

namespace Process

/-- How many versions are kept. -/
def versionLimit : Nat := 6

/-- By how many versions the limit may be exceeded for a while. -/
def versionExcess : Nat := 4

/-- How many links a vertex has at most. -/
def linkLimit : Nat := 8

/-- How many ways down are followed at once. -/
def walkerLimit : Nat := 64

/-- How deep below an error states are looked for. -/
def outpostDepth : Nat := 16

/-- A process at the start of a text. -/
def start (state : Nat) (spot : Spot) : Process :=
  { vertices := #[{ state, links := [], spot }], versions := #[{ vertex := 0 }] }

/-- The version with a given number. -/
def version (process : Process) (number : Nat) : Version := process.versions.getD number default

/-- The vertex with a given number. -/
def vertex (process : Process) (number : Nat) : Vertex := process.vertices.getD number default

/-- The vertex on top of a version. -/
def top (process : Process) (number : Nat) : Vertex :=
  process.vertex (process.version number).vertex

/-- The number of versions. -/
def count (process : Process) : Nat := process.versions.size

end Process

namespace Reading

open Process

/-- Changes a version. -/
def change (number : Nat) (f : Version → Version) : Reading Unit :=
  modify fun p => { p with versions := p.versions.modify number f }

/-- Ends a version. -/
def halt (number : Nat) : Reading Unit := change number ({ · with status := .halted })

/-- Removes a version. -/
def remove (number : Nat) : Reading Unit :=
  modify fun p => { p with versions := p.versions.eraseIdxIfInBounds number }

/-- Puts one version in the place of another one, which may leave its outposts to it. -/
def replace (source target : Nat) : Reading Unit :=
  if source = target then pure ()
  else modify fun p =>
    let version := p.version source
    let outposts := version.outposts.or (p.version target).outposts
    { p with
      versions := (p.versions.setIfInBounds target { version with outposts }).eraseIdxIfInBounds
        source }

/-- Adds a copy of a version, and tells its number. -/
def duplicate (number : Nat) : Reading Nat :=
  modifyGet fun p =>
    (p.versions.size,
      { p with versions := p.versions.push { p.version number with outposts := none } })

/-! ### Pushing -/

/-- The vertex above another one. -/
def above (number : Nat) (below : Vertex) (state : Nat) : Option Node → Vertex
  | none => { below with state, links := [{ below := number, node? := none }] }
  | some node =>
    { state, links := [{ below := number, node? := some node }], spot := node.facts.stop
      cost := below.cost + node.cost, favour := below.favour + node.facts.favour
      weight := below.weight + node.weight }

/-- Puts a node on top of a version, or the start of an error. -/
def push (number : Nat) (node? : Option Node) (state : Nat) : Reading Unit :=
  modify fun p =>
    let version := p.version number
    let vertex := above version.vertex (p.vertex version.vertex) state node?
    let weightAtError := if node?.isNone then vertex.weight else version.weightAtError
    let vertices := p.vertices.push vertex
    { p with
      versions := p.versions.setIfInBounds number
        { version with vertex := vertices.size - 1, weightAtError }
      vertices }

/-- Puts several nodes on top of a version. -/
def pushAll (number : Nat) (state : Nat) : List Node → Reading Unit
  | [] => pure ()
  | node :: rest => do
    push number (some node) state
    pushAll number state rest

/-! ### Merging -/

/-- Whether the nodes of two links count as one. -/
def sameNode : Option Node → Option Node → Bool
  | none, none => true
  | some a, some b => a.resembles b
  | _, _ => false

/-- Whether two vertices stand for stacks that can be merged. -/
def sameKind (a b : Vertex) : Bool :=
  a.state = b.state && a.spot.offset = b.spot.offset && a.cost = b.cost

/-- The favour of the stacks that a link leads to. -/
def linkFavour (process : Process) (link : Link) : Int :=
  (process.vertex link.below).favour + (link.node?.map (·.facts.favour)).getD 0

/-- Adds a link to a vertex. If the vertex has a link like it, the stacks below are merged. The
depth bounds how far down this goes. -/
def addLink (process : Process) : Nat → Nat → Link → Process
  | 0, _, _ => process
  | depth + 1, number, link =>
    let vertex := process.vertex number
    let favour := linkFavour process link
    let alike (other : Link) : Bool :=
      sameNode other.node? link.node? &&
        (other.below = link.below ||
          sameKind (process.vertex other.below) (process.vertex link.below))
    if link.below = number then process
    else
      match vertex.links.findIdx? alike with
      | some index =>
        let other := vertex.links.getD index default
        if other.below = link.below then
          let favourOf (l : Link) : Int := (l.node?.map (·.facts.favour)).getD 0
          if favourOf other < favourOf link then
            { process with
              vertices := process.vertices.setIfInBounds number
                { vertex with links := vertex.links.set index link, favour } }
          else process
        else
          let joined := (process.vertex link.below).links.foldl
            (fun process deeper => addLink process depth other.below deeper) process
          { joined with
            vertices := joined.vertices.modify number fun v =>
              { v with favour := max v.favour favour } }
      | none =>
        if linkLimit ≤ vertex.links.length then process
        else
          let weight := (process.vertex link.below).weight +
            (link.node?.map Node.weight).getD 0
          { process with
            vertices := process.vertices.setIfInBounds number
              { vertex with
                links := vertex.links ++ [link]
                favour := max vertex.favour favour
                weight := max vertex.weight weight } }

/-- Whether two versions can be merged. -/
def canMerge (process : Process) (first second : Nat) : Bool :=
  let a := process.version first
  let b := process.version second
  a.status.isActive && b.status.isActive && a.layout = b.layout &&
    sameKind (process.vertex a.vertex) (process.vertex b.vertex)

/-- Merges the second one of two versions into the first one, if they can be merged. -/
def merge (first second : Nat) : Reading Bool := do
  if canMerge (← get) first second then
    modify fun p =>
      let target := (p.version first).vertex
      (p.top second).links.foldl (fun p link => addLink p p.vertices.size target link) p
    if ((← get).top first).state = 0 then
      modify fun p =>
        let weight := (p.top first).weight
        { p with versions := p.versions.modify first ({ · with weightAtError := weight }) }
    remove second
    return true
  else return false

/-- Merges a version into one of several others, the first one that it can be merged into. -/
def mergeInto (number : Nat) : List Nat → Reading Bool
  | [] => return false
  | other :: rest => do
    if ← merge other number then return true else mergeInto number rest

/-! ### Going down -/

/-- A way down from the top of a version: where it has come to, the nodes on the way, and how many
of them count. -/
structure Walker where
  vertex : Nat
  nodes : List Node := []
  depth : Nat := 0
  deriving Inhabited

/-- A walker one link further down. -/
def Walker.follow (walker : Walker) (link : Link) : Walker :=
  match link.node? with
  | none => { walker with vertex := link.below, depth := walker.depth + 1 }
  | some node =>
    { vertex := link.below, nodes := node :: walker.nodes
      depth := if node.facts.isExtra then walker.depth else walker.depth + 1 }

/-- The ways down to one vertex. -/
structure Slice where
  vertex : Nat
  ways : List (List Node)
  deriving Inhabited

/-- Walkers on their ways, what they have brought, and what is noted about them. -/
structure Descent (σ : Type) where
  walkers : Array Walker := #[]
  branches : Array Walker := #[]
  slices : Array Slice := #[]
  notes : σ

/-- Adds a way to a vertex. -/
def addWay (slices : Array Slice) (walker : Walker) : Array Slice :=
  match slices.findIdx? (·.vertex = walker.vertex) with
  | some index =>
    slices.modify index fun slice => { slice with ways := slice.ways ++ [walker.nodes] }
  | none => slices.push { vertex := walker.vertex, ways := [walker.nodes] }

/-- Takes every walker one link further. A visit tells whether the way of a walker is one of those
looked for, and whether the walker stops. -/
def walkOn {σ : Type} (process : Process) (visit : Walker → σ → Bool × Bool × σ) :
    List Walker → Descent σ → Descent σ
  | [], descent => descent
  | walker :: rest, descent =>
    let (isFound, stops, notes) := visit walker descent.notes
    let slices := if isFound then addWay descent.slices walker else descent.slices
    match stops, (process.vertex walker.vertex).links with
    | true, _ | false, [] => walkOn process visit rest { descent with slices, notes }
    | false, link :: others =>
      let going := descent.walkers.size + 1 + rest.length
      let branches := others.foldl
        (fun (branches : Array Walker) other =>
          if walkerLimit ≤ going + branches.size then branches
          else branches.push (walker.follow other))
        descent.branches
      walkOn process visit rest
        { walkers := descent.walkers.push (walker.follow link), branches, slices, notes }

/-- Lets walkers go until all have stopped, at most a number of links. -/
def descend {σ : Type} (process : Process) (visit : Walker → σ → Bool × Bool × σ) :
    Nat → List Walker → Array Slice → σ → Array Slice × σ
  | 0, _, slices, notes => (slices, notes)
  | _, [], slices, notes => (slices, notes)
  | rounds + 1, walkers, slices, notes =>
    let descent := walkOn process visit walkers { slices, notes }
    descend process visit rounds (descent.walkers.toList ++ descent.branches.toList) descent.slices
      descent.notes

/-- All ways down from a version that a visit looks for. No way is longer than there are
vertices. -/
def search {σ : Type} (process : Process) (number : Nat) (notes : σ)
    (visit : Walker → σ → Bool × Bool × σ) : Array Slice × σ :=
  descend process visit (process.vertices.size + 1)
    [{ vertex := (process.version number).vertex }] #[] notes

/-- Adds a version for every vertex that was found below a version. -/
def branch (number : Nat) (slices : Array Slice) : Reading Unit :=
  modify fun p =>
    let version := p.version number
    { p with
      versions := slices.foldl
        (fun versions slice =>
          versions.push
            { vertex := slice.vertex, weightAtError := version.weightAtError
              layout := version.layout })
        p.versions }

/-- Takes a number of nodes from a version: adds a version for every vertex below, and tells the
ways there. -/
def pop (number size : Nat) : Reading (Array Slice) := do
  let (slices, _) := search (← get) number () fun walker _ =>
    (walker.depth = size, walker.depth = size, ())
  branch number slices
  return slices

/-- All nodes of a version, in all ways to take them. -/
def allNodes (process : Process) (number : Nat) : List (List Node) :=
  let (slices, _) := search process number () fun walker _ =>
    ((process.vertex walker.vertex).links.isEmpty, false, ())
  slices.toList.flatMap (·.ways)

/-- Takes an error from the top of a version, if there is one. -/
def popError (number : Nat) : Reading (Option Node) := do
  let isErrorLink (link : Link) : Bool := link.node?.any Node.isError
  match ((← get).top number).links.find? isErrorLink with
  | some link =>
    change number fun version => { version with vertex := link.below }
    return link.node?
  | none => return none

/-- Whether a list of outposts, the deepest first, has one like the given one. -/
def knowsOutpost (depth state : Nat) : List Outpost → Bool
  | [] => false
  | outpost :: rest =>
    if outpost.depth < depth then false
    else if outpost.depth = depth && outpost.state = state then true
    else knowsOutpost depth state rest

/-- Notes the states that a version could go back to. -/
def summarize (number : Nat) : Reading Unit := do
  let process ← get
  let (_, outposts) := search process number [] fun walker (outposts : List Outpost) =>
    let vertex := process.vertex walker.vertex
    if outpostDepth < walker.depth then (false, true, outposts)
    else if knowsOutpost walker.depth vertex.state outposts then (false, false, outposts)
    else
      let outpost := { spot := vertex.spot, depth := walker.depth, state := vertex.state }
      (false, false, outpost :: outposts)
  change number ({ · with outposts := some outposts.reverse })

/-! ### Measures -/

/-- What the errors of a version cost so far. -/
def costOf (process : Process) (number : Nat) : Nat :=
  let version := process.version number
  let vertex := process.vertex version.vertex
  let startsError :=
    match vertex.links with
    | link :: _ => vertex.state = 0 && link.node?.isNone
    | [] => false
  if version.status.isPaused || startsError then vertex.cost + costs.recovery else vertex.cost

/-- How many nodes a version has read since its last error. -/
def weightSinceError (number : Nat) : Reading Nat :=
  modifyGet fun p =>
    let version := p.version number
    let weight := (p.vertex version.vertex).weight
    let weightAtError := min version.weightAtError weight
    (weight - weightAtError,
      { p with versions := p.versions.setIfInBounds number { version with weightAtError } })

/-- Whether something with a text was read after the last error, going down from a vertex by a
number of links at most. -/
def advancedFrom (process : Process) (weightAtError : Nat) : Nat → Nat → Bool
  | 0, _ => false
  | rounds + 1, number =>
    let vertex := process.vertex number
    match vertex.links with
    | [] => false
    | link :: _ =>
      match link.node? with
      | none => false
      | some node =>
        if 0 < node.width then true
        else if weightAtError < vertex.weight && node.cost = 0 then
          advancedFrom process weightAtError rounds link.below
        else false

/-- Whether a version has read something with a text since its last error. -/
def hasAdvanced (process : Process) (number : Nat) : Bool :=
  let version := process.version number
  if (process.vertex version.vertex).cost = 0 then true
  else advancedFrom process version.weightAtError process.vertices.size version.vertex

end Reading

end DocStubs.Code
