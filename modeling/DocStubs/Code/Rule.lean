import DocStubs.Code.Phrase

/-!
# Rules and productions

A phrase has one rule, in which parts follow each other, exclude each other and repeat. Reading
wants the rule as a list of *productions*, each of them a plain list of elements. A repetition
becomes an element of its own with two productions: two repetitions, or the repeated part.

Two readings of one text are kept apart by the strengths and the sides of rules, which every
element of a production carries, and by the favours of productions: of two readings that are left
the one with more favour wins.

## Main definitions

* `Rule` — how a phrase is built
* `Step`, `Production` — the elements of a production, and productions
* `Rule.drafts` — the productions of a rule
* `Production.ofRules` — the productions of a list of rules
-/

namespace DocStubs.Code

/-- Which of two equal operators takes the operand between them. -/
inductive Side where
  | left | right
  deriving DecidableEq, Repr, Inhabited, Hashable

/-- How a phrase is built. -/
inductive Rule where
  | blank
  | element (element : Element)
  | chain (first second : Rule)
  | either (first second : Rule)
  /-- The part one or more times. -/
  | repeated (part : Rule)
  /-- The part with a strength, and with a side if one is given. -/
  | ranked (strength : Int) (side : Option Side) (part : Rule)
  /-- The part with more or less favour than other readings. -/
  | favoured (favour : Int) (part : Rule)
  /-- The part, which appears as a given element. -/
  | shown (label : Element) (part : Rule)
  deriving DecidableEq, Repr, Inhabited

namespace Rule

instance instCoeTerminal : Coe Terminal Rule := ⟨fun terminal => element (.terminal terminal)⟩

instance instCoePhrase : Coe Phrase Rule := ⟨fun phrase => element (.phrase phrase)⟩

instance instCoeString : Coe String Rule :=
  ⟨fun spelling => element (.terminal (.literal spelling))⟩

/-- Parts that follow each other. -/
def seq : List Rule → Rule
  | [] => blank
  | [part] => part
  | part :: rest => chain part (seq rest)

/-- Parts that exclude each other. -/
def choice : List Rule → Rule
  | [] => blank
  | [part] => part
  | part :: rest => either part (choice rest)

/-- The part or nothing. -/
def optional (part : Rule) : Rule := either part blank

/-- The part any number of times. -/
def many (part : Rule) : Rule := either (repeated part) blank

/-- The part one or more times, with a separator between. -/
def separated (separator part : Rule) : Rule := chain part (many (chain separator part))

/-- The part one or more times, with commas between. -/
def commas (part : Rule) : Rule := separated "," part

/-- The part one or more times, with commas between and perhaps after. -/
def commaList (part : Rule) : Rule := chain (commas part) (optional ",")

/-- The part with a strength. -/
def strong (strength : Int) (part : Rule) : Rule := ranked strength none part

/-- The part with a strength, where the left one of two equal operators wins. -/
def leftward (strength : Int) (part : Rule) : Rule := ranked strength (some .left) part

/-- The part with a strength, where the right one of two equal operators wins. -/
def rightward (strength : Int) (part : Rule) : Rule := ranked strength (some .right) part

end Rule

/-- An element of a production. -/
structure Step where
  /-- The number of the element. -/
  code : Nat
  strength : Option Int := none
  side : Option Side := none
  /-- The element that this one appears as, if that is another one. -/
  shownAs : Option Element := none
  deriving DecidableEq, Repr, Inhabited, Hashable

/-- One way to build an element. -/
structure Production where
  /-- The number of the element that is built. -/
  head : Nat
  steps : List Step
  favour : Int := 0
  deriving DecidableEq, Repr, Inhabited

/-! ### From rules to productions -/

/-- The steps of a production with their favour, without the element they build. -/
structure Draft where
  steps : List Step := []
  favour : Int := 0
  deriving DecidableEq, Repr, Inhabited

namespace Draft

/-- The stronger one of two favours. -/
def dominant (first second : Int) : Int := if second.natAbs > first.natAbs then second else first

/-- One draft after another. -/
def append (first second : Draft) : Draft :=
  { steps := first.steps ++ second.steps, favour := dominant first.favour second.favour }

/-- Changes the last step. -/
def mapLast (change : Step → Step) (draft : Draft) : Draft :=
  match draft.steps.reverse with
  | [] => draft
  | last :: before => { draft with steps := (change last :: before).reverse }

end Draft

/-- What surrounds a part of a rule. -/
structure Setting where
  strength : Option Int := none
  side : Option Side := none
  shownAs : Option Element := none
  deriving Repr, Inhabited

namespace Rule

/-- The drafts of a rule in which repetitions are elements already. A strength holds up to the end
of its part; if the part does not stand at the end of the rule, its last step has the strength of
what surrounds it. -/
def drafts (setting : Setting) (atEnd : Bool) : Rule → List Draft
  | blank => [{}]
  | element e =>
    [{ steps := [{ code := e.code, strength := setting.strength, side := setting.side,
                   shownAs := setting.shownAs }] }]
  | chain first second =>
    let tails := second.drafts setting atEnd
    (first.drafts setting false).flatMap fun head => tails.map head.append
  | either first second => first.drafts setting atEnd ++ second.drafts setting atEnd
  | repeated part => part.drafts setting atEnd
  | ranked strength side part =>
    let inner :=
      part.drafts { setting with strength := some strength, side := side.or setting.side } atEnd
    if atEnd then inner
    else
      inner.map (Draft.mapLast fun step =>
        { step with strength := setting.strength
                    side := if side.isSome then setting.side else step.side })
  | favoured favour part =>
    (part.drafts setting atEnd).map fun draft =>
      { draft with favour := Draft.dominant favour draft.favour }
  | shown label part => part.drafts { setting with shownAs := some label } atEnd

/-- Gives every repetition in a rule a number. Equal parts share one. -/
def numberRepetitions : Rule → StateM (Array Rule) Rule
  | chain first second => return chain (← first.numberRepetitions) (← second.numberRepetitions)
  | either first second => return either (← first.numberRepetitions) (← second.numberRepetitions)
  | repeated part => do
    let part ← part.numberRepetitions
    let known ← get
    match known.findIdx? (· = part) with
    | some index => return element (.repetition index)
    | none =>
      set (known.push part)
      return element (.repetition known.size)
  | ranked strength side part => return ranked strength side (← part.numberRepetitions)
  | favoured favour part => return favoured favour (← part.numberRepetitions)
  | shown label part => return shown label (← part.numberRepetitions)
  | rule => return rule

end Rule

namespace Production

/-- The productions of the element with a given number. -/
def ofRule (head : Nat) (rule : Rule) : List Production :=
  ((rule.drafts {} true).map fun draft =>
    { head, steps := draft.steps, favour := draft.favour : Production }).eraseDups

/-- The steps that stand for an inlined phrase, given a production of the phrase and the step they
stand for. -/
def inlinedSteps (step : Step) (production : Production) : List Step :=
  let steps := production.steps.map fun inner =>
    { inner with shownAs := step.shownAs.or inner.shownAs }
  (Draft.mapLast (fun last =>
    { last with strength := last.strength.or step.strength, side := last.side.or step.side })
    { steps }).steps

/-- A production without inlined phrases, in all ways to write them out. -/
def inlined (inlinedOf : Nat → List Production) (production : Production) : List Production :=
  let alternatives := production.steps.foldr
    (fun step (tails : List (List Step)) =>
      match inlinedOf step.code with
      | [] => tails.map (step :: ·)
      | inner => inner.flatMap fun one => tails.map (inlinedSteps step one ++ ·))
    [[]]
  (alternatives.map fun steps => { production with steps }).eraseDups

/-- Gives every repetition in a list of rules a number. -/
def numbered : List (Phrase × Rule) → StateM (Array Rule) (List (Phrase × Rule))
  | [] => return []
  | (phrase, rule) :: rest => return (phrase, ← rule.numberRepetitions) :: (← numbered rest)

/-- The productions of a list of rules, and the number of repetitions in them. -/
def ofRules (rules : List (Phrase × Rule)) : List Production × Nat :=
  let (numbered, repeated) := (numbered rules).run #[]
  let repetitions := repeated.toList.zipIdx.flatMap fun (part, index) =>
    let self := Rule.element (.repetition index)
    ofRule (Element.repetition index).code (.either (.chain self self) part)
  let inlinedOf (code : Nat) : List Production :=
    match numbered.find? fun (phrase, _) =>
        phrase.isInlined && (Element.phrase phrase).code = code with
    | some (_, rule) => ofRule code rule
    | none => []
  let phrases := (numbered.filter fun (phrase, _) => !phrase.isInlined).flatMap
    fun (phrase, rule) => ofRule (Element.phrase phrase).code rule
  ((phrases ++ repetitions).flatMap (inlined inlinedOf), repeated.size)

end Production

end DocStubs.Code
