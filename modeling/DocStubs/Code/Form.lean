import DocStubs.Code.Reader

/-!
# Trees of what appears

A `Form` is what a tree of nodes shows: the parts of hidden phrases and of repetitions stand where
the phrases and the repetitions stood, and what a production shows as something else is labelled so.
Separators are gone, but comments and continued lines still stand where they were written.

## Main definitions

* `Form` — trees of what appears
* `Form.ofTree` — the form of a tree of nodes
* `Form.errorLine` — the line where it shows that a text has an error
* `Form.fold` — a value for a form, given the values of its parts
-/

namespace DocStubs.Code

/-- What a form is. -/
inductive Label where
  | element (element : Element)
  /-- An error, or a terminal that is missing. -/
  | fault
  deriving DecidableEq, Repr, Inhabited

/-- What appears of a tree. -/
inductive Form where
  | mk (label : Label) (start stop : Spot) (isFaulty : Bool) (parts : List Form)
  deriving Inhabited

namespace Form

/-- What the form is. -/
def label : Form → Label
  | mk label .. => label

/-- Where the form starts. -/
def start : Form → Spot
  | mk _ start .. => start

/-- The line that the form starts on. -/
def line (form : Form) : Nat := form.start.line

/-- The text of the form. -/
def text : Form → String
  | mk _ start stop .. => start.textTo stop

/-- Whether there are errors in the form. -/
def isFaulty : Form → Bool
  | mk _ _ _ isFaulty _ => isFaulty

/-- The parts of the form. -/
def parts : Form → List Form
  | mk _ _ _ _ parts => parts

/-- Whether the form is a given phrase. -/
def isPhrase (form : Form) (phrase : Phrase) : Bool := form.label = .element (.phrase phrase)

/-- Whether the form is a given terminal. -/
def isTerminal (form : Form) (terminal : Terminal) : Bool :=
  form.label = .element (.terminal terminal)

/-- Whether the form is a given keyword or sign. -/
def isLiteral (form : Form) (spelling : String) : Bool := form.isTerminal (.literal spelling)

/-- Whether the form is a name. -/
def isName (form : Form) : Bool := form.isTerminal .name

/-- Whether the form is a comment or a continued line. -/
def isExtra (form : Form) : Bool :=
  match form.label with
  | .element (.terminal terminal) => Terminal.extras.contains terminal
  | _ => false

/-- Whether the form says something by itself, as all do but comments, keywords and signs. -/
def isTelling (form : Form) : Bool :=
  match form.label with
  | .element (.terminal (.literal spelling)) =>
    ["True", "False", "None", "..."].contains spelling
  | _ => !form.isExtra

/-! ### From nodes to forms -/

mutual

/-- The forms of a node, before those of the nodes after it. A label tells what the node appears as
if that is not what it is. -/
def ofNode (tables : Tables) (label? : Option Element) : Node → List Form → List Form
  | .mk facts parts, after =>
    let isError := facts.code = Node.errorCode
    let own := label?.or ((tables.element? facts.code).filter fun _ => facts.isShown)
    if isError || own.isSome then
      let label : Label :=
        match own with
        | some element => if isError || facts.isMissing then .fault else .element element
        | none => .fault
      mk label facts.start facts.stop (0 < (Node.mk facts parts).cost)
        (ofNodes tables facts.shownAs parts []) :: after
    else ofNodes tables facts.shownAs parts after

/-- The forms of some nodes, before those of the nodes after them. -/
def ofNodes (tables : Tables) (shownAs : List (Option Element)) :
    List Node → List Form → List Form
  | [], after => after
  | part :: rest, after =>
    if part.facts.isExtra then ofNode tables none part (ofNodes tables shownAs rest after)
    else ofNode tables shownAs.head?.join part (ofNodes tables shownAs.tail rest after)

end

/-- The form of a tree. -/
def ofTree (tables : Tables) (node : Node) : Form :=
  (ofNode tables none node []).headD default

/-! ### Errors -/

mutual

/-- The line where it shows that a form has an error: where its first faulty part shows it, or
where the form starts if it is at fault itself. -/
def errorLine : Form → Nat
  | mk label start _ _ parts =>
    if label = .fault then start.line else (errorLineIn parts).getD start.line

/-- The line where the first faulty one of some forms shows its error. -/
def errorLineIn : List Form → Option Nat
  | [] => none
  | part :: rest => if part.isFaulty then some part.errorLine else errorLineIn rest

end

/-! ### Values -/

mutual

/-- A value for a form, given the values of its parts. -/
def fold {α : Type} (value : Form → List (Form × α) → α) : Form → α
  | mk label start stop isFaulty parts =>
    value (mk label start stop isFaulty parts) (foldAll value parts)

/-- The values of some forms. -/
def foldAll {α : Type} (value : Form → List (Form × α) → α) : List Form → List (Form × α)
  | [] => []
  | part :: rest => (part, part.fold value) :: foldAll value rest

end

end Form

end DocStubs.Code
