import DocStubs.Code.Form
import DocStubs.Code.Tree

/-!
# Statements of a text

What a form means, as an expression, a target or a list of statements. Parts are found by their
kind and by the keywords and signs around them, so that comments may stand anywhere.

## Main definitions

* `Expr.ofForm` — the expression that a form is
* `Target.ofForm` — the target that a form is
* `Imported.ofForm?`, `Origin.ofForm` — the parts of imports
* `Stmt.ofForm` — the statements that a form is
-/

namespace DocStubs.Code

/-! ### Finding parts -/

namespace Form

/-- The first part after a keyword or a sign that is no extra. -/
def after? (form : Form) (spelling : String) : Option Form :=
  ((form.parts.dropWhile fun part => !part.isLiteral spelling).drop 1).find? (!·.isExtra)

/-- The text of the first name among the parts. -/
def nameText? (form : Form) : Option String := (form.parts.find? isName).map text

/-- The parts that say something by themselves. -/
def telling (form : Form) : List Form := form.parts.filter isTelling

/-- Whether the form is a clause of a conditional statement or of a loop. -/
def isClause (form : Form) : Bool := form.isPhrase .elifClause || form.isPhrase .elseClause

end Form

/-! ### Expressions -/

/-- The operator of a comparison that a form is. -/
def Comparator.ofForm? (form : Form) : Option Comparator :=
  match form.label with
  | .element (.phrase .notIn) => some .isNotIn
  | .element (.phrase .isNot) => some .notSame
  | .element (.terminal (.literal spelling)) =>
    [("<", less), ("<=", lessEqual), ("==", equal), ("!=", notEqual), (">=", greaterEqual),
     (">", greater), ("<>", differs), ("in", isIn), ("is", same)].lookup spelling
  | _ => none

namespace Expr

/-- The expression that a phrase is, given its parts as expressions. -/
def ofPhrase (form : Form) (parts : List (Form × Expr)) : Phrase → Expr
  | .string =>
    if form.parts.any (·.isPhrase .interpolation) then compound (parts.map (·.2))
    else literal form.text
  | .access =>
    match parts.map (·.2) with
    | [object, name field] => access object field
    | others => compound others
  | .call =>
    match parts with
    | (_, callee) :: _ => call callee
    | [] => compound []
  | .subscript =>
    match parts.map (·.2) with
    | value :: indices => subscript value indices
    | [] => compound []
  | .listSplat | .listSplatPattern =>
    match parts.map (·.2) with
    | [value] => starred value
    | others => compound others
  | .lambda | .clauseLambda =>
    match parts.getLast? with
    | some (_, body) => lambda body
    | none => compound []
  | .comparisonOperator =>
    comparison (form.parts.filterMap Comparator.ofForm?)
      ((parts.filter fun (part, _) => (Comparator.ofForm? part).isNone).map (·.2))
      (form.parts.any Form.isExtra)
  | .list | .tuple | .parenthesizedExpression | .listPattern | .tuplePattern =>
    bracketed (parts.map (·.2))
  | _ => compound (parts.map (·.2))

/-- The expression that a form is. -/
def ofForm (form : Form) : Expr :=
  form.fold fun form parts =>
    let telling := parts.filter fun (part, _) => part.isTelling
    match form.label with
    | .element (.terminal .name) => name form.text
    | .element (.phrase phrase) => ofPhrase form telling phrase
    | _ => compound []

end Expr

/-- The target that a form is. -/
def Target.ofForm (form : Form) : Target :=
  form.fold fun form parts =>
    let items := (parts.filter fun (part, _) => part.isTelling).map (·.2)
    match form.label with
    | .element (.terminal .name) => name form.text
    | .element (.phrase .patternList) | .element (.phrase .tuplePattern)
    | .element (.phrase .listPattern) => sequence items
    | _ => place

/-! ### Imports -/

/-- The name in an import statement that a form is. -/
def Imported.ofForm? (form : Form) : Option Imported :=
  if form.isPhrase .dottedName then some { name := form.text }
  else if form.isPhrase .aliasedImport then
    match form.parts.find? (·.isPhrase .dottedName), form.nameText? with
    | some name, some other => some { name := name.text, alias? := some other }
    | _, _ => none
  else none

/-- Where the names of an import come from. -/
def Origin.ofForm (form : Form) : Origin :=
  if form.isPhrase .relativeImport then
    let dots := (form.parts.find? (·.isPhrase .importPrefix)).map Form.text
    let name := (form.parts.find? (·.isPhrase .dottedName)).map Form.text
    .relative ((dots.getD "").toList.count '.') (name.getD "")
  else .absolute form.text

/-! ### Statements -/

namespace Stmt

/-- The statement of an import of names. -/
def ofImportFrom (form : Form) : Stmt :=
  match form.after? "from" with
  | some origin =>
    let names := form.parts.dropWhile fun part => !part.isLiteral "import"
    importNames form.line (.ofForm origin) (names.filterMap Imported.ofForm?)
  | none => other form.line

/-- The targets of a chain of assignments, and the value at its end. -/
def assigned (form : Form) : List Target × Option Form :=
  form.fold fun form parts =>
    if form.isPhrase .assignment then
      let targets := (form.telling.head?.map Target.ofForm).toList
      let right := (parts.dropWhile fun (part, _) => !part.isLiteral "=").drop 1
      match right.find? fun (part, _) => !part.isExtra with
      | some (_, (others, value)) => (targets ++ others, value)
      | none => (targets, none)
    else ([], some form)

/-- The statement of an expression. -/
def ofExpression (form : Form) : Stmt :=
  match form.telling with
  | first :: _ =>
    if first.isPhrase .assignment then
      let (targets, value) := assigned first
      assign form.line targets (value.map Expr.ofForm)
    else other form.line
  | [] => other form.line

/-- The `else` part of a conditional statement, given the statements of its clauses. A further
condition takes all clauses after it for its `else` part. -/
def alternatives : List (List Stmt) → List Stmt
  | [] => []
  | [branch line condition body []] :: rest => [branch line condition body (alternatives rest)]
  | stmts :: rest => stmts ++ alternatives rest

/-- The statements of those parts that are given phrases. -/
def within (phrases : List Phrase) (parts : List (Form × List Stmt)) : List (List Stmt) :=
  (parts.filter fun (part, _) => phrases.any part.isPhrase).map (·.2)

/-- The statements of the blocks among some parts. -/
def blocks (parts : List (Form × List Stmt)) : List Stmt :=
  (within [.block, .matchBlock] parts).flatten

/-- The statements of the clauses and further blocks among some parts. -/
def clausesIn (parts : List (Form × List Stmt)) : List (List Stmt) :=
  within [.block, .matchBlock, .elifClause, .elseClause] parts

/-- The parts of a statement before its first clause, and those from there on. -/
def atClause (parts : List (Form × List Stmt)) :
    List (Form × List Stmt) × List (Form × List Stmt) :=
  parts.span fun (part, _) => !part.isClause

/-- The statements that a phrase is, given the statements of its parts. -/
def ofPhrase (form : Form) (parts : List (Form × List Stmt)) : Phrase → List Stmt
  | .functionDefinition => [function form.line (form.nameText?.getD "") (blocks parts)]
  | .classDefinition => [classDef form.line (form.nameText?.getD "") (blocks parts)]
  | .decoratedDefinition =>
    (within [.functionDefinition, .classDefinition] parts).flatten.map (decoratedAt form.line)
  | .importStatement => [importModules form.line (form.parts.filterMap Imported.ofForm?)]
  | .importFrom => [ofImportFrom form]
  | .futureImport =>
    [importNames form.line (.absolute "__future__") (form.parts.filterMap Imported.ofForm?)]
  | .expressionStatement => [ofExpression form]
  | .deleteStatement => form.telling.map fun target => delete form.line (Expr.ofForm target)
  | .ifStatement =>
    let condition := ((form.after? "if").map Expr.ofForm).getD default
    let (first, others) := atClause parts
    [branch form.line condition (blocks first) (alternatives (clausesIn others))]
  | .elifClause =>
    let condition := ((form.after? "elif").map Expr.ofForm).getD default
    [branch form.line condition (blocks parts) []]
  | .forStatement =>
    let (first, others) := atClause parts
    [loop form.line ((form.after? "for").map Target.ofForm) (blocks first)
      (clausesIn others).flatten]
  | .whileStatement =>
    let (first, others) := atClause parts
    [loop form.line none (blocks first) (clausesIn others).flatten]
  | .tryStatement =>
    let clauses := within
      [.block, .exceptClause, .exceptGroupClause, .elseClause, .finallyClause] parts
    clauses.map (block form.line)
  | .withStatement => [block form.line (blocks parts)]
  | .matchStatement => [cases form.line (blocks parts)]
  | .caseClause => [block form.line (blocks parts)]
  | .elseClause | .exceptClause | .exceptGroupClause | .finallyClause => blocks parts
  | .module | .block | .matchBlock => (parts.map (·.2)).flatten
  | .passStatement | .breakStatement | .continueStatement | .returnStatement | .raiseStatement
  | .printStatement | .assertStatement | .globalStatement | .nonlocalStatement | .execStatement
  | .typeAliasStatement => [other form.line]
  | _ => []

/-- The statements that a form is. -/
def ofForm (form : Form) : List Stmt :=
  form.fold fun form parts =>
    match form.label with
    | .element (.phrase phrase) => ofPhrase form parts phrase
    | _ => []

end Stmt

end DocStubs.Code
