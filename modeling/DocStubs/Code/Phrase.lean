import DocStubs.Code.Terminal

/-!
# Phrases

The phrases of the grammar of module code, and the elements that rules are made of: terminals,
phrases, and repetitions of some rule.

Not every phrase appears in the trees that are read. A *hidden* phrase only groups others, and
its parts appear in its place. An *inlined* phrase is nothing but a shorthand in rules.

## Main definitions

* `Phrase` — the phrases
* `Phrase.isHidden`, `Phrase.isInlined` — which phrases do not appear
* `Element` — what rules are made of
* `Element.code` — the numbers of the elements
-/

namespace DocStubs.Code

/-- The phrases of module code, in the order of their numbers. -/
inductive Phrase where
  | module | statement | simpleStatements | simpleStatement | importStatement | importPrefix
  | relativeImport | futureImport | importFrom | importList | aliasedImport | wildcardImport
  | printStatement | chevron | assertStatement | expressionStatement | namedExpression
  | namedTarget | returnStatement | deleteStatement | expressions | raiseStatement | passStatement
  | breakStatement | continueStatement | compoundStatement | ifStatement | elifClause | elseClause
  | matchStatement | matchBlock | caseClause | forStatement | whileStatement | tryStatement
  | exceptClause | exceptGroupClause | finallyClause | withStatement | withClause | withItem
  | functionDefinition | parameters | lambdaParameters | listSplat | dictionarySplat
  | globalStatement | nonlocalStatement | execStatement | typeAliasStatement | classDefinition
  | typeParameter | parenthesizedSplat | argumentList | decoratedDefinition | decorator | suite
  | block | expressionList | dottedName | casePattern | simplePattern | casePatternAs
  | unionPattern | caseList | caseTuple | dictPattern | keyValuePattern | keywordPattern
  | splatPattern | classPattern | complexPattern | parameterList | patterns | parameter | pattern
  | tuplePattern | listPattern | defaultParameter | typedDefaultParameter | listSplatPattern
  | dictionarySplatPattern | asPattern | clauseExpression | expression | primaryExpression
  | notOperator | booleanOperator | binaryOperator | unaryOperator | notIn | isNot
  | comparisonOperator | lambda | clauseLambda | assignment | augmentedAssignment | leftSide
  | patternList | rightSide | yield | access | subscript | slice | call | typedParameter | type
  | splatType | genericType | unionType | constrainedType | memberType | keywordArgument | list
  | set | tuple | dictionary | pair | listComprehension | dictionaryComprehension
  | setComprehension | generatorExpression | comprehensionClauses | parenthesizedExpression
  | collectionElements | forInClause | ifClause | conditionalExpression | concatenatedString
  | string | stringContent | interpolation | holeExpression | formatSpecifier | keywordName
  | await | positionalSeparator | keywordSeparator
  deriving DecidableEq, Repr, Inhabited, Hashable

namespace Phrase

/-- The number of phrases. -/
def count : Nat := keywordSeparator.ctorIdx + 1

/-- The phrases whose parts appear in their place. -/
def isHidden : Phrase → Bool
  | statement | simpleStatements | simpleStatement | importList | namedTarget | expressions
  | compoundStatement | suite | simplePattern | keyValuePattern | parameterList | patterns
  | parameter | pattern | clauseExpression | expression | primaryExpression | leftSide | rightSide
  | comprehensionClauses | collectionElements | holeExpression => true
  | _ => false

/-- The phrases that are shorthands in rules. -/
def isInlined : Phrase → Bool
  | simpleStatement | compoundStatement | suite | expressions | leftSide | keywordName => true
  | _ => false

end Phrase

/-- What rules are made of. -/
inductive Element where
  | terminal (terminal : Terminal)
  | phrase (phrase : Phrase)
  /-- One or more times the rule with a given number. -/
  | repetition (index : Nat)
  deriving DecidableEq, Repr, Inhabited, Hashable

namespace Element

/-- The number of an element: terminals come first, then phrases, then repetitions. -/
def code : Element → Nat
  | terminal t => t.code
  | phrase p => Terminal.count + p.ctorIdx
  | repetition index => Terminal.count + Phrase.count + index

/-- Whether the number of an element is the number of a terminal. -/
def isTerminalCode (code : Nat) : Bool := code < Terminal.count

/-- Whether the element appears in the trees that are read. -/
def isShown : Element → Bool
  | terminal t => t.isShown
  | phrase p => !p.isHidden
  | repetition _ => false

end Element

end DocStubs.Code
