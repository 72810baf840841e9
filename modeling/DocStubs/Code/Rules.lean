import DocStubs.Code.Rule

/-!
# The rules of module code

The grammar of a module, which is looser than the language itself: it takes the statements of old
and of new versions of the language, and leaves all checks that need more than the shape of the
text to others.

Some words are keywords in some statements and names elsewhere. Where both readings of a text are
possible, `print x` is a statement only if `print` cannot be a name there, while `type x = y` is
one rather than not.

## Main definitions

* `rules` — the rule of every phrase
-/

namespace DocStubs.Code

open Rule Phrase

/-- Strengths of operators and of other forms that compete for their operands. -/
structure Strength where
  lambda : Int := -2
  typedParameter : Int := -1
  conditional : Int := -1
  parenthesized : Int := 1
  disjunction : Int := 10
  conjunction : Int := 11
  negation : Int := 12
  comparison : Int := 13
  bitOr : Int := 14
  bitAnd : Int := 15
  bitXor : Int := 16
  shift : Int := 17
  plus : Int := 18
  times : Int := 19
  unary : Int := 20
  power : Int := 21
  call : Int := 22

/-- The strengths of the grammar. -/
def strength : Strength := {}

/-! ### Simple statements -/

/-- Simple statements. -/
def simpleRules : List (Phrase × Rule) := [
  (module, many statement),
  (statement, choice [simpleStatements, compoundStatement]),
  (simpleStatements, seq [separated ";" simpleStatement, optional ";", Terminal.newline]),
  (simpleStatement, choice [
    futureImport, importStatement, importFrom, printStatement, assertStatement,
    expressionStatement, returnStatement, deleteStatement, raiseStatement, passStatement,
    breakStatement, continueStatement, globalStatement, nonlocalStatement, execStatement,
    typeAliasStatement]),
  (importStatement, seq ["import", importList]),
  (importPrefix, repeated "."),
  (relativeImport, seq [importPrefix, optional dottedName]),
  (futureImport, seq [
    "from", "__future__", "import", choice [importList, seq ["(", importList, ")"]]]),
  (importFrom, seq [
    "from", choice [relativeImport, dottedName], "import",
    choice [wildcardImport, importList, seq ["(", importList, ")"]]]),
  (importList, commaList (choice [dottedName, aliasedImport])),
  (aliasedImport, seq [dottedName, "as", Terminal.name]),
  (wildcardImport, "*"),
  (printStatement, choice [
    strong 1 (seq ["print", chevron, many (seq [",", expression]), optional ","]),
    strong (-3) (favoured (-1) (seq ["print", commas expression, optional ","]))]),
  (chevron, seq [">>", expression]),
  (assertStatement, seq ["assert", commas expression]),
  (expressionStatement, choice [
    expression, seq [commas expression, optional ","], assignment, augmentedAssignment, yield]),
  (namedExpression, seq [namedTarget, ":=", expression]),
  (namedTarget, choice [Terminal.name, keywordName]),
  (returnStatement, seq ["return", optional expressions]),
  (deleteStatement, seq ["del", expressions]),
  (expressions, choice [expression, expressionList]),
  (raiseStatement, seq ["raise", optional expressions, optional (seq ["from", expression])]),
  (passStatement, leftward 0 "pass"),
  (breakStatement, leftward 0 "break"),
  (continueStatement, leftward 0 "continue")]

/-! ### Compound statements -/

/-- Compound statements. -/
def compoundRules : List (Phrase × Rule) := [
  (compoundStatement, choice [
    ifStatement, forStatement, whileStatement, tryStatement, withStatement, functionDefinition,
    classDefinition, decoratedDefinition, matchStatement]),
  (ifStatement, seq [
    "if", expression, ":", suite, many elifClause, optional elseClause]),
  (elifClause, seq ["elif", expression, ":", suite]),
  (elseClause, seq ["else", ":", suite]),
  (matchStatement, seq ["match", commas expression, optional ",", ":", matchBlock]),
  (matchBlock, choice [
    seq [Terminal.indent, many caseClause, Terminal.dedent], Terminal.newline]),
  (caseClause, seq [
    "case", commas casePattern, optional ",", optional ifClause, ":", suite]),
  (forStatement, seq [
    optional "async", "for", leftSide, "in", expressions, ":", suite, optional elseClause]),
  (whileStatement, seq ["while", expression, ":", suite, optional elseClause]),
  (tryStatement, seq [
    "try", ":", suite,
    choice [
      seq [repeated exceptClause, optional elseClause, optional finallyClause],
      seq [repeated exceptGroupClause, optional elseClause, optional finallyClause],
      finallyClause]]),
  (exceptClause, seq [
    "except", optional (seq [expression, optional (seq [choice ["as", ","], expression])]), ":",
    suite]),
  (exceptGroupClause, seq [
    "except*", seq [expression, optional (seq ["as", expression])], ":", suite]),
  (finallyClause, seq ["finally", ":", suite]),
  (withStatement, seq [optional "async", "with", withClause, ":", suite]),
  (withClause, choice [
    commaList withItem, seq ["(", commas withItem, optional ",", ")"]]),
  (withItem, favoured 1 expression),
  (functionDefinition, seq [
    optional "async", "def", Terminal.name, optional typeParameter, parameters,
    optional (seq ["->", type]), ":", suite]),
  (parameters, seq ["(", optional parameterList, ")"]),
  (lambdaParameters, parameterList),
  (listSplat, seq ["*", expression]),
  (dictionarySplat, seq ["**", expression]),
  (globalStatement, seq ["global", commas Terminal.name]),
  (nonlocalStatement, seq ["nonlocal", commas Terminal.name]),
  (execStatement, seq [
    "exec", choice [string, Terminal.name], optional (seq ["in", commas expression])]),
  (typeAliasStatement, favoured 1 (seq ["type", type, "=", type])),
  (classDefinition, seq [
    "class", Terminal.name, optional typeParameter, optional argumentList, ":", suite]),
  (typeParameter, seq ["[", commas type, optional ",", "]"]),
  (parenthesizedSplat, strong strength.parenthesized (seq [
    "(", choice [parenthesizedSplat, listSplat], ")"])),
  (argumentList, seq [
    "(",
    optional (commas (choice [
      expression, listSplat, dictionarySplat, parenthesizedSplat, keywordArgument])),
    optional ",", ")"]),
  (decoratedDefinition, seq [
    repeated decorator, choice [classDefinition, functionDefinition]]),
  (decorator, seq ["@", expression, Terminal.newline]),
  (suite, choice [
    shown (.phrase block) simpleStatements,
    seq [Terminal.indent, block],
    shown (.phrase block) Terminal.newline]),
  (block, seq [many statement, Terminal.dedent]),
  (expressionList, rightward 0 (seq [
    expression, choice [",", seq [repeated (seq [",", expression]), optional ","]]])),
  (dottedName, strong 1 (separated "." Terminal.name))]

/-! ### Patterns of cases -/

/-- The patterns of cases. -/
def caseRules : List (Phrase × Rule) := [
  (casePattern, strong 1 (choice [casePatternAs, keywordPattern, simplePattern])),
  (simplePattern, strong 1 (choice [
    classPattern, splatPattern, unionPattern, caseList, caseTuple, dictPattern, string,
    concatenatedString, "True", "False", "None",
    seq [optional "-", choice [Terminal.integer, Terminal.float]], complexPattern, dottedName,
    "_"])),
  (casePatternAs, seq [casePattern, "as", Terminal.name]),
  (unionPattern, rightward 0 (seq [
    simplePattern, repeated (leftward 0 (seq ["|", simplePattern]))])),
  (caseList, seq ["[", optional (seq [commas casePattern, optional ","]), "]"]),
  (caseTuple, seq ["(", optional (seq [commas casePattern, optional ","]), ")"]),
  (dictPattern, seq [
    "\x7b", optional (seq [commas (choice [keyValuePattern, splatPattern]), optional ","]),
    "\x7d"]),
  (keyValuePattern, seq [simplePattern, ":", casePattern]),
  (keywordPattern, seq [Terminal.name, "=", simplePattern]),
  (splatPattern, strong 1 (seq [choice ["*", "**"], choice [Terminal.name, "_"]])),
  (classPattern, seq [
    dottedName, "(", optional (seq [commas casePattern, optional ","]), ")"]),
  (complexPattern, strong 1 (seq [
    optional "-", choice [Terminal.integer, Terminal.float], choice ["+", "-"],
    choice [Terminal.integer, Terminal.float]]))]

/-! ### Parameters and targets -/

/-- Parameters of functions, and targets of assignments. -/
def patternRules : List (Phrase × Rule) := [
  (parameterList, commaList parameter),
  (patterns, commaList pattern),
  (parameter, choice [
    Terminal.name, typedParameter, defaultParameter, typedDefaultParameter, listSplatPattern,
    tuplePattern, keywordSeparator, positionalSeparator, dictionarySplatPattern]),
  (pattern, choice [
    Terminal.name, keywordName, subscript, access, listSplatPattern, tuplePattern,
    listPattern]),
  (tuplePattern, seq ["(", optional patterns, ")"]),
  (listPattern, seq ["[", optional patterns, "]"]),
  (defaultParameter, seq [choice [Terminal.name, tuplePattern], "=", expression]),
  (typedDefaultParameter, strong strength.typedParameter (seq [
    Terminal.name, ":", type, "=", expression])),
  (listSplatPattern, seq ["*", choice [Terminal.name, keywordName, subscript, access]]),
  (dictionarySplatPattern, seq [
    "**", choice [Terminal.name, keywordName, subscript, access]])]

/-! ### Expressions -/

/-- The operators between two operands, with their strengths and sides. -/
def binaryOperators : List (String × Int × Side) := [
  ("+", strength.plus, .left), ("-", strength.plus, .left), ("*", strength.times, .left),
  ("@", strength.times, .left), ("/", strength.times, .left), ("%", strength.times, .left),
  ("//", strength.times, .left), ("**", strength.power, .right), ("|", strength.bitOr, .left),
  ("&", strength.bitAnd, .left), ("^", strength.bitXor, .left), ("<<", strength.shift, .left),
  (">>", strength.shift, .left)]

/-- Expressions with operators, and assignments. -/
def operatorRules : List (Phrase × Rule) := [
  (asPattern, leftward 0 (seq [expression, "as", shown (.phrase asPattern) expression])),
  (clauseExpression, choice [expression, clauseLambda]),
  (expression, choice [
    comparisonOperator, notOperator, booleanOperator, lambda, primaryExpression,
    conditionalExpression, namedExpression, asPattern]),
  (primaryExpression, choice [
    await, binaryOperator, Terminal.name, keywordName, string, concatenatedString,
    Terminal.integer, Terminal.float, "True", "False", "None", unaryOperator, access,
    subscript, call, list, listComprehension, dictionary, dictionaryComprehension, set,
    setComprehension, tuple, parenthesizedExpression, generatorExpression, "...",
    listSplatPattern]),
  (notOperator, strong strength.negation (seq ["not", expression])),
  (booleanOperator, choice [
    leftward strength.conjunction (seq [expression, "and", expression]),
    leftward strength.disjunction (seq [expression, "or", expression])]),
  (binaryOperator, choice (binaryOperators.map fun (sign, strength, side) =>
    ranked strength (some side) (seq [primaryExpression, sign, primaryExpression]))),
  (unaryOperator, strong strength.unary (seq [choice ["+", "-", "~"], primaryExpression])),
  (notIn, seq ["not", "in"]),
  (isNot, seq ["is", "not"]),
  (comparisonOperator, leftward strength.comparison (seq [
    primaryExpression,
    repeated (seq [
      choice ["<", "<=", "==", "!=", ">=", ">", "<>", "in", notIn, "is", isNot],
      primaryExpression])])),
  (lambda, strong strength.lambda (seq [
    "lambda", optional lambdaParameters, ":", expression])),
  (clauseLambda, seq ["lambda", optional lambdaParameters, ":", clauseExpression]),
  (assignment, seq [
    leftSide,
    choice [seq ["=", rightSide], seq [":", type], seq [":", type, "=", rightSide]]]),
  (augmentedAssignment, seq [
    leftSide,
    choice ["+=", "-=", "*=", "/=", "@=", "//=", "%=", "**=", ">>=", "<<=", "&=", "^=", "|="],
    rightSide]),
  (leftSide, choice [pattern, patternList]),
  (patternList, seq [
    pattern, choice [",", seq [repeated (seq [",", pattern]), optional ","]]]),
  (rightSide, choice [
    expression, expressionList, assignment, augmentedAssignment, patternList, yield]),
  (yield, rightward 0 (seq [
    "yield", choice [seq ["from", expression], optional expressions]])),
  (access, strong strength.call (seq [primaryExpression, ".", Terminal.name])),
  (subscript, strong strength.call (seq [
    primaryExpression, "[", commas (choice [expression, slice]), optional ",", "]"])),
  (slice, seq [
    optional expression, ":", optional expression, optional (seq [":", optional expression])]),
  (call, strong strength.call (seq [
    primaryExpression, choice [generatorExpression, argumentList]])),
  (typedParameter, strong strength.typedParameter (seq [
    choice [Terminal.name, listSplatPattern, dictionarySplatPattern], ":", type]))]

/-- Types. -/
def typeRules : List (Phrase × Rule) := [
  (type, choice [
    strong 1 expression, splatType, genericType, unionType, constrainedType, memberType]),
  (splatType, strong 1 (seq [choice ["*", "**"], Terminal.name])),
  (genericType, strong 1 (seq [
    choice [Terminal.name, shown (.terminal .name) "type"], typeParameter])),
  (unionType, leftward 0 (seq [type, "|", type])),
  (constrainedType, rightward 0 (seq [type, ":", type])),
  (memberType, seq [type, ".", Terminal.name])]

/-! ### Displays and literals -/

/-- Displays, comprehensions and strings. -/
def displayRules : List (Phrase × Rule) := [
  (keywordArgument, seq [choice [Terminal.name, keywordName], "=", expression]),
  (list, seq ["[", optional collectionElements, "]"]),
  (set, seq ["\x7b", collectionElements, "\x7d"]),
  (tuple, seq ["(", optional collectionElements, ")"]),
  (dictionary, seq [
    "\x7b", optional (commas (choice [pair, dictionarySplat])), optional ",", "\x7d"]),
  (pair, seq [expression, ":", expression]),
  (listComprehension, seq ["[", expression, comprehensionClauses, "]"]),
  (dictionaryComprehension, seq ["\x7b", pair, comprehensionClauses, "\x7d"]),
  (setComprehension, seq ["\x7b", expression, comprehensionClauses, "\x7d"]),
  (generatorExpression, seq ["(", expression, comprehensionClauses, ")"]),
  (comprehensionClauses, seq [forInClause, many (choice [forInClause, ifClause])]),
  (parenthesizedExpression, strong strength.parenthesized (seq [
    "(", choice [expression, yield], ")"])),
  (collectionElements, commaList (choice [expression, yield, listSplat, parenthesizedSplat])),
  (forInClause, leftward 0 (seq [
    optional "async", "for", leftSide, "in", commas clauseExpression, optional ","])),
  (ifClause, seq ["if", expression]),
  (conditionalExpression, rightward strength.conditional (seq [
    expression, "if", expression, "else", expression])),
  (concatenatedString, seq [string, repeated string]),
  (string, seq [
    Terminal.stringStart, many (choice [interpolation, stringContent]), Terminal.stringEnd]),
  (stringContent, rightward 0 (repeated (choice [
    Terminal.doubledBrace, Terminal.escape, Terminal.backslash, Terminal.stringContent]))),
  (interpolation, seq [
    "\x7b", holeExpression, optional "=", optional Terminal.conversion,
    optional formatSpecifier, "\x7d"]),
  (holeExpression, choice [expression, expressionList, patternList, yield]),
  (formatSpecifier, seq [":", many (choice [Terminal.formatText, interpolation])]),
  (keywordName, choice [
    strong (-3) (shown (.terminal .name) (choice ["print", "exec", "async", "await", "match"])),
    shown (.terminal .name) "type"]),
  (await, strong strength.unary (seq ["await", primaryExpression])),
  (positionalSeparator, "/"),
  (keywordSeparator, "*")]

/-- The rule of every phrase. -/
def rules : List (Phrase × Rule) :=
  simpleRules ++ compoundRules ++ caseRules ++ patternRules ++ operatorRules ++ typeRules ++
    displayRules

end DocStubs.Code
