import BundleAtlas.Grammar.TypeExpression

/-!
Statements and declarations.
-/

namespace BundleAtlas.Phrase

/-- A binding of a declaration. -/
def declarator (typed : Bool) : Phrase :=
  let value := opt (all [equals, .field .value Rule.expression])
  .node .variableDeclarator (if typed then
    all [.field .name (any [Rule.destructuring, name]), opt (mark "!" "="), opt Rule.ascription,
      value]
  else all [.field .name (any [Rule.destructuring, name]), value])

/-- The keyword of a declaration whose bindings live in a block. -/
def lexicalKeyword : Phrase := .field .kind (any [all ["let", .unbroken], "const"])

def variableStatement : Phrase :=
  any [.node .lexicalDeclaration (all [lexicalKeyword, commas Rule.declarator, stop .binding]),
    .node .variableDeclaration (all [.field .kind "var", commas Rule.declarator, stop .binding])]

/-- A declaration of resources. -/
def usingStatement : Phrase :=
  named "using_declaration" (all [opt "await", "using", .unbroken, commas Rule.declarator,
    stop .binding])

def functionDeclaration : Phrase :=
  let rest := all [.field .name name, Rule.signature, .field .body Rule.block]
  all [any [.node .functionDeclaration (all [opt asynchronous, "function", rest]),
      .node .generatorDeclaration (all [opt asynchronous, "function", "*", rest])],
    .unless continued]

/-- A function without a body. -/
def functionSignature : Phrase :=
  named "function_signature" (all [opt asynchronous, "function", opt "*", name, Rule.signature,
    stop .signature])

/-- A name with points in it, or a quoted one. -/
def moduleName : Phrase := any [string, all [name, .many (all [".", anyWord .propertyIdentifier])]]

/-- A namespace with statements in it. -/
def namespaceDeclaration : Phrase :=
  named "module" (all [any ["namespace", "module"], .unbroken, moduleName, opt Rule.block])

/-- The values of an enumeration. -/
def enumeration : Phrase :=
  named "enum_declaration" (all [opt "const", "enum", name,
    named "enum_body" (all [opening, inside (list (all [Rule.memberKey,
      opt (all [equals, Rule.expression])])), closing])])

def interfaceDeclaration : Phrase :=
  named "interface_declaration" (all ["interface", .unbroken, nameAs (.other "type_identifier"),
    opt Rule.typeParameters, opt (all ["extends", commas Rule.type]), Rule.objectType])

/-- A name for a type. -/
def typeAlias : Phrase :=
  named "type_alias_declaration" (all ["type", .unbroken, nameAs (.other "type_identifier"),
    opt Rule.typeParameters, equals, Rule.type, stop .plain])

/-- Another name for a member of a namespace. -/
def importAlias : Phrase :=
  named "import_alias" (all ["import", name, equals, moduleName, stop .plain])

/-- Declarations of the dialect with types. -/
def typedDeclaration : Phrase :=
  any [enumeration, interfaceDeclaration, typeAlias, importAlias, namespaceDeclaration,
    named "ambient_declaration" (all ["declare", .unbroken,
      any [all ["global", Rule.block], Rule.declaration,
        all ["module", ".", anyWord .propertyIdentifier, ":", Rule.type, stop .plain]]])]

def declaration (typed : Bool) : Phrase :=
  if typed then
    any [enumeration, Rule.variableStatement, Rule.functionDeclaration, functionSignature,
      Rule.classDeclaration, typedDeclaration]
  else any [Rule.variableStatement, Rule.functionDeclaration, Rule.classDeclaration,
    usingStatement]

/-- Where something is imported from. -/
def source : Phrase :=
  all ["from", string, opt (all [any ["with", "assert"], Rule.object])]

/-- A name that a module gives out. -/
def exportedName : Phrase := any [string, anyWord .identifier]

/-- Names in braces, each perhaps under another name. -/
def specifiers (typed : Bool) : Phrase :=
  let plain := all [exportedName, opt (all ["as", exportedName])]
  let one := if typed then any [all [any ["type", "typeof"], plain, .ahead (any [",", closing])],
    plain] else plain
  named "specifiers" (all [opening, inside (list one), closing])

def exportStatement (typed : Bool) : Phrase :=
  let named := any [all ["*", opt (all ["as", exportedName]), source], all [specifiers typed,
    opt source]]
  let decorated := all [.many Rule.decorator, "export",
    any [all ["default", any [.field .declaration Rule.declaration,
        all [Rule.expression, stop .expression]]],
      .field .declaration Rule.declaration]]
  .node .exportStatement (if typed then
    any [all ["export", opt "type", named, stop .plain],
      all ["export", "import", name, equals, any [all ["require", "(", string, ")"], moduleName],
        stop .plain],
      all ["export", equals, Rule.expression, stop .expression],
      all ["export", "as", "namespace", name, stop .plain],
      decorated]
  else any [all ["export", named, stop .plain], decorated])

/-- What an import brings in. -/
def importClause (typed : Bool) : Phrase :=
  let many := any [all ["*", "as", name], specifiers typed]
  any [many, all [name, opt (all [",", many])]]

def importStatement (typed : Bool) : Phrase :=
  let plain := any [all [importClause typed, source],
    all [string, opt (all [any ["with", "assert"], Rule.object])]]
  let loaded := any [all [name, equals, "require", "(", string, ")"], plain]
  named "import_statement" (if typed then
    any [all ["import", any ["type", "typeof"], loaded, stop .plain],
      all ["import", loaded, stop .plain]]
  else all ["import", plain, stop .plain])

def expressionStatement : Phrase :=
  named "expression_statement" (all [Rule.expressions, stop .expression])

/-- The binding of a loop over the members of a value. -/
def loopBinding (typed : Bool) : Phrase :=
  let left := .field .left (any [Rule.destructuring, name])
  let declared := [all [.field .kind (any ["let", "const"]), left],
    all [.field .kind "var", left,
      opt (all [equals, .within .withoutIn Rule.expression])]]
  let assigned := [.field .left (any [Rule.destructuring, Rule.target, Rule.parenthesized])]
  if typed then any (declared ++ assigned)
  else any (declared ++ [all [.field .kind (all [opt "await", "using"]), left]] ++ assigned)

/-- A loop over the members of a value. -/
def forIn (typed : Bool) : Phrase :=
  .node .forIn (all ["for", opt "await", "(",
    inside (all [loopBinding typed, any ["in", "of"], Rule.expressions]), ")",
    .field .body Rule.statement])

/-- A loop with a counter. -/
def forLoop : Phrase :=
  named "for_statement" (all ["for", "(",
    inside (all [any [Rule.variableStatement, all [Rule.expressions, ";"], ";"],
      any [all [Rule.expressions, ";"], ";"], opt Rule.expressions]), ")", Rule.statement])

/-- The cases of a choice. -/
def cases : Phrase :=
  named "switch_body" (all [opening,
    .many (named "switch_case" (all [any [all ["case", .within .branch Rule.expressions, ":"],
      all ["default", ":"]], .many Rule.statement])),
    closing])

/-- A jump with an optional label. -/
def jump (word : String) : Phrase :=
  named (word ++ "_statement") (all [token word, any [.implied .plain, ";",
    all [nameAs (.other "statement_identifier"), stop .plain]]])

/-- Statements that a keyword starts. -/
def keywordStatements (typed : Bool) : List Phrase :=
  [named "if_statement" (all ["if", Rule.parenthesized, Rule.statement,
      opt (named "else_clause" (all ["else", Rule.statement]))]),
    named "return_statement" (all ["return", any [.implied .plain, ";",
      all [Rule.expressions, stop .expression]]]),
    forIn typed, forLoop,
    named "while_statement" (all ["while", Rule.parenthesized, Rule.statement]),
    named "do_statement" (all ["do", Rule.statement, "while", Rule.parenthesized,
      opt (stop .plain)]),
    named "switch_statement" (all ["switch", Rule.parenthesized, cases]),
    named "try_statement" (all ["try", Rule.block,
      opt (named "catch_clause" (all ["catch",
        opt (all ["(", inside (all [any [Rule.destructuring, name],
          if typed then opt Rule.ascription else .done]), ")"]), Rule.block])),
      opt (named "finally_clause" (all ["finally", Rule.block]))]),
    named "throw_statement" (all ["throw", Rule.expressions, stop .expression]),
    jump "break", jump "continue",
    named "debugger_statement" (all ["debugger", stop .plain]),
    named "with_statement" (all ["with", Rule.parenthesized, Rule.statement])]

/-- A statement. Braces hold statements unless they can only hold an object. -/
def statement (typed : Bool) : Phrase :=
  .within .fresh (any ([.lex .markupComment .comment,
    all [objectAhead, Rule.expressionStatement], Rule.block,
    Rule.exportStatement, Rule.importStatement, Rule.declaration] ++ keywordStatements typed ++
    [named "empty_statement" ";",
      named "labeled_statement" (all [nameAs (.other "statement_identifier"), ":",
        Rule.statement]),
      Rule.expressionStatement]))

/-- A whole document. -/
def program : Phrase :=
  .node .program (all [opt (.lex .interpreterLine (.other "hash_bang_line")),
    .many Rule.statement, .finish])

end BundleAtlas.Phrase
