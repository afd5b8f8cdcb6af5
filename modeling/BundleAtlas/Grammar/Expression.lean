import BundleAtlas.Grammar.Binding

/-!
Expressions. A read starts with an operand and then takes suffixes as long as they bind in the
current setting: accesses and calls always do, a binary operator from its level on.
-/

namespace BundleAtlas.Phrase

/-- The sign of an optional access. -/
def chain : Phrase := .lex .chain (.token "?.")

/-- Text between backquotes, with substitutions. -/
def template : Phrase :=
  named "template_string" (all ["`",
    .many (any [.raw .templateText (.other "string_fragment"),
      .raw .escape (.other "escape_sequence"),
      named "template_substitution" (all [.raw (.mark ['$', '\x7b'] []) (.token "$\x7b"),
        inside Rule.expressions, closing])]),
    .raw (.mark ['`'] []) (.token "`")])

/-- The values of a spread. -/
def spread : Phrase := named "spread_element" (all ["...", Rule.expression])

def array : Phrase :=
  .node .array (all ["[", inside (holes (any [spread, Rule.expression])), "]"])

def object : Phrase :=
  .node .object (all [opening, inside (holes Rule.objectMember), closing])

/-- A member of an object. -/
def objectMember : Phrase :=
  any [.node .pair (all [.field .key Rule.memberKey, ":", .field .value Rule.expression]),
    spread, Rule.method, nameAs (.other "shorthand_property_identifier")]

/-- Whether braces here hold an object: the first thing in them is a spread or a key with its
colon. -/
def objectAhead : Phrase := .ahead (all [opening, inside (any ["...", all [Rule.memberKey, ":"]])])

def arguments : Phrase :=
  named "arguments" (all ["(", inside (holes (any [spread, Rule.expression])), ")"])

def parenthesized (typed : Bool) : Phrase :=
  if typed then
    .node .parenthesized (all ["(", inside (all [Rule.expressions, opt Rule.ascription]), ")"])
  else .node .parenthesized (all ["(", inside Rule.expressions, ")"])

/-- A word that changes the function behind it on the same line. -/
def asynchronous : Phrase := all ["async", .unbroken]

/-- A function as a value. -/
def functionExpression : Phrase :=
  let rest := all [opt (.field .name name), Rule.signature, .field .body Rule.functionBody]
  any [.node .functionExpression (all [opt asynchronous, "function", rest]),
    .node .generatorExpression (all [opt asynchronous, "function", "*", rest])]

/-- The body of a function: braces hold statements unless they can only hold an object. -/
def arrowBody : Phrase :=
  .field .body (any [all [objectAhead, .within (.floor 0) Rule.expression], Rule.functionBody,
    .within (.floor 0) Rule.expression])

/-- The parameters of an arrow function. -/
def arrowParameters (typed : Bool) : Phrase :=
  if typed then
    any [.field .parameter name,
      all [opt Rule.typeParameters, .field .parameters Rule.parameters,
        opt (all [.guard .result, Rule.result])]]
  else any [.field .parameter name, .field .parameters Rule.parameters]

def arrow (typed : Bool) : Phrase :=
  if typed then
    .node .arrowFunction (all [any [all [asynchronous, arrowParameters true, "=>"],
      all [arrowParameters true, "=>"]], arrowBody])
  else
    .node .arrowFunction (all [any [all [asynchronous, arrowParameters false, "=>"],
      all [arrowParameters false, "=>"]], arrowBody])

/-- What an operator can be applied to. -/
def primary : Phrase :=
  any [Rule.functionExpression, missingValue, name, Rule.parenthesized, string, number,
    Rule.template, Rule.object, Rule.array, .lex (.word "this".toList) (.other "this"),
    .lex (.word "super".toList) (.other "super"), .lex (.word "true".toList) (.other "true"),
    .lex (.word "false".toList) (.other "false"), .lex (.word "null".toList) (.other "null"),
    .lex .regex (.other "regex"), Rule.classExpression,
    all [.lex (.word "import".toList) (.other "import"), .ahead (any ["(", "."])],
    Rule.element]

/-- An access to a member by name. -/
def memberSuffix : Phrase :=
  .enclose .memberExpression (some .object)
    (all [any [mark "." ".", chain],
      .field .property (any [privateName, anyWord .propertyIdentifier])])

/-- An access to a member by a computed key. -/
def subscriptSuffix : Phrase :=
  wrap "subscript_expression" (all [opt chain, "[", inside Rule.expressions, "]"])

/-- A call with arguments. -/
def callSuffix (typed : Bool) : Phrase :=
  .enclose .callExpression (some .function)
    (if typed then all [opt chain, opt Rule.typeArguments, .field .arguments Rule.arguments]
      else all [opt chain, .field .arguments Rule.arguments])

/-- A call with a template. -/
def templateSuffix : Phrase :=
  .enclose .callExpression (some .function) (.field .arguments Rule.template)

/-- Accesses and calls. -/
def access (typed : Bool) : Phrase :=
  any [memberSuffix, subscriptSuffix, callSuffix typed, templateSuffix]

/-- The kinds of operands that can be assigned to. -/
def assignable : List Kind :=
  [.identifier, .other "undefined", .memberExpression, .other "subscript_expression",
    .other "non_null_expression"]

/-- Something that can be assigned to. -/
def target (typed : Bool) : Phrase :=
  all [.grow Rule.primary (access typed), .shape assignable]

/-- What follows the keyword of a construction. -/
def constructor : Phrase :=
  .grow (any [Rule.construction, Rule.primary]) (any [memberSuffix, subscriptSuffix, templateSuffix])

def construction (typed : Bool) : Phrase :=
  any [named "meta_property" (all ["new", ".", "target"]),
    named "new_expression" (all ["new", Rule.constructor,
      if typed then opt Rule.typeArguments else .done, opt Rule.arguments])]

/-- The operand of a prefix operator. -/
def tight : Phrase := .within (.floor 13) Rule.expression

/-- What an expression can start with. -/
def head : Phrase :=
  any [Rule.arrow,
    named "yield_expression"
      (all ["yield", any [all [.unbroken, "*", .within (.floor 0) Rule.expression],
        all [.unbroken, .within (.floor 0) Rule.expression], .done]]),
    named "await_expression" (all ["await", tight]),
    named "assignment_expression"
      (all [Rule.destructuring, equals, .within (.floor 0) Rule.expression]),
    all [privateName, .ahead "in"],
    Rule.construction,
    Rule.primary,
    named "update_expression" (all [any ["++", "--"], tight]),
    named "unary_expression"
      (all [any ["!", "~", mark "-" "-", mark "+" "+", "typeof", "void", "delete"], tight])]

/-- A binary operator whose operands on the right bind more tightly. -/
def binary (level : Nat) (operators : List Phrase) : Phrase :=
  wrap "binary_expression"
    (all [.guard (.binds level), any operators, .within (.floor (level + 1)) Rule.expression])

/-- Binary operators, the loosest ones last. -/
def binaries : List Phrase :=
  [wrap "binary_expression"
      (all [.guard (.binds 12), mark "**" "=", .within (.floor 12) Rule.expression]),
    binary 11 [mark "*" "*=", mark "/" "=", mark "%" "="],
    binary 10 [mark "+" "+=", mark "-" "-="],
    binary 9 [mark ">>>" "=", mark "<<" "=", mark ">>" ">="],
    binary 8 ["<=", ">=", mark "<" "<=", mark ">" ">=", "instanceof", all [.guard .relation, "in"]],
    binary 7 ["===", "!==", mark "==" "=", mark "!=" "="],
    binary 6 [mark "&" "&="],
    binary 5 [mark "^" "="],
    binary 4 [mark "|" "|="],
    binary 3 [mark "&&" "="],
    binary 2 [mark "||" "="],
    binary 1 [mark "??" "="]]

/-- Assignments: the value reaches as far as it can. -/
def assignment : Phrase :=
  any [wrap "assignment_expression" (all [.shape (.parenthesized :: assignable), equals,
      .within (.floor 0) Rule.expression]),
    wrap "augmented_assignment_expression" (all [.shape (.parenthesized :: assignable),
      any ["+=", "-=", "*=", "/=", "%=", "^=", "&=", "|=", ">>=", ">>>=", "<<=", "**=", "&&=",
        "||=", "??="],
      .within (.floor 0) Rule.expression])]

/-- The branches of a conditional expression. -/
def branches : Phrase :=
  all [.within .branch Rule.expression, ":", .within (.floor 1) Rule.expression]

/-- A conditional expression. With types, what looks like a result type in the first branch may be
the second one. -/
def conditional (typed : Bool) : Phrase :=
  wrap "ternary_expression" (all [.guard (.binds 1), .lex .question (.token "?"),
    if typed then any [branches, all [.within .branch (.within .withoutResult Rule.expression), ":",
      .within (.floor 1) Rule.expression]]
    else branches])

/-- A change of the operand by one. -/
def update : Phrase := wrap "update_expression" (all [.unbroken, any ["++", "--"]])

/-- Suffixes of the dialect with types. -/
def typedSuffixes : List Phrase :=
  [wrap "non_null_expression" (all [.unbroken, mark "!" "="]),
    wrap "as_expression" (all [.guard (.binds 8), .unbroken, "as", any ["const", Rule.type]]),
    wrap "satisfies_expression" (all [.guard (.binds 8), .unbroken, "satisfies", Rule.type]),
    wrap "instantiation_expression" (all [Rule.typeArguments,
      .unless (any [name, number, string, opening, "[", "(", "!", "~"])])]

def expression (typed : Bool) : Phrase :=
  if typed then
    .grow head (any ([access true, update, assignment] ++ typedSuffixes ++ binaries ++
      [conditional true]))
  else .grow head (any ([access false, update, assignment] ++ binaries ++ [conditional false]))

/-- An expression or several with commas between them. -/
def expressions : Phrase :=
  .grow Rule.expression (wrap "sequence_expression"
    (all [",", Rule.expression, .many (all [",", Rule.expression])]))

end BundleAtlas.Phrase
