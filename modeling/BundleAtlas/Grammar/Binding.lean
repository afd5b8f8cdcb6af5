import BundleAtlas.Grammar.Phrase

/-!
Names, keys, patterns and parameters.
-/

namespace BundleAtlas.Phrase

/-- Words that name nothing. -/
def reserved : List (List Char) :=
  ["break", "case", "catch", "class", "const", "continue", "debugger", "default", "delete", "do",
    "else", "export", "extends", "false", "finally", "for", "function", "if", "import", "in",
    "instanceof", "new", "null", "return", "super", "switch", "this", "throw", "true", "try",
    "typeof", "var", "void", "while", "with"].map String.toList

/-- A name, as a node of the given kind. -/
def nameAs (k : Kind) : Phrase := .lex (.name reserved) k

/-- A name. -/
def name : Phrase := nameAs .identifier

/-- Any word, as a node of the given kind. -/
def anyWord (k : Kind) : Phrase := .lex (.name []) k

/-- The word for a missing value, which is no name in an expression. -/
def missingValue : Phrase := .lex (.word "undefined".toList) (.other "undefined")

def number : Phrase := .lex .number (.other "number")

def string : Phrase := .lex .string .string

def privateName : Phrase := .lex .privateName .privateIdentifier

/-- An opening brace. -/
def opening : Phrase := token "\x7b"

/-- A closing brace. -/
def closing : Phrase := token "\x7d"

/-- The sign before a value. -/
def equals : Phrase := mark "=" "=>"

/-- The key of a member. -/
def memberKey : Phrase :=
  any [privateName, anyWord .propertyIdentifier, string, number,
    named "computed_property_name" (all ["[", inside Rule.expression, "]"])]

/-- A pattern with a value to fall back on. -/
def defaulted : Phrase :=
  .grow Rule.pattern (.enclose .assignmentPattern (some .left) (all [equals, Rule.expression]))

/-- What takes the remaining values. -/
def restPattern : Phrase :=
  .node .restPattern (all ["...", any [Rule.destructuring, Rule.target]])

/-- A member of a pattern in braces. -/
def patternMember : Phrase :=
  any [named "pair_pattern" (all [Rule.memberKey, ":", defaulted]),
    restPattern,
    named "object_assignment_pattern"
      (all [any [nameAs (.other "shorthand_property_identifier_pattern"), Rule.destructuring],
        equals, Rule.expression]),
    nameAs (.other "shorthand_property_identifier_pattern")]

/-- A pattern that takes a value apart. -/
def destructuring : Phrase :=
  any [.node .objectPattern (all [opening, inside (holes patternMember), closing]),
    .node .arrayPattern (all ["[", inside (holes defaulted), "]"])]

/-- What a value can be bound or assigned to. -/
def pattern : Phrase := any [Rule.destructuring, restPattern, Rule.target]

/-- A list of parameters. -/
def parameters : Phrase :=
  named "formal_parameters" (all ["(", inside (list Rule.parameter), ")"])

/-- A word before a parameter that something to bind follows. -/
def parameterModifier (words : List Phrase) : Phrase :=
  opt (all [any words, .ahead (any [name, opening, "["])])

/-- What stands before a parameter with a type. -/
def parameterModifiers : Phrase :=
  all [.many Rule.decorator, parameterModifier ["public", "private", "protected"],
    parameterModifier ["override"], parameterModifier ["readonly"]]

/-- What follows a parameter with a type. -/
def parameterTail : Phrase :=
  all [opt Rule.ascription, opt (all [equals, .field .value Rule.expression])]

/-- A parameter with a type. -/
def typedParameter : Phrase :=
  let binding := .field .pattern (any [Rule.pattern, "this"])
  any [.node .optionalParameter (all [parameterModifiers, binding, "?", parameterTail]),
    .node .requiredParameter (all [parameterModifiers, binding, parameterTail])]

/-- Parameters with what may stand around them. -/
def signature (typed : Bool) : Phrase :=
  if typed then
    all [opt Rule.typeParameters, .field .parameters Rule.parameters, opt Rule.result]
  else .field .parameters Rule.parameters

end BundleAtlas.Phrase
