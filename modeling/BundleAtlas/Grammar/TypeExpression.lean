import BundleAtlas.Grammar.Class

/-!
Types: annotations, type expressions, and the signatures that object types hold.
-/

namespace BundleAtlas.Phrase

/-- A type behind a colon. -/
def ascription : Phrase := named "type_annotation" (all [":", Rule.type])

/-- A statement about what a function tells of its argument, or a type. -/
def resultType : Phrase :=
  let predicate := all [any [name, "this"], .unbroken, "is", Rule.type]
  any [all ["asserts", any [predicate, name, "this"]], predicate, Rule.type]

/-- The result of a function behind a colon. -/
def result : Phrase := named "type_annotation" (all [":", resultType])

/-- The name of a type, perhaps in namespaces and with arguments. -/
def typeName : Phrase :=
  all [nameAs (.other "type_identifier"),
    .many (all [mark "." ".", anyWord (.other "type_identifier")]), opt Rule.typeArguments]

/-- The type of a value. -/
def typeQuery : Phrase :=
  named "type_query" (all ["typeof",
    any [all ["import", Rule.arguments], anyWord (.other "identifier")],
    .many (any [all [any [mark "." ".", chain],
        any [privateName, anyWord (.other "property_identifier")]],
      all ["[", any [number, string, Rule.type], "]"]]),
    opt Rule.typeArguments])

/-- A member of a tuple. -/
def tupleMember : Phrase :=
  all [opt "...", any [all [anyWord (.other "identifier"), opt "?", ":", Rule.type], Rule.type],
    opt "?"]

/-- A template of types. -/
def templateType : Phrase :=
  named "template_literal_type" (all ["`",
    .many (any [.raw .templateText (.other "string_fragment"),
      .raw .escape (.other "escape_sequence"),
      all [.raw (.mark ['$', '\x7b'] []) (.token "$\x7b"), inside Rule.type, closing]]),
    .raw (.mark ['`'] []) (.token "`")])

/-- A type without operators. -/
def typePrimary : Phrase :=
  any [all ["(", inside Rule.type, ")"], Rule.objectType,
    named "tuple_type" (all ["[", inside (list tupleMember), "]"]),
    named "literal_type" (any [.lex .string (.other "string"), number, all [any ["-", "+"], number],
      "true", "false", "null"]),
    templateType, typeQuery, "void", "this",
    all ["import", Rule.arguments, .many (all [".", anyWord (.other "type_identifier")]),
      opt Rule.typeArguments],
    all ["unique", "symbol"],
    named "type" typeName, "*"]

/-- A type of functions. -/
def functionType : Phrase :=
  named "function_type" (all [opt Rule.typeParameters, Rule.parameters, "=>", resultType])

/-- A type of constructors. -/
def constructorType : Phrase :=
  named "constructor_type" (all [opt "abstract", "new", opt Rule.typeParameters, Rule.parameters,
    "=>", Rule.type])

/-- An operand of a union or intersection. -/
def typeOperand : Phrase :=
  any [functionType, constructorType,
    all [any ["keyof", "readonly"], Rule.typeOperand],
    all ["infer", nameAs (.other "type_identifier"), opt (all ["extends", Rule.typeOperand,
      .unless "?"])],
    all [Rule.typePrimary, .many (all [.unbroken, "[", inside (opt Rule.type), "]"])]]

/-- Types with ampersands between them. -/
def intersection : Phrase :=
  all [opt "&", Rule.typeOperand, .many (all [mark "&" "&", Rule.typeOperand])]

/-- Types with bars between them. -/
def union : Phrase := all [opt "|", intersection, .many (all [mark "|" "|", intersection])]

def type : Phrase :=
  all [union, opt (all ["extends", union, "?", Rule.type, ":", Rule.type])]

def typeArguments : Phrase := named "type_arguments" (all ["<", inside (list Rule.type), ">"])

def typeParameters : Phrase :=
  named "type_parameters" (all ["<", inside (list (all [.many (all [any ["const", "in", "out"],
      .ahead name]), nameAs (.other "type_identifier"),
    opt (all ["extends", Rule.type]), opt (all [equals, Rule.type])])), ">"])

/-- Words that change a member of a class with types. -/
def modifiers : Phrase :=
  .many (all [any ["public", "private", "protected", "static", "override", "readonly", "abstract",
    "declare", "accessor"], .unbroken, memberAhead])

/-- The sign that makes a mapped member optional or required. -/
def mappedSign : Phrase := opt (any ["?", all [any ["-", "+"], "?"]])

/-- A member of an object type. -/
def typeMember : Phrase :=
  any [named "index_signature" (all [opt (all [opt (any ["-", "+"]), "readonly"]), "[",
      inside (any [all [name, ":", Rule.type],
        all [nameAs (.other "type_identifier"), "in", Rule.type, opt (all ["as", Rule.type])]]),
      "]", mappedSign, opt Rule.ascription]),
    named "construct_signature" (all ["new", opt Rule.typeParameters, Rule.parameters,
      opt Rule.ascription]),
    named "call_signature" Rule.signature,
    named "method_signature" (all [Rule.modifiers, modifier ["async"], accessor, Rule.memberKey,
      opt "?", Rule.signature]),
    named "property_signature" (all [Rule.modifiers, Rule.memberKey, opt "?",
      opt Rule.ascription])]

def objectType : Phrase :=
  named "object_type" (all [opening, .within .fresh (all [opt (any [",", ";"]),
    .many (all [Rule.typeMember, any [",", ";", .implied .plain, .ahead closing]])]), closing])

end BundleAtlas.Phrase
