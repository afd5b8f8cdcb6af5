import BundleAtlas.Grammar.Expression

/-!
Classes and their members. In the plain dialect decorators belong to the member; with types those
of a method stand beside it in the class body.
-/

namespace BundleAtlas.Phrase

/-- What a member can go on with behind a modifier. -/
def memberAhead : Phrase := .ahead (any [Rule.memberKey, "*"])

/-- A word that changes a member, where a member follows on the same line. -/
def modifier (words : List Phrase) : Phrase := opt (all [any words, .unbroken, memberAhead])

/-- The words that tell getters, setters and generators. -/
def accessor : Phrase := opt (any [all [any ["get", "set"], .unbroken, memberAhead], "*"])

/-- A decorator: a name, a member or a call of one. -/
def decorator (typed : Bool) : Phrase :=
  named "decorator" (all ["@",
    .grow (any [name, Rule.parenthesized]) (any [memberSuffix, callSuffix typed])])

/-- Statements in braces. -/
def block : Phrase :=
  .node .statementBlock (all [opening, .within .fresh (.many Rule.statement), closing])

/-- The statements of a function that is a value. An end of statement behind the braces belongs to
them. -/
def functionBody : Phrase :=
  .node .statementBlock (all [opening, .within .fresh (.many Rule.statement), closing,
    opt (.implied .expression)])

/-- A method of an object or class. -/
def plainMethod : Phrase :=
  .node .methodDefinition (all [.many Rule.decorator, modifier ["static"], modifier ["async"],
    accessor, .field .name Rule.memberKey, Rule.signature, .field .body Rule.block])

/-- A method with what may stand around it in the dialect with types. -/
def typedMethod : Phrase :=
  .node .methodDefinition (all [Rule.modifiers, modifier ["async"], accessor,
    .field .name Rule.memberKey, opt "?", Rule.signature, .field .body Rule.block])

/-- A member of a class in the plain dialect. -/
def plainMember : Phrase :=
  any [all [Rule.method, opt ";"],
    all [.node .fieldDefinition (all [.many Rule.decorator, modifier ["static"],
      .field .property Rule.memberKey, opt (all [equals, .field .value Rule.expression])]),
      stop .binding],
    named "class_static_block" (all ["static", Rule.block]),
    ";"]

/-- A member of a class in the dialect with types. -/
def typedMember : Phrase :=
  any [all [Rule.method, opt ";"],
    named "class_static_block" (all ["static", Rule.block]),
    all [named "method_signature" (all [Rule.modifiers, modifier ["async"], accessor,
        .field .name Rule.memberKey, opt "?", Rule.signature]),
      any [stop .signature, ","]],
    all [named "index_signature" (all [Rule.modifiers, "[", inside (all [name, ":", Rule.type]),
        "]", Rule.ascription]),
      any [stop .plain, ","]],
    all [.node .publicFieldDefinition (all [.many Rule.decorator, Rule.modifiers,
      .field .name Rule.memberKey, opt (any ["?", mark "!" "="]), opt Rule.ascription,
      opt (all [equals, .field .value Rule.expression])]),
      any [stop .binding, ","]],
    Rule.decorator,
    ";"]

def classBody : Phrase :=
  .node .classBody (all [opening, .within .fresh (.many Rule.classMember), closing])

/-- What a class with types extends: an access with arguments that belong to the clause, or any
expression. -/
def extended : Phrase :=
  any [all [.grow Rule.primary (access true), Rule.typeArguments,
      .ahead (any [opening, ",", "implements"])],
    .within .branch Rule.expression]

/-- What a class extends and implements. -/
def heritage (typed : Bool) : Phrase :=
  if typed then
    named "class_heritage" (any [
      all [named "extends_clause" (all ["extends", commas extended]),
        opt (named "implements_clause" (all ["implements", commas Rule.type]))],
      named "implements_clause" (all ["implements", commas Rule.type])])
  else named "class_heritage" (all ["extends", .within .branch Rule.expression])

/-- The name of a class. -/
def className (typed : Bool) : Phrase :=
  .field .name (nameAs (if typed then .other "type_identifier" else .identifier))

/-- What follows the name of a class. -/
def classTail (typed : Bool) : Phrase :=
  if typed then all [opt Rule.typeParameters, opt Rule.heritage, .field .body Rule.classBody]
  else all [opt Rule.heritage, .field .body Rule.classBody]

/-- A class as a value. -/
def classExpression (typed : Bool) : Phrase :=
  if typed then
    named "class" (all [.many Rule.decorator, "class",
      any [all [className true, classTail true], classTail true]])
  else
    named "class" (all [.many Rule.decorator, "class",
      any [all [className false, classTail false], classTail false]])

/-- What goes on with an expression and cannot start a statement. -/
def continued : Phrase :=
  any [mark "." ".", chain, "=", "*", "%", "&", "|", "^", ",", .lex .question (.token "?"), "??",
    ">", "in", "instanceof", "!="]

def classDeclaration (typed : Bool) : Phrase :=
  if typed then
    any [all [.node .classDeclaration (all [.many Rule.decorator, "class", className true,
        classTail true]), .unless continued],
      .node .abstractClassDeclaration (all [.many Rule.decorator, "abstract", "class",
        className true, classTail true])]
  else
    all [.node .classDeclaration (all [.many Rule.decorator, "class", className false,
      classTail false]), .unless continued]

end BundleAtlas.Phrase
