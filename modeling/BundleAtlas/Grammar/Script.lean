import BundleAtlas.Grammar.Element
import BundleAtlas.Grammar.Reader
import BundleAtlas.Grammar.Statement

/-!
The grammars of the two dialects, and reading a whole document by one of them.
-/

namespace BundleAtlas

namespace Grammar

/-- The phrase of a rule in a dialect. -/
def phrase (typed : Bool) : Rule → Phrase
  | .program => Phrase.program
  | .statement => if typed then Phrase.statement true else Phrase.statement false
  | .block => Phrase.block
  | .declaration => if typed then Phrase.declaration true else Phrase.declaration false
  | .variableStatement => Phrase.variableStatement
  | .declarator => if typed then Phrase.declarator true else Phrase.declarator false
  | .functionDeclaration => Phrase.functionDeclaration
  | .classDeclaration => if typed then Phrase.classDeclaration true else Phrase.classDeclaration false
  | .exportStatement => if typed then Phrase.exportStatement true else Phrase.exportStatement false
  | .importStatement => if typed then Phrase.importStatement true else Phrase.importStatement false
  | .expressionStatement => Phrase.expressionStatement
  | .expressions => Phrase.expressions
  | .expression => if typed then Phrase.expression true else Phrase.expression false
  | .primary => Phrase.primary
  | .target => if typed then Phrase.target true else Phrase.target false
  | .parenthesized => if typed then Phrase.parenthesized true else Phrase.parenthesized false
  | .arrow => if typed then Phrase.arrow true else Phrase.arrow false
  | .functionExpression => Phrase.functionExpression
  | .classExpression => if typed then Phrase.classExpression true else Phrase.classExpression false
  | .construction => if typed then Phrase.construction true else Phrase.construction false
  | .constructor => Phrase.constructor
  | .arguments => Phrase.arguments
  | .template => Phrase.template
  | .array => Phrase.array
  | .object => Phrase.object
  | .objectMember => Phrase.objectMember
  | .memberKey => Phrase.memberKey
  | .method => if typed then Phrase.typedMethod else Phrase.plainMethod
  | .decorator => if typed then Phrase.decorator true else Phrase.decorator false
  | .heritage => if typed then Phrase.heritage true else Phrase.heritage false
  | .classBody => Phrase.classBody
  | .classMember => if typed then Phrase.typedMember else Phrase.plainMember
  | .functionBody => Phrase.functionBody
  | .pattern => Phrase.pattern
  | .destructuring => Phrase.destructuring
  | .parameters => Phrase.parameters
  | .parameter => if typed then Phrase.typedParameter else Phrase.defaulted
  | .signature => if typed then Phrase.signature true else Phrase.signature false
  | .element => if typed then Phrase.element true else Phrase.element false
  | .elementAttribute => Phrase.elementAttribute
  | .elementChild => Phrase.elementChild
  | .ascription => Phrase.ascription
  | .result => Phrase.result
  | .type => Phrase.type
  | .typeOperand => Phrase.typeOperand
  | .typePrimary => Phrase.typePrimary
  | .typeArguments => Phrase.typeArguments
  | .typeParameters => Phrase.typeParameters
  | .objectType => Phrase.objectType
  | .typeMember => Phrase.typeMember
  | .modifiers => Phrase.modifiers

/-- The grammar of a dialect. -/
def dialect (typed : Bool) : Grammar := ⟨typed, phrase typed⟩

end Grammar

/-- Reads a whole document: its tree, or the mark at which no token fits. -/
def readDocument (g : Grammar) (cs : List Char) : Except Mark Node :=
  match Reader.read g (Reader.depth cs.length) (.call .program) {} (.behind (.first cs)) [] {} with
  | (some (_, nodes), _) =>
    match nodes.find? (·.kind == .program) with
    | some root => .ok root
    | none => .ok ⟨.program, none, {}, {}, []⟩
  | (none, m) => .error (m.farthest.getD {})

end BundleAtlas
