/-!
What a syntax node can be. The kinds that an analysis asks for have constructors of their own;
punctuation and keywords are `token`s, and every other construct is `other` with its name.
-/

namespace BundleAtlas

/-- The kind of a syntax node. -/
inductive Kind where
  | program
  | comment
  | functionDeclaration
  | generatorDeclaration
  | functionExpression
  | generatorExpression
  | arrowFunction
  | methodDefinition
  | classDeclaration
  | abstractClassDeclaration
  | classBody
  | fieldDefinition
  | publicFieldDefinition
  | lexicalDeclaration
  | variableDeclaration
  | variableDeclarator
  | forIn
  | exportStatement
  | statementBlock
  | parenthesized
  | callExpression
  | memberExpression
  | identifier
  | propertyIdentifier
  | privateIdentifier
  | string
  | array
  | object
  | pair
  | objectPattern
  | arrayPattern
  | assignmentPattern
  | restPattern
  | requiredParameter
  | optionalParameter
  | token (text : String)
  | other (name : String)
deriving Repr, DecidableEq, Inhabited

namespace Kind

/-- Tokens of fixed text have no name of their own; all else is a named node. -/
def isNamed : Kind → Bool
  | token _ => false
  | _ => true

/-- Declarations that introduce a function under its own name. -/
def isFunctionDeclaration : Kind → Bool
  | functionDeclaration | generatorDeclaration => true
  | _ => false

/-- Functions that are values. -/
def isFunctionValue : Kind → Bool
  | functionExpression | generatorExpression | arrowFunction => true
  | _ => false

/-- Declarations of classes. -/
def isClassDeclaration : Kind → Bool
  | classDeclaration | abstractClassDeclaration => true
  | _ => false

/-- Statements made of a keyword and declarators. -/
def isVariableDeclaration : Kind → Bool
  | lexicalDeclaration | variableDeclaration => true
  | _ => false

/-- Members of a class that hold a value. -/
def isClassField : Kind → Bool
  | fieldDefinition | publicFieldDefinition => true
  | _ => false

/-- Nodes that open a function of their own: a call inside belongs to the innermost one. -/
def isFunctionLike (k : Kind) : Bool :=
  k.isFunctionDeclaration || k.isFunctionValue || k == methodDefinition

/-- Functions that yield. -/
def isGenerator : Kind → Bool
  | generatorDeclaration | generatorExpression => true
  | _ => false

/-- Keys of class members that can name a caller. -/
def isMemberName : Kind → Bool
  | propertyIdentifier | privateIdentifier | identifier => true
  | _ => false

/-- Bindings that take a value apart. -/
def isDestructuring : Kind → Bool
  | objectPattern | arrayPattern => true
  | _ => false

end Kind

/-- The part a node plays in its parent, for the parts that an analysis asks for. -/
inductive Field where
  | name
  | value
  | kind
  | left
  | property
  | object
  | function
  | arguments
  | declaration
  | parameter
  | parameters
  | pattern
  | body
  | key
deriving Repr, DecidableEq, Inhabited

end BundleAtlas
