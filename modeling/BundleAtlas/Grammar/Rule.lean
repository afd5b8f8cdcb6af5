/-!
The rules of the grammar by name. The last group is for the dialect with types.
-/

namespace BundleAtlas

/-- The constructs that the grammar describes by a phrase of their own. -/
inductive Rule where
  | program
  | statement
  | block
  | declaration
  | variableStatement
  | declarator
  | functionDeclaration
  | classDeclaration
  | exportStatement
  | importStatement
  | expressionStatement
  | expressions
  | expression
  | primary
  | target
  | parenthesized
  | arrow
  | functionExpression
  | classExpression
  | construction
  | constructor
  | arguments
  | template
  | array
  | object
  | objectMember
  | memberKey
  | method
  | decorator
  | heritage
  | classBody
  | classMember
  | functionBody
  | pattern
  | destructuring
  | parameters
  | parameter
  | signature
  | element
  | elementAttribute
  | elementChild
  | ascription
  | result
  | type
  | typeOperand
  | typePrimary
  | typeArguments
  | typeParameters
  | objectType
  | typeMember
  | modifiers
deriving Repr, DecidableEq, Hashable, Inhabited

end BundleAtlas
