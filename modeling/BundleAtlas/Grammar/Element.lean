import BundleAtlas.Grammar.Binding

/-!
Elements: markup as an expression.
-/

namespace BundleAtlas.Phrase

/-- A part of the name of an element or attribute. -/
def elementWord : Phrase := .lex .elementName .identifier

/-- The name of an element. -/
def elementName : Phrase :=
  all [elementWord, .many (all [any [mark "." ".", ":"], elementWord])]

/-- An expression in braces, or nothing in braces. -/
def embedded : Phrase :=
  named "jsx_expression" (all [opening,
    inside (opt (any [named "spread_element" (all ["...", Rule.expression]), Rule.expressions])),
    closing])

/-- An attribute of an element. -/
def elementAttribute : Phrase :=
  any [embedded,
    named "jsx_attribute" (all [elementWord, opt (all [":", elementWord]),
      opt (all ["=", any [.lex .attributeText .string, embedded, Rule.element]])])]

/-- The name and the attributes of an element. -/
def elementHead (typed : Bool) : Phrase :=
  if typed then all [elementName, opt Rule.typeArguments, .many Rule.elementAttribute]
  else all [elementName, .many Rule.elementAttribute]

/-- What stands between the tags of an element. -/
def elementChild : Phrase :=
  any [.raw .elementText (.other "jsx_text"),
    .raw .reference (.other "html_character_reference"),
    .lex .reference (.other "html_character_reference"),
    Rule.element, embedded]

def element (typed : Bool) : Phrase :=
  any [named "jsx_self_closing_element" (all ["<", elementHead typed, "/", ">"]),
    named "jsx_element" (all ["<", opt (elementHead typed), ">", .many Rule.elementChild,
      "<", "/", opt elementName, ">"])]

end BundleAtlas.Phrase
