import BundleAtlas.Grammar.Lexeme
import BundleAtlas.Grammar.Rule
import BundleAtlas.Tree.Kind

/-!
Phrases: the grammar as data. A phrase says which tokens may stand in a row and how the nodes read
so far are put together. Choice is ordered: the first alternative that can be read is taken, and
`many` takes as much as it can.
-/

namespace BundleAtlas

/-- What the surroundings of a construct allow. -/
structure Setting where
  /-- operators that bind less tightly than this end the expression -/
  floor : Nat := 0
  /-- inside brackets a line break ends nothing -/
  bracketed : Bool := false
  /-- `in` belongs to the surrounding loop -/
  withoutIn : Bool := false
  /-- the colon behind parameters belongs to the surrounding conditional expression -/
  withoutResult : Bool := false
deriving Repr, DecidableEq, Hashable, Inhabited

/-- Conditions on the setting. -/
inductive Guard where
  /-- an operator of this level binds here -/
  | binds (level : Nat)
  /-- `in` is an operator here -/
  | relation
  /-- parameters may be followed by a result type here -/
  | result
deriving Repr, DecidableEq, Inhabited

/-- Changes of the setting for a part of a construct. -/
inductive Change where
  /-- a new statement -/
  | fresh
  /-- the inside of brackets -/
  | bracket
  /-- an operand of an operator: only operators from this level on bind in it -/
  | floor (level : Nat)
  /-- the first branch of a conditional expression -/
  | branch
  /-- an initial value in the head of a loop -/
  | withoutIn
  /-- a branch in which parameters have no result type -/
  | withoutResult
deriving Repr, DecidableEq, Inhabited

namespace Setting

/-- Whether a condition holds. -/
def allows (s : Setting) : Guard → Bool
  | .binds level => s.floor ≤ level
  | .relation => !s.withoutIn
  | .result => !s.withoutResult

/-- The setting after a change. -/
def change (s : Setting) : Change → Setting
  | .fresh => {}
  | .bracket => { bracketed := true }
  | .floor level => { s with floor := level }
  | .branch => { s with floor := 0, bracketed := true, withoutIn := false }
  | .withoutIn => { s with floor := 0, withoutIn := true }
  | .withoutResult => { s with withoutResult := true }

end Setting

/-- What comes before the end of a statement: an operator could follow, or none could, or it
depends on whether the last binding has a value. -/
inductive Closing where
  | expression
  | plain
  | binding
  | signature
deriving Repr, DecidableEq, Inhabited

/-- A piece of grammar. -/
inductive Phrase where
  /-- nothing -/
  | done
  /-- a token behind blanks and comments -/
  | lex (l : Lexeme) (k : Kind)
  /-- a token right behind the last one -/
  | raw (l : Lexeme) (k : Kind)
  | seq (p q : Phrase)
  | either (p q : Phrase)
  | many (p : Phrase)
  /-- reads without taking anything -/
  | ahead (p : Phrase)
  /-- nothing, where the phrase cannot be read -/
  | unless (p : Phrase)
  /-- gives the nodes a part to play -/
  | field (f : Field) (p : Phrase)
  /-- puts the nodes below a new one -/
  | node (k : Kind) (p : Phrase)
  | call (r : Rule)
  /-- a first operand and any number of suffixes, each around all that came before -/
  | grow (base suffix : Phrase)
  /-- reads on and puts a new node around all nodes of the operand, which plays the given part -/
  | enclose (k : Kind) (f : Option Field) (p : Phrase)
  /-- nothing, where the last node is of one of these kinds -/
  | shape (ks : List Kind)
  /-- nothing, where the setting allows it -/
  | guard (g : Guard)
  /-- reads in a changed setting -/
  | within (c : Change) (p : Phrase)
  /-- the end of a statement where none is written -/
  | implied (c : Closing)
  /-- nothing, where no statement could end -/
  | unbroken
  /-- the end of the input -/
  | finish
deriving Repr, Inhabited

namespace Phrase

/-- A token of fixed text: a whole word, or punctuation. -/
def token (s : String) : Phrase :=
  match s.toList with
  | c :: cs => .lex (if Letter.isWordStart c then .word (c :: cs) else .mark (c :: cs) []) (.token s)
  | [] => .done

/-- Punctuation that none of the given characters may follow. -/
def mark (s barred : String) : Phrase := .lex (.mark s.toList barred.toList) (.token s)

/-- Phrases in a row. -/
def all : List Phrase → Phrase
  | [] => .done
  | [p] => p
  | p :: ps => .seq p (all ps)

/-- The first of the phrases that can be read. -/
def any : List Phrase → Phrase
  | [] => .unless .done
  | [p] => p
  | p :: ps => .either p (any ps)

/-- A phrase or nothing. -/
def opt (p : Phrase) : Phrase := .either p .done

/-- A node of a kind that no analysis asks for. -/
def named (name : String) (p : Phrase) : Phrase := .node (.other name) p

/-- A suffix that makes a node of a kind that no analysis asks for. -/
def wrap (name : String) (p : Phrase) : Phrase := .enclose (.other name) none p

/-- One phrase or more with commas between them. -/
def commas (p : Phrase) : Phrase := .seq p (.many (.seq (token ",") p))

/-- Phrases with commas between them, some of them left out. -/
def holes (p : Phrase) : Phrase := .seq (opt p) (.many (.seq (token ",") (opt p)))

/-- Phrases with commas between them and perhaps one behind the last. -/
def list (p : Phrase) : Phrase := opt (.seq (commas p) (opt (token ",")))

/-- The end of a statement, written or not. -/
def stop (c : Closing) : Phrase := .either (.implied c) (token ";")

/-- The inside of brackets. -/
def inside (p : Phrase) : Phrase := .within .bracket p

instance : Coe String Phrase := ⟨token⟩

instance : Coe Rule Phrase := ⟨.call⟩

end Phrase

end BundleAtlas
