import BundleAtlas.Grammar.Phrase
import BundleAtlas.Grammar.Semicolon
import BundleAtlas.Tree.Node
import Std.Data.HashMap

/-!
Reading a text by a grammar. `Reader.read` follows a phrase from a place between two tokens and
answers with the place behind what it has read and the nodes made on the way, or with nothing.
What a rule gave at a place is remembered, so that trying alternatives stays cheap. A read that
fails leaves the farthest place at which a token was missed.
-/

namespace BundleAtlas

open Letter

/-- The place behind a run of blanks. -/
def Place.skipBlanks (p : Place) : Place := p.skip (Scan.run isBlank p.rest)

/-- A comment: where it starts, and the place behind it. -/
structure Remark where
  start : Mark
  behind : Place
deriving Inhabited

/-- The node of a comment. -/
def Remark.node (r : Remark) : Node := ⟨.comment, none, r.start, r.behind.mark, []⟩

/-- A place between two tokens: where the last one stops, where the next one starts, and the
comments between them. -/
structure Cursor where
  last : Place
  next : Place
  remarks : List Remark
deriving Inhabited

namespace Cursor

/-- Steps over blanks and comments. Every comment takes characters, so their number bounds the
number of steps. -/
def settle (last : Place) : Nat → Place → List Remark → Cursor
  | 0, p, found => ⟨last, p, found.reverse⟩
  | steps + 1, p, found =>
    let p := p.skipBlanks
    match Scan.comment p.rest with
    | none => ⟨last, p, found.reverse⟩
    | some n =>
      let q := p.skip n
      settle last steps q (⟨p.mark, q⟩ :: found)

/-- The cursor behind a token that stops here. -/
def behind (p : Place) : Cursor := settle p (p.rest.length + 1) p []

/-- The cursor right behind the last token, with its nodes: the comments and the token. -/
def take (c : Cursor) (k : Kind) (n : Nat) (nodes : List Node) : Cursor × List Node :=
  let stop := c.next.skip n
  (behind stop,
    ⟨k, none, c.next.mark, stop.mark, []⟩ :: (c.remarks.map (·.node)).reverse ++ nodes)

/-- The same for a token that starts right where the last one stops. -/
def takeRaw (c : Cursor) (k : Kind) (n : Nat) (nodes : List Node) : Cursor × List Node :=
  let stop := c.last.skip n
  (behind stop, ⟨k, none, c.last.mark, stop.mark, []⟩ :: nodes)

/-- The first place, of the given one and those behind the comments, where a statement may end
without a semicolon. The statement takes in the comments before that place. -/
def closeFrom (e : Semicolon.Ending) (next : Place) :
    Place → List Remark → List Node → Option (Cursor × List Node)
  | here, [], nodes =>
    if Semicolon.implied e here.rest then some (⟨here, next, []⟩, nodes) else none
  | here, r :: rs, nodes =>
    if Semicolon.implied e here.rest then some (⟨here, next, r :: rs⟩, nodes)
    else closeFrom e next r.behind rs (r.node :: nodes)

/-- The end of a statement that is not written: right here, or behind comments. -/
def close (e : Semicolon.Ending) (c : Cursor) (nodes : List Node) : Option (Cursor × List Node) :=
  closeFrom e c.next c.last c.remarks nodes

/-- Where a missing token is reported: where the next one starts, or behind the last one or the
last comment when the input ends. -/
def missing (c : Cursor) : Mark :=
  if c.next.rest.isEmpty then
    match c.remarks.getLast? with
    | some r => r.behind.mark
    | none => c.last.mark
  else c.next.mark

end Cursor

namespace Node

/-- Splits nodes, the last one first, into those from the first construct or token on and the
comments before it. -/
def splitRemarks (nodes : List Node) : List Node × List Node :=
  let inOrder := nodes.reverse
  (inOrder.dropWhile isComment, (inOrder.takeWhile isComment).reverse)

/-- A node around some nodes, the last one first. Comments before the first of them stay outside.
The node reaches from the first of its children to the given mark. -/
def around (k : Kind) (f : Option Field) (stop : Mark) (nodes : List Node) : List Node :=
  match splitRemarks nodes with
  | ([], comments) => comments
  | (c :: cs, comments) =>
    let first := match f with
      | some _ => { c with field := f }
      | none => c
    ⟨k, none, c.start, stop, first :: cs⟩ :: comments

/-- Gives every node but the comments a part to play. -/
def mark (f : Field) (nodes : List Node) : List Node :=
  nodes.map fun n => if n.isComment then n else { n with field := some f }

/-- Whether a binding has a value. -/
def hasValue (n : Node) : Bool := (n.child? .value).isSome

end Node

/-- What is asked about a rule at a place. -/
structure Query where
  rule : Rule
  setting : Setting
  offset : Nat
deriving DecidableEq, Hashable

/-- What a read gives: the cursor behind it and the nodes, the last one first. -/
abbrev Reading := Option (Cursor × List Node)

/-- What a reader remembers. -/
structure Scratch where
  known : Std.HashMap Query Reading := {}
  farthest : Option Mark := none

namespace Scratch

/-- Notes that a token was missed. -/
def miss (s : Scratch) (m : Mark) : Scratch :=
  match s.farthest with
  | some f => if f.offset < m.offset then { s with farthest := some m } else s
  | none => { s with farthest := some m }

end Scratch

/-- A grammar: the dialect's rule for semicolons and a phrase for every rule. -/
structure Grammar where
  typed : Bool
  body : Rule → Phrase

namespace Reader

/-- What the end of a statement depends on. -/
def ending (g : Grammar) (nodes : List Node) : Closing → Semicolon.Ending
  | .expression => { typed := g.typed }
  | .plain => { typed := g.typed, afterExpression := false }
  | .binding =>
    { typed := g.typed, afterExpression := nodes.head?.any Node.hasValue }
  | .signature => { typed := g.typed, afterExpression := false, signature := true }

/-- Whether no statement could end here. -/
def unbroken (g : Grammar) (s : Setting) (c : Cursor) : Bool :=
  s.bracketed || (c.close { typed := g.typed } []).isNone

/-- Follows a phrase. The number bounds the depth of the recursion. -/
def read (g : Grammar) :
    Nat → Phrase → Setting → Cursor → List Node → Scratch → Reading × Scratch
  | 0, _, _, _, _, m => (none, m)
  | fuel + 1, p, s, c, nodes, m =>
    match p with
    | .done => (some (c, nodes), m)
    | .lex l k =>
      match l.scan c.next.rest with
      | some n => (some (c.take k n nodes), m)
      | none => (none, m.miss c.missing)
    | .raw l k =>
      match l.scan c.last.rest with
      | some n => (some (c.takeRaw k n nodes), m)
      | none => (none, m.miss c.missing)
    | .seq p q =>
      match read g fuel p s c nodes m with
      | (some (c, nodes), m) => read g fuel q s c nodes m
      | (none, m) => (none, m)
    | .either p q =>
      match read g fuel p s c nodes m with
      | (some r, m) => (some r, m)
      | (none, m) => read g fuel q s c nodes m
    | .many p =>
      match read g fuel p s c nodes m with
      | (some (d, more), m) =>
        if c.last.mark.offset < d.last.mark.offset then read g fuel (.many p) s d more m
        else (some (d, more), m)
      | (none, m) => (some (c, nodes), m)
    | .ahead p =>
      let far := m.farthest
      match read g fuel p s c nodes m with
      | (some _, m) => (some (c, nodes), { m with farthest := far })
      | (none, m) => (none, { m with farthest := far }.miss c.missing)
    | .unless p =>
      let far := m.farthest
      match read g fuel p s c nodes m with
      | (some _, m) => (none, { m with farthest := far }.miss c.missing)
      | (none, m) => (some (c, nodes), { m with farthest := far })
    | .field f p =>
      match read g fuel p s c [] m with
      | (some (c, more), m) => (some (c, Node.mark f more ++ nodes), m)
      | (none, m) => (none, m)
    | .node k p =>
      match read g fuel p s c [] m with
      | (some (c, more), m) => (some (c, Node.around k none c.last.mark more ++ nodes), m)
      | (none, m) => (none, m)
    | .call r =>
      let query : Query := ⟨r, s, c.last.mark.offset⟩
      match m.known[query]? with
      | some known =>
        match known with
        | some (c, more) => (some (c, more ++ nodes), m)
        | none => (none, m)
      | none =>
        match read g fuel (g.body r) s c [] m with
        | (some (c, more), m) =>
          (some (c, more ++ nodes), { m with known := m.known.insert query (some (c, more)) })
        | (none, m) => (none, { m with known := m.known.insert query none })
    | .grow base suffix =>
      match read g fuel base s c [] m with
      | (some (c, more), m) =>
        match read g fuel (.many suffix) s c more m with
        | (some (c, more), m) => (some (c, more ++ nodes), m)
        | (none, m) => (none, m)
      | (none, m) => (none, m)
    | .enclose k f p =>
      match read g fuel p s c nodes m with
      | (some (c, more), m) => (some (c, Node.around k f c.last.mark more), m)
      | (none, m) => (none, m)
    | .shape ks =>
      if nodes.head?.any fun n => ks.contains n.kind then (some (c, nodes), m)
      else (none, m)
    | .guard a => if s.allows a then (some (c, nodes), m) else (none, m)
    | .within a p => read g fuel p (s.change a) c nodes m
    | .implied a =>
      match c.close (ending g nodes a) nodes with
      | some r => (some r, m)
      | none => (none, m.miss c.missing)
    | .unbroken => if unbroken g s c then (some (c, nodes), m) else (none, m.miss c.missing)
    | .finish =>
      if c.next.rest.isEmpty then
        (some (c, (c.remarks.map (·.node)).reverse ++ nodes), m)
      else (none, m.miss c.missing)

/-- How deep a read of a text can go. -/
def depth (length : Nat) : Nat := 400 * (length + 2)

end Reader

end BundleAtlas
