/-!
Places in a text. A mark counts what stands before it: code points, line breaks, and the UTF-8
bytes since the last line break. Only a line feed ends a line.
-/

namespace BundleAtlas

/-- A position: code points before it, line feeds before it, bytes since the last line feed. -/
structure Mark where
  offset : Nat := 0
  row : Nat := 0
  column : Nat := 0
deriving Repr, DecidableEq, Inhabited

/-- The mark behind one more code point. -/
def Mark.push (m : Mark) (c : Char) : Mark :=
  if c = '\n' then ⟨m.offset + 1, m.row + 1, 0⟩
  else ⟨m.offset + 1, m.row, m.column + c.utf8Size⟩

/-- The mark behind a run of code points. -/
def Mark.pushAll (m : Mark) (cs : List Char) : Mark :=
  cs.foldl Mark.push m

/-- A mark together with the text that follows it. -/
structure Place where
  mark : Mark
  rest : List Char
deriving Inhabited

/-- The first place of a text. -/
def Place.first (cs : List Char) : Place := ⟨{}, cs⟩

/-- The place `n` code points further on, or the end of the text. -/
def Place.skip : Nat → Place → Place
  | 0, p => p
  | _ + 1, ⟨m, []⟩ => ⟨m, []⟩
  | n + 1, ⟨m, c :: cs⟩ => Place.skip n ⟨m.push c, cs⟩

theorem Place.rest_skip (n : Nat) (p : Place) : (p.skip n).rest = p.rest.drop n := by
  induction n generalizing p with
  | zero => simp [Place.skip]
  | succ n ih =>
    obtain ⟨m, cs⟩ := p
    cases cs with
    | nil => simp [Place.skip]
    | cons c cs => simp [Place.skip, ih]

end BundleAtlas
