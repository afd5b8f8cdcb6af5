import BundleAtlas.Packed.Percent
import BundleAtlas.Packed.Reversed
import BundleAtlas.Packed.StringTable
import BundleAtlas.Packed.WordTable

/-!
Unpacking: every kind of packing that the text shows is undone, one after the other.
-/

namespace BundleAtlas.Packed

/-- Why a text cannot be unpacked: it is malformed in a way that is known, or a step failed. -/
inductive UnpackError where
  | malformed (message : String)
  | fault (f : Fault)
deriving Repr, Inhabited

/-- Lifts a step that may fail. -/
def lift {α : Type} : Except Fault α → Except UnpackError α
  | .ok a => .ok a
  | .error f => .error (.fault f)

/-- Undoes the reversal of a text that holds the decoder for it. -/
def Reversed.unpack (cs : List Char) : Except UnpackError (List Char) := do
  if !detects cs then return cs
  match payload? cs.toArray with
  | none => .error (.malformed "Malformed MyObfuscate data.")
  | some payload =>
    let code := (← lift (reveal payload)).toArray
    let polished := match written.find? code with
      | some found => found.group code 1
      | none => cs
    return warning.toList ++ polished

/-- Undoes the packing of words. -/
def WordTable.unpack (frame : Frame) (cs : List Char) : Except UnpackError (List Char) := do
  match packing? cs.toArray with
  | none =>
    .error (.malformed
      "Could not make sense of p.a.c.k.e.r data (unexpected code structure)")
  | some (.error _) => .error (.malformed "Corrupted p.a.c.k.e.r. data.")
  | some (.ok p) =>
    if p.count != p.words.length then .error (.malformed "Malformed p.a.c.k.e.r. symtab.")
    else match reader? p.base with
      | none => .error (.malformed "Unknown p.a.c.k.e.r. encoding.")
      | some read =>
        let payload := Text.replace ['\\', '\''] ['\''] (Text.replace ['\\', '\\'] ['\\'] p.payload)
        return replaceStrings frame
          (← lift (replaceWords (look read p.words.toArray) [] payload))

/-- Unpacks a text. Which packings are tried is told by the text as it is given. -/
def unpack (text : String) : Except UnpackError String := do
  let cs := text.toList
  let a := if Percent.detects cs then Percent.unpack cs else cs
  let b ← if StringTable.detects cs then lift (StringTable.unpack a) else pure a
  let c ← if Reversed.detects cs then Reversed.unpack b else pure b
  let d ← match WordTable.frame? cs with
    | some frame => WordTable.unpack frame c
    | none => pure c
  return String.ofList d

end BundleAtlas.Packed
