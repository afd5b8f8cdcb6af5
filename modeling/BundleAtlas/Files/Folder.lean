import BundleAtlas.Files.Path
import BundleAtlas.Text.LineBreak
import BundleAtlas.Text.Quoted
import BundleAtlas.Text.Utf8

/-!
A folder tree with files in it. The tools only read files; the journal writes at the end of its
own. A system need not let a folder be entered or a file be opened, and it knows no names and no
paths beyond a certain length.
-/

namespace BundleAtlas

/-- What stands under a name. -/
inductive Inode where
  | file (bytes : List UInt8)
  | folder
deriving Repr, DecidableEq, Inhabited

/-- The bytes of a file; a folder has none. -/
def Inode.bytes? : Inode → Option (List UInt8)
  | file bytes => some bytes
  | folder => none

/-- An error of the system: its number, and what it says. -/
structure SystemError where
  number : Nat
  reason : String
deriving Repr, DecidableEq, Inhabited

namespace SystemError

/-- A name or a path is longer than any can be. -/
def nameTooLong : SystemError := ⟨36, "File name too long"⟩

/-- Whether an error only says that nothing is there: no such name, no open file, no folder, or no
end of links. -/
def isAbsence (e : SystemError) : Bool := [2, 9, 20, 40].contains e.number

/-- The message of an error about a path. -/
def message (e : SystemError) (path : String) : String :=
  "[Errno " ++ toString e.number ++ "] " ++ e.reason ++ ": " ++ Text.quoted path

end SystemError

/-- What is in the way when a file is to be opened: a file where a folder should be, a folder where
the file should be, or the system. -/
inductive Obstacle where
  | file (place : List String)
  | folder (place : List String)
  | system (place : List String) (e : SystemError)
deriving Repr, DecidableEq, Inhabited

/-- A folder tree: what is there, by the names from the root on, and the working folder. A folder
is there if it, or something in it, is listed. The refusals are what the system says instead of
letting a folder be entered, or a file be opened. -/
structure FolderTree where
  entries : List (List String × Inode) := []
  working : List String := []
  refusals : List (List String × SystemError) := []
deriving Repr, Inhabited

namespace FolderTree

/-- The most bytes of a name. -/
def longestName : Nat := 255

/-- The most bytes of a path. -/
def longestPath : Nat := 4095

/-- What stands at a place. -/
def look? (t : FolderTree) (place : List String) : Option Inode :=
  match t.entries.lookup place with
  | some i => some i
  | none =>
    if place.isPrefixOf t.working || t.entries.any fun (p, _) => place.isPrefixOf p then
      some .folder
    else none

/-- What keeps a name from being looked up in a folder. -/
def barrier? (t : FolderTree) (place : List String) (name : String) : Option SystemError :=
  (t.refusals.lookup place).or
    (if longestName < name.utf8ByteSize then some .nameTooLong else none)

/-- Follows names from a place on; every name but the last has to be that of a folder. Nothing, if
one is not. -/
def follow (t : FolderTree) (place : List String) :
    List String → Except SystemError (Option (List String))
  | [] => .ok (some place)
  | n :: ns =>
    if t.look? place != some .folder then .ok none
    else match t.barrier? place n with
      | some e => .error e
      | none => t.follow (Path.enter place n) ns

/-- The place that a path leads to, if there is one. No path holds a null character. -/
def locate (t : FolderTree) (p : Path) : Except SystemError (Option (List String)) :=
  if p.text.toList.contains '\x00' then .ok none
  else if longestPath < p.text.utf8ByteSize then .error .nameTooLong
  else match t.follow (p.origin t.working) p.names with
    | .error e => if e.isAbsence then .ok none else .error e
    | .ok place => .ok place

/-- The bytes of the file at a path, if there is one. -/
def bytesAt (t : FolderTree) (p : Path) : Except SystemError (Option (List UInt8)) := do
  match (← t.locate p).map fun place => (place, t.look? place) with
  | some (place, some (.file bytes)) => match t.refusals.lookup place with
    | some e => .error e
    | none => return some bytes
  | _ => return none

/-- The bytes that the file at a place holds, if there is one. -/
def held? (t : FolderTree) (place : List String) : Option (List UInt8) :=
  (t.look? place).bind Inode.bytes?

/-- Puts something at a place, instead of what is there. -/
def put (t : FolderTree) (place : List String) (i : Inode) : FolderTree :=
  { t with entries := (place, i) :: t.entries.filter (·.1 != place) }

/-- Follows names from a place on and makes the folders that are missing. A file on the way ends
it, and so does the system; the folders made up to there stay. -/
def makeFolders (t : FolderTree) (place : List String) :
    List String → Except Obstacle Unit × FolderTree
  | [] => (.ok (), t)
  | n :: ns =>
    let next := Path.enter place n
    match t.barrier? place n with
    | some e => (.error (.system next e), t)
    | none => match t.look? next with
      | some (.file _) => (.error (.file next), t)
      | some .folder => t.makeFolders next ns
      | none => (t.put next .folder).makeFolders next ns

/-- Opens the file at a place. What it holds stays; a file that is missing is made. -/
def openAt (t : FolderTree) (place : List String) : Except Obstacle Unit × FolderTree :=
  match t.look? place with
  | some .folder => (.error (.folder place), t)
  | some (.file _) => match t.refusals.lookup place with
    | some e => (.error (.system place e), t)
    | none => (.ok (), t)
  | none => (.ok (), t.put place (.file []))

/-- Opens the file at a path, in a folder that is made if it is missing. -/
def openFile (t : FolderTree) (p : Path) : Except Obstacle Unit × FolderTree :=
  let place := p.place t.working
  match t.makeFolders (p.origin t.working) p.parent.names with
  | (.error o, made) => (.error o, made)
  | (.ok (), made) => match made.barrier? (p.parent.place t.working) (p.names.getLastD "") with
    | some e => (.error (.system place e), made)
    | none => made.openAt place

/-- Writes at the end of the file at a place. -/
def append (t : FolderTree) (place : List String) (bytes : List UInt8) : FolderTree :=
  match t.held? place with
  | some held => t.put place (.file (held ++ bytes))
  | none => t

end FolderTree

/-- The text of a file: line breaks of any kind are line feeds. -/
def fileText (bytes : List UInt8) : Except Text.Utf8.Malformed String :=
  (Text.Utf8.decode bytes).map fun cs => String.ofList (Text.unifyBreaks cs)

end BundleAtlas
