import BundleAtlas.Datum
import BundleAtlas.Text.Quoted

/-!
Entries of the journal: what the library reports about its work, from which part, and how
important it is.
-/

namespace BundleAtlas

/-- How important an entry is: more important levels have higher ranks. -/
structure Level where
  rank : Int
deriving Repr, DecidableEq, Inhabited

namespace Level

def debug : Level := ⟨10⟩
def info : Level := ⟨20⟩
def warning : Level := ⟨30⟩
def error : Level := ⟨40⟩
def critical : Level := ⟨50⟩

/-- The levels that have names. -/
def named : List (Level × String) :=
  [(⟨0⟩, "NOTSET"), (debug, "DEBUG"), (info, "INFO"), (warning, "WARNING"), (error, "ERROR"),
    (critical, "CRITICAL")]

/-- The name of a level; one without a name is called by its rank. -/
def name (l : Level) : String :=
  (named.lookup l).getD ("Level " ++ toString l.rank)

/-- The level of a name. -/
def ofName? (n : String) : Option Level := (named.find? (·.2 == n)).map (·.1)

end Level

/-- The name above all parts of the library. -/
def journalRoot : String := "lite_bundle"

/-- The parts of the library that write into the journal. -/
inductive Part where
  | unpacking
  | store
  | files
  | inventory
  | callGraph
deriving Repr, DecidableEq, Inhabited

/-- The name that a part goes by in the journal. -/
def Part.name : Part → String
  | unpacking => journalRoot ++ ".bundle.unpack"
  | store => journalRoot ++ ".bundle.cache"
  | files => journalRoot ++ ".util.file_utils"
  | inventory => journalRoot ++ ".core.symbol_index"
  | callGraph => journalRoot ++ ".core.calls"

/-- An entry: its level, the part of the library that it comes from, and its message. -/
structure Entry where
  level : Level
  source : String
  message : String
deriving Repr, DecidableEq, Inhabited

namespace Entry

/-- Whether a name is that of the library or below it. -/
def isPart (name : String) : Bool :=
  name == journalRoot || (journalRoot ++ ".").isPrefixOf name

/-- An entry as a line, behind the time at which it was made. -/
def line (time : String) (e : Entry) : String :=
  time ++ " " ++ e.level.name ++ " " ++ e.source ++ " " ++ e.message ++ "\n"

end Entry

end BundleAtlas
