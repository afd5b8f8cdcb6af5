import BundleAtlas.Files.Folder
import BundleAtlas.Journal.Entry

/-!
Where entries of the journal are written: to the error stream and, if one is named, to a file. The
recorder keeps a list of handlers and gives every entry that is important enough to all of them; a
new setup replaces the handlers of the one before.
-/

namespace BundleAtlas

/-- A setup: whether everything is to be written, and the file. An empty name names no file. -/
structure Setup where
  verbose : Bool := false
  logFile : String := ""
deriving Repr, DecidableEq, Inhabited

/-- The ways out of the journal: the error stream, or the file at a place. -/
inductive Outlet where
  | stream
  | file (place : List String)
deriving Repr, DecidableEq, Inhabited

/-- A handler: a way out, and the lowest level that it lets through. -/
structure Handler where
  outlet : Outlet
  threshold : Level
deriving Repr, DecidableEq, Inhabited

/-- A recorder: the lowest level that it takes, its handlers, what went to the error stream, and
the files. -/
structure Recorder where
  threshold : Level := .warning
  handlers : List Handler := []
  stream : String := ""
  files : FolderTree := {}
deriving Repr, Inhabited

namespace Recorder

/-- Adds a handler behind the others. -/
def attach (h : Handler) (r : Recorder) : Recorder := { r with handlers := r.handlers ++ [h] }

/-- Puts a setup in force, in place of the one before. If its file cannot be opened, the error
stream alone is attached. -/
def configure (s : Setup) (r : Recorder) : Except Obstacle Unit × Recorder :=
  let threshold := if s.verbose then .debug else .info
  let streamed := { r with threshold, handlers := [] }.attach ⟨.stream, threshold⟩
  if s.logFile == "" then (.ok (), streamed)
  else
    let path := Path.ofText s.logFile
    match streamed.files.openFile path with
    | (.ok (), files) =>
      (.ok (), { streamed with files }.attach ⟨.file (path.place files.working), .debug⟩)
    | (.error o, files) => (.error o, { streamed with files })

/-- Writes a line to a way out. -/
def write (o : Outlet) (line : String) (r : Recorder) : Recorder :=
  match o with
  | .stream => { r with stream := r.stream ++ line }
  | .file place => { r with files := r.files.append place (Text.Utf8.encode line.toList) }

/-- Gives an entry to a handler, which writes it if it is important enough. -/
def handle (time : String) (e : Entry) (r : Recorder) (h : Handler) : Recorder :=
  if h.threshold.rank ≤ e.level.rank then r.write h.outlet (e.line time) else r

/-- Records an entry: if it comes from the library and is important enough, it is given to every
handler. -/
def record (time : String) (e : Entry) (r : Recorder) : Recorder :=
  if Entry.isPart e.source && r.threshold.rank ≤ e.level.rank then
    r.handlers.foldl (handle time e) r
  else r

end Recorder

end BundleAtlas
