import BundleAtlas.Proofs.Text.LineBreak
import BundleAtlas.Proofs.Text.Utf8Validity
import BundleAtlas.Proofs.Tool.Outcome

/-!
Texts from files. A file whose bytes are valid is read as the text that they
encode, with line feeds for its line breaks; all other files are refused. From
there on it makes no difference whether a text was given or stood in a file:
the limit counts the code points of the text as it was read.
-/

namespace BundleAtlas

variable {s : Settings} {w : Workspace} {path : String} {bytes : List UInt8} {t : String}

/-- The file that a path leads to under some settings holds these bytes. -/
def Workspace.HoldsFile (w : Workspace) (s : Settings) (path : String) (bytes : List UInt8) :
    Prop :=
  ∃ place, (Action.place s path).outcome w = (.ok place, w) ∧ w.files.bytesAt place = .ok (some bytes)

/-- A text with line feeds for all its line breaks. -/
def translated (t : String) : String := String.ofList (Text.withLineFeeds t.toList)

/-- A text, or that it has more code points than settings allow. -/
def Settings.limited (s : Settings) (text : String) : Except Fault String :=
  if s.maxCodeSize < text.length then
    .error (.failure (.inputTooLarge text.length s.maxCodeSize))
  else .ok text

theorem translated_eq_self (ht : '\r' ∉ t.toList) : translated t = t := by
  rw [translated, Text.withLineFeeds_eq_self ht, String.ofList_toList]

/-- A mark of the byte order stays in front. -/
theorem translated_byteOrderMark (rest : String) :
    translated ("\ufeff" ++ rest) = "\ufeff" ++ translated rest := by
  have hmark : ("\ufeff" ++ rest).toList = '\ufeff' :: rest.toList := String.toList_append
  rw [translated, hmark, Text.withLineFeeds_other (by decide)]
  change String.ofList (['\ufeff'] ++ Text.withLineFeeds rest.toList) = _
  rw [String.ofList_append]
  rfl

theorem fileText_of_encoding (hbytes : bytes = t.toUTF8.toList) :
    fileText bytes = .ok (translated t) := by
  have hdecoded : Text.Utf8.decode bytes = .ok t.toList := by
    rw [Text.Utf8.decode_eq_ok_iff, hbytes, Text.Utf8.encode, String.ofList_toList]
  rw [fileText, hdecoded, translated, ← Text.unifyBreaks_eq_withLineFeeds]
  rfl

/-- A file is refused exactly if its bytes are not valid. -/
theorem exists_fileText_error_iff :
    (∃ m, fileText bytes = .error m) ↔ ¬ bytes.toByteArray.IsValidUTF8 := by
  rw [Text.Utf8.isValidUTF8_iff, fileText]
  simp only [← Text.Utf8.decode_eq_ok_iff]
  cases Text.Utf8.decode bytes with
  | ok cs => simp [Except.map]
  | error m => simp [Except.map]

namespace Action

theorem outcome_readFile (hfile : w.HoldsFile s path bytes) :
    ∃ place, (readFile s path).outcome w = match fileText bytes with
      | .ok text => (.ok text, w)
      | .error m => (.error (.failure (.sourceUnreadable place m.message)), w) := by
  obtain ⟨place, hplace, hbytes⟩ := hfile
  refine ⟨place.text, ?_⟩
  rw [readFile, outcome_bind, hplace]
  dsimp only
  rw [outcome_get_bind, hbytes]
  dsimp only
  cases fileText bytes with
  | ok text => rfl
  | error m => rfl

/-- What is done with the text of an input: it is admitted or refused. -/
theorem outcome_limited (s : Settings) (w : Workspace) (text : String) :
    Action.outcome (do
      if s.maxCodeSize < text.length then fail (Failure.inputTooLarge text.length s.maxCodeSize)
      return text) w = (s.limited text, w) := by
  unfold Settings.limited
  split
  · rfl
  · rfl

theorem outcome_resolve_code (s : Settings) (w : Workspace) (code : String)
    (filePath : Option String) :
    (resolve s ⟨some code, filePath⟩).outcome w = (s.limited code, w) := by
  rw [resolve, outcome_bind]
  exact outcome_limited s w code

/-- A path that is given leads to the text of its file, under the same limit. -/
theorem outcome_resolve_file (hpath : path ≠ "") {text : String}
    (hread : (readFile s path).outcome w = (.ok text, w)) :
    (resolve s ⟨none, some path⟩).outcome w = (s.limited text, w) := by
  unfold resolve
  split
  · rename_i hcode
    cases hcode
  · rename_i hempty
    cases hempty
    exact absurd rfl hpath
  · rename_i given _ hgiven
    cases hgiven
    rw [outcome_bind, hread]
    exact outcome_limited s w text
  · rename_i hnone
    cases hnone

end Action

/-- A file is unreadable exactly if its bytes are not valid. If they encode a
text, that text is read with line feeds for all line breaks and nothing else
changed, a mark of the byte order included. As the input of a tool, under a path
that is not empty, it is admitted or refused by the code points of the text as
it was read. So a text without carriage returns has the same outcome as when it
is given. -/
theorem file_input_as_inline (s : Settings) (w : Workspace) (path : String) (bytes : List UInt8)
    (hfile : w.HoldsFile s path bytes) :
    ((∃ place reason, ((Action.readFile s path).outcome w).1 =
        .error (.failure (.sourceUnreadable place reason))) ↔
      ¬ bytes.toByteArray.IsValidUTF8) ∧
    ∀ t : String, bytes = t.toUTF8.toList →
      (Action.readFile s path).outcome w = (.ok (translated t), w) ∧
      (∀ rest, t = "\ufeff" ++ rest → translated t = "\ufeff" ++ translated rest) ∧
      (path ≠ "" →
        (Action.resolve s ⟨none, some path⟩).outcome w = (s.limited (translated t), w) ∧
        ('\r' ∉ t.toList → (Action.resolve s ⟨none, some path⟩).outcome w =
          (Action.resolve s ⟨some t, none⟩).outcome w)) := by
  obtain ⟨place, houtcome⟩ := Action.outcome_readFile hfile
  constructor
  · rw [← exists_fileText_error_iff, houtcome]
    cases fileText bytes with
    | ok text => simp
    | error m => exact ⟨fun _ => ⟨m, rfl⟩, fun _ => ⟨place, m.message, rfl⟩⟩
  · intro t hbytes
    rw [fileText_of_encoding hbytes] at houtcome
    refine ⟨houtcome, ?_, fun hpath => ?_⟩
    · rintro rest rfl
      exact translated_byteOrderMark rest
    · have hresolved := Action.outcome_resolve_file hpath houtcome
      refine ⟨hresolved, fun ht => ?_⟩
      rw [hresolved, translated_eq_self ht, Action.outcome_resolve_code]

namespace OneFile

/-- A folder with one file, of one letter in two bytes. -/
def workspace : Workspace :=
  { files := { entries := [(["work", "a.js"], .file [195, 169])], working := ["work"] } }

/-- Settings under which relative paths start at that file. -/
def settings : Settings := { workspaceRoot := some "a.js" }

end OneFile

theorem file_input_as_inline_oneFile :
    OneFile.workspace.HoldsFile {} "a.js" [195, 169] ∧
    (Action.resolve {} ⟨none, some "a.js"⟩).outcome OneFile.workspace =
      (Action.resolve {} ⟨some "é", none⟩).outcome OneFile.workspace := by
  have hfile : OneFile.workspace.HoldsFile {} "a.js" [195, 169] :=
    ⟨⟨"/", ["work", "a.js"]⟩, rfl, rfl⟩
  have hbytes : [195, 169] = "é".toUTF8.toList := by decide +kernel
  have hinline := (file_input_as_inline {} OneFile.workspace "a.js" [195, 169] hfile).2 "é" hbytes
  exact ⟨hfile, (hinline.2.2 (by decide)).2 (by decide)⟩

/-- An empty path counts as none even where it leads to a file. -/
theorem empty_path_gives_no_input :
    OneFile.workspace.HoldsFile OneFile.settings "" [195, 169] ∧
    ((Action.readFile OneFile.settings "").outcome OneFile.workspace).1 = .ok "é" ∧
    ((Action.resolve OneFile.settings ⟨some "é", none⟩).outcome OneFile.workspace).1 = .ok "é" ∧
    ((Action.resolve OneFile.settings ⟨none, some ""⟩).outcome OneFile.workspace).1 =
      .error (.failure .nothingGiven) := by
  exact ⟨⟨⟨"", ["a.js"]⟩, rfl, rfl⟩, rfl, rfl, rfl⟩

end BundleAtlas
