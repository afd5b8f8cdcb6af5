import BundleAtlas.Proofs.Schema.IntegerText
import BundleAtlas.Settings

/-!
Settings that are accepted, given as values or read from an environment, keep
to their bounds. Checking their own values accepts the same settings again, and
so does reading an environment that holds them as texts.
-/

namespace BundleAtlas

namespace Schema

variable {α β γ : Type}

theorem both_eq_ok_iff {f : α → β → γ} {a : Checked α} {b : Checked β} {c : γ} :
    both f a b = .ok c ↔ ∃ x y, a = .ok x ∧ b = .ok y ∧ f x y = c := by
  cases a with
  | ok x => cases b <;> simp [both]
  | error e => cases b <;> simp [both]

section Field

variable {record : Datum} {name : String} {read : Datum → Read α} {missing : Read α} {a : α}

theorem field_of_some {d : Datum} (hget : record.get? name = some d) :
    field record name read missing = .ok a ↔ read d = .ok a := by
  simp only [field, hget]
  cases read d <;> simp

theorem field_of_none (hget : record.get? name = none) :
    field record name read missing = .ok a ↔ missing = .ok a := by
  simp only [field, hget]
  cases missing <;> simp

end Field

theorem above_eq_ok_iff {bound n m : Int} : above bound n = .ok m ↔ n = m ∧ bound < m := by
  unfold above
  split <;> grind

theorem atLeast_eq_ok_iff {bound n m : Int} : atLeast bound n = .ok m ↔ n = m ∧ bound ≤ m := by
  unfold atLeast
  split <;> grind

/-- What holds of every integer that passes a check, and of the default, holds
of what a field gives. -/
theorem of_integer_field {record : Datum} {name : String} {check : Int → Read Int}
    {missing n : Int} {P : Int → Prop}
    (hfield : field record name (fun d => integer d >>= check) (.ok missing) = .ok n)
    (hcheck : ∀ k m, check k = .ok m → P m) (hmissing : P missing) : P n := by
  cases hget : record.get? name with
  | none =>
      cases (field_of_none hget).mp hfield
      exact hmissing
  | some d =>
      have hread := (field_of_some hget).mp hfield
      cases hinteger : integer d with
      | error e =>
          rw [hinteger] at hread
          cases hread
      | ok k =>
          rw [hinteger] at hread
          exact hcheck k n hread

end Schema

namespace Settings

variable {s : Settings}

/-- Settings that some values, or some environment, are accepted as. -/
def Accepted (s : Settings) : Prop :=
  (∃ values, ofValues values = .ok s) ∨ ∃ env, ofEnvironment env = .ok s

/-- The bounds of settings, and the names of their dialects. -/
structure InBounds (s : Settings) : Prop where
  maxCodeSize : 0 < s.maxCodeSize
  defaultLimit : 0 < s.defaultLimit
  indentSize : 0 ≤ s.indentSize
  dialect : s.dialect.name = "javascript" ∨ s.dialect.name = "typescript"

/-- Values are accepted as settings exactly if each of their fields is read as
that of the settings. -/
theorem ofValues_eq_ok_iff {values : Datum} :
    ofValues values = .ok s ↔
      Schema.field values "max_code_size" (fun d => Schema.integer d >>= Schema.above 0)
        (.ok standard.maxCodeSize) = .ok s.maxCodeSize ∧
      Schema.field values "default_limit" (fun d => Schema.integer d >>= Schema.above 0)
        (.ok standard.defaultLimit) = .ok s.defaultLimit ∧
      Schema.field values "dialect" readDialect (.ok standard.dialect) = .ok s.dialect ∧
      Schema.field values "indent_size" (fun d => Schema.integer d >>= Schema.atLeast 0)
        (.ok standard.indentSize) = .ok s.indentSize ∧
      Schema.field values "workspace_root" (Schema.optional Schema.text)
        (.ok standard.workspaceRoot) = .ok s.workspaceRoot := by
  unfold ofValues
  simp only [Schema.both_eq_ok_iff]
  constructor
  · rintro ⟨_, root, ⟨_, indent, ⟨_, dialect, ⟨size, limit, hsize, hlimit, rfl⟩, hdialect, rfl⟩,
      hindent, rfl⟩, hroot, rfl⟩
    exact ⟨hsize, hlimit, hdialect, hindent, hroot⟩
  · rintro ⟨hsize, hlimit, hdialect, hindent, hroot⟩
    exact ⟨_, _, ⟨_, _, ⟨_, _, ⟨_, _, hsize, hlimit, rfl⟩, hdialect, rfl⟩, hindent, rfl⟩, hroot,
      rfl⟩

theorem inBounds_of_ofValues {values : Datum} (haccepted : ofValues values = .ok s) :
    s.InBounds := by
  obtain ⟨hsize, hlimit, _, hindent, _⟩ := ofValues_eq_ok_iff.mp haccepted
  constructor
  · exact Schema.of_integer_field hsize (fun _ _ h => (Schema.above_eq_ok_iff.mp h).2) (by decide)
  · exact Schema.of_integer_field hlimit (fun _ _ h => (Schema.above_eq_ok_iff.mp h).2) (by decide)
  · exact Schema.of_integer_field hindent (fun _ _ h => (Schema.atLeast_eq_ok_iff.mp h).2)
      (by decide)
  · cases s.dialect with
    | javascript => exact Or.inl rfl
    | typescript => exact Or.inr rfl

theorem Accepted.inBounds (haccepted : s.Accepted) : s.InBounds := by
  rcases haccepted with ⟨values, hvalues⟩ | ⟨env, henv⟩
  · exact inBounds_of_ofValues hvalues
  · exact inBounds_of_ofValues henv

/-- A name is read as the dialect that it stands for in small letters. -/
theorem readDialect_of_key {name : String} {d : Dialect} (hname : name ≠ "")
    (hkey : Dialect.ofKey? name.toLower = some d) : readDialect (.text name) = .ok d := by
  have hread : Dialect.ofName (some name) = .ok d := by
    unfold Dialect.ofName
    split
    · rename_i hnone
      cases hnone
    · rename_i hempty
      cases hempty
      exact absurd rfl hname
    · rename_i given _ hgiven
      cases hgiven
      rw [hkey]
  simp only [readDialect, Schema.text, bind, Except.bind, hread]

theorem readDialect_name (d : Dialect) : readDialect (.text d.name) = .ok d := by
  cases d with
  | javascript => exact readDialect_of_key (by decide) (by decide +kernel)
  | typescript => exact readDialect_of_key (by decide) (by decide +kernel)

/-- The values of settings within the bounds are accepted as these settings. -/
theorem InBounds.ofValues_toDatum (hbounds : s.InBounds) : ofValues s.toDatum = .ok s := by
  rw [ofValues_eq_ok_iff]
  refine ⟨(Schema.field_of_some rfl).mpr ?_, (Schema.field_of_some rfl).mpr ?_,
    (Schema.field_of_some rfl).mpr (readDialect_name s.dialect),
    (Schema.field_of_some rfl).mpr ?_, (Schema.field_of_some rfl).mpr ?_⟩
  · exact Schema.above_eq_ok_iff.mpr ⟨rfl, hbounds.maxCodeSize⟩
  · exact Schema.above_eq_ok_iff.mpr ⟨rfl, hbounds.defaultLimit⟩
  · exact Schema.atLeast_eq_ok_iff.mpr ⟨rfl, hbounds.indentSize⟩
  · cases s.workspaceRoot <;> rfl

/-- Settings that texts can hold: no number has more digits than are read, and
the folder, if there is one, has a name. -/
structure Writable (s : Settings) : Prop where
  maxCodeSize : (toString s.maxCodeSize.natAbs).length ≤ 4300
  defaultLimit : (toString s.defaultLimit.natAbs).length ≤ 4300
  indentSize : (toString s.indentSize.natAbs).length ≤ 4300
  workspaceRoot : s.workspaceRoot ≠ some ""

end Settings

/-- An environment that holds settings: each number in decimal, and no variable
for a folder that is not there. What else it holds does not matter. -/
structure Environment.Holds (env : Environment) (s : Settings) : Prop where
  maxCodeSize : env.lookup "LITE_BUNDLE_MAX_CODE_SIZE" = some (toString s.maxCodeSize)
  defaultLimit : env.lookup "LITE_BUNDLE_DEFAULT_LIMIT" = some (toString s.defaultLimit)
  dialect : env.lookup "LITE_BUNDLE_DIALECT" = some s.dialect.name
  indentSize : env.lookup "LITE_BUNDLE_INDENT_SIZE" = some (toString s.indentSize)
  workspaceRoot : env.lookup "LITE_BUNDLE_WORKSPACE_ROOT" = s.workspaceRoot

namespace Settings

variable {s : Settings}

/-- A number that is not negative is read from its decimal text. -/
theorem integer_toString {n : Int} (hn : 0 ≤ n) (hlength : (toString n.natAbs).length ≤ 4300) :
    Schema.integer (.text (toString n)) = .ok n := by
  obtain ⟨m, rfl⟩ := Int.eq_ofNat_of_zero_le hn
  have hread : Schema.readIntegerText (toString m) = .value m :=
    Schema.readIntegerText_toString hlength
  have htext : toString (m : Int) = toString m := rfl
  rw [Schema.integer, htext, hread]

theorem toString_ne_empty (n : Int) : toString n ≠ "" := by
  have hrepr : toString n = n.repr := rfl
  rw [hrepr, Int.repr_eq_if]
  split
  · exact Nat.repr_ne_empty
  · simp

/-- What a variable gives: nothing if it is empty. -/
def given? (env : Environment) (key : String) : Option String :=
  match env.lookup key with
  | some text => if text = "" then none else some text
  | none => none

theorem given?_of_ne {env : Environment} {key text : String}
    (hlookup : env.lookup key = some text) (htext : text ≠ "") : given? env key = some text := by
  simp only [given?, hlookup, if_neg htext]

theorem valuesOf_eq (env : Environment) :
    valuesOf env = .record (keys.filterMap fun k =>
      ((given? env k.1).map Datum.text).map fun d => (k.2, d)) := by
  unfold valuesOf
  congr 2
  funext ⟨key, name⟩
  dsimp only
  split
  · rename_i hlookup
    simp [given?, hlookup]
  · rename_i text htext hlookup
    rw [given?_of_ne hlookup htext]
    rfl
  · rename_i hlookup
    simp [given?, hlookup]

/-- In a table of distinct names, a name leads to what its own key gives. The
induction is on the table. -/
theorem get?_table {table : List (String × String)} (hnodup : (table.map (·.2)).Nodup)
    {key name : String} (hmem : (key, name) ∈ table) (value : String → Option Datum) :
    (Datum.record (table.filterMap fun k => (value k.1).map fun d => (k.2, d))).get? name =
      value key := by
  induction table with
  | nil => cases hmem
  | cons k table ih =>
      rw [List.map_cons, List.nodup_cons] at hnodup
      rcases List.mem_cons.mp hmem with rfl | hmem
      · cases hvalue : value key with
        | some d => simp [Datum.get?, hvalue]
        | none =>
            -- No other key has the name.
            simp only [Datum.get?, List.filterMap_cons, hvalue, Option.map_none,
              Option.map_eq_none_iff, List.find?_eq_none, List.mem_filterMap]
            rintro _ ⟨k, hk, hvalue⟩ hname
            obtain ⟨d, _, rfl⟩ := Option.map_eq_some_iff.mp hvalue
            exact hnodup.1 (List.mem_map.mpr ⟨k, hk, eq_of_beq hname⟩)
      · have hne : k.2 ≠ name := by
          rintro rfl
          exact hnodup.1 (List.mem_map.mpr ⟨_, hmem, rfl⟩)
        rw [← ih hnodup.2 hmem, List.filterMap_cons]
        cases value k.1 with
        | none => rfl
        | some d => simp [Datum.get?, hne]

/-- The name of a value leads to what its variable gives. -/
theorem get?_valuesOf {key name : String} (hkey : (key, name) ∈ keys) (env : Environment) :
    (valuesOf env).get? name = (given? env key).map Datum.text := by
  rw [valuesOf_eq]
  exact get?_table (by decide) hkey fun key => (given? env key).map Datum.text

/-- An integer that a variable holds in decimal is read from it. -/
theorem field_of_decimal {env : Environment} {key name : String} (hkey : (key, name) ∈ keys)
    {n : Int} (hlookup : env.lookup key = some (toString n)) (hn : 0 ≤ n)
    (hlength : (toString n.natAbs).length ≤ 4300) {check : Int → Schema.Read Int}
    (hcheck : check n = .ok n) (missing : Schema.Read Int) :
    Schema.field (valuesOf env) name (fun d => Schema.integer d >>= check) missing = .ok n := by
  have hget : (valuesOf env).get? name = some (.text (toString n)) := by
    rw [get?_valuesOf hkey, given?_of_ne hlookup (toString_ne_empty n), Option.map_some]
  rw [Schema.field_of_some hget, integer_toString hn hlength]
  exact hcheck

/-- An environment that holds settings within the bounds is read as these
settings. -/
theorem InBounds.ofEnvironment (hbounds : s.InBounds) (hwritable : s.Writable)
    {env : Environment} (hholds : env.Holds s) : ofEnvironment env = .ok s := by
  rw [Settings.ofEnvironment, ofValues_eq_ok_iff]
  refine ⟨?_, ?_, ?_, ?_, ?_⟩
  · exact field_of_decimal (by decide) hholds.maxCodeSize (Int.le_of_lt hbounds.maxCodeSize)
      hwritable.maxCodeSize (Schema.above_eq_ok_iff.mpr ⟨rfl, hbounds.maxCodeSize⟩) _
  · exact field_of_decimal (by decide) hholds.defaultLimit (Int.le_of_lt hbounds.defaultLimit)
      hwritable.defaultLimit (Schema.above_eq_ok_iff.mpr ⟨rfl, hbounds.defaultLimit⟩) _
  · have hname : s.dialect.name ≠ "" := by cases s.dialect <;> decide
    have hget : (valuesOf env).get? "dialect" = some (.text s.dialect.name) := by
      rw [get?_valuesOf (show ("LITE_BUNDLE_DIALECT", "dialect") ∈ keys by decide),
        given?_of_ne hholds.dialect hname, Option.map_some]
    rw [Schema.field_of_some hget, readDialect_name]
  · exact field_of_decimal (by decide) hholds.indentSize hbounds.indentSize hwritable.indentSize
      (Schema.atLeast_eq_ok_iff.mpr ⟨rfl, hbounds.indentSize⟩) _
  · have hget : (valuesOf env).get? "workspace_root" = s.workspaceRoot.map Datum.text := by
      rw [get?_valuesOf (show ("LITE_BUNDLE_WORKSPACE_ROOT", "workspace_root") ∈ keys by decide)]
      cases hroot : s.workspaceRoot with
      | none => simp only [given?, hholds.workspaceRoot, hroot]
      | some root =>
          have hne : root ≠ "" := by
            rintro rfl
            exact hwritable.workspaceRoot hroot
          rw [given?_of_ne (hholds.workspaceRoot.trans hroot) hne]
    cases hroot : s.workspaceRoot with
    | none =>
        rw [hroot] at hget
        rw [Schema.field_of_none hget]
        rfl
    | some root =>
        rw [hroot] at hget
        rw [Schema.field_of_some hget]
        rfl

/-- The variables that hold settings. -/
def toEnvironment (s : Settings) : Environment :=
  [("LITE_BUNDLE_MAX_CODE_SIZE", toString s.maxCodeSize),
    ("LITE_BUNDLE_DEFAULT_LIMIT", toString s.defaultLimit),
    ("LITE_BUNDLE_DIALECT", s.dialect.name),
    ("LITE_BUNDLE_INDENT_SIZE", toString s.indentSize)] ++
    (s.workspaceRoot.map fun root => ("LITE_BUNDLE_WORKSPACE_ROOT", root)).toList

theorem holds_toEnvironment (s : Settings) : s.toEnvironment.Holds s := by
  refine ⟨rfl, rfl, rfl, rfl, ?_⟩
  unfold toEnvironment
  cases s.workspaceRoot <;> rfl

end Settings

/-- Accepted settings keep to the bounds and are accepted again from their own
values. If their numbers have at most 4300 digits and their folder has a name,
every environment that holds their texts is read as the same settings. -/
theorem settings_survive_environment (s : Settings) (haccepted : s.Accepted) :
    s.InBounds ∧ Settings.ofValues s.toDatum = .ok s ∧
      (s.Writable → s.toEnvironment.Holds s ∧
        ∀ env : Environment, env.Holds s → Settings.ofEnvironment env = .ok s) := by
  have hbounds := haccepted.inBounds
  refine ⟨hbounds, hbounds.ofValues_toDatum, fun hwritable => ⟨s.holds_toEnvironment, ?_⟩⟩
  intro env hholds
  exact hbounds.ofEnvironment hwritable hholds

/-- Settings that were read from decorated texts, and an environment that holds
them among other variables. -/
theorem settings_survive_environment_decorated :
    let read : Settings := ⟨12, 50, .typescript, 0, some "/srv"⟩
    Settings.ofEnvironment [("LITE_BUNDLE_MAX_CODE_SIZE", " +00_12.00 "),
      ("LITE_BUNDLE_DIALECT", "TSX"), ("LITE_BUNDLE_DEFAULT_LIMIT", ""),
      ("LITE_BUNDLE_INDENT_SIZE", "0"), ("LITE_BUNDLE_WORKSPACE_ROOT", "/srv")] = .ok read ∧
    Settings.ofValues read.toDatum = .ok read ∧
    Settings.ofEnvironment (("HOME", "/root") :: read.toEnvironment) = .ok read := by
  intro read
  have hread : Settings.ofEnvironment [("LITE_BUNDLE_MAX_CODE_SIZE", " +00_12.00 "),
      ("LITE_BUNDLE_DIALECT", "TSX"), ("LITE_BUNDLE_DEFAULT_LIMIT", ""),
      ("LITE_BUNDLE_INDENT_SIZE", "0"), ("LITE_BUNDLE_WORKSPACE_ROOT", "/srv")] = .ok read := by
    rw [Settings.ofEnvironment, Settings.ofValues_eq_ok_iff]
    have hdialect : Settings.readDialect (.text "TSX") = .ok .typescript :=
      Settings.readDialect_of_key (by decide) (by decide +kernel)
    exact ⟨rfl, rfl, (Schema.field_of_some rfl).mpr hdialect, rfl, rfl⟩
  have hwritable : read.Writable := ⟨by decide, by decide, by decide, by decide⟩
  obtain ⟨_, hvalues, hagain⟩ := settings_survive_environment read (Or.inr ⟨_, hread⟩)
  refine ⟨hread, hvalues, (hagain hwritable).2 _ ⟨rfl, rfl, rfl, rfl, rfl⟩⟩

end BundleAtlas
