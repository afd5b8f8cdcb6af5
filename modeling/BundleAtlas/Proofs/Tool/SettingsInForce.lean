import Mathlib.Data.List.DropRight
import BundleAtlas.Proofs.Tool.GivenSettings
import BundleAtlas.Proofs.Tool.History

/-!
The settings of a process over whole runs. They are chosen, reset, or read from
the environment when they are first asked for and kept from then on; the
environment changes meanwhile, and reading it can fail. What is in force is
told from the past: from what was done since the last reset, the last choice
wins, and without one the first reading that did not fail. Tools stay with the
settings that they were made under.
-/

namespace BundleAtlas

/-- What a process can do. -/
inductive Deed where
  /-- its environment becomes this one -/
  | enter (env : Environment)
  | choose (s : Option Settings)
  /-- asks for the settings of the process -/
  | ask
  /-- a request with settings of its own, or without any -/
  | request (given : Option Settings) (r : Request)
  /-- makes tools, under given settings or those of the process -/
  | makeTools (given : Option Settings)
  /-- a request to tools that were made before -/
  | useTools (index : Nat) (r : Request)
  /-- a direct use of the store, or a request with settings of its own -/
  | visit (m : Move)
  /-- reads a file, under given settings or those of the process -/
  | read (given : Option Settings) (path : String)
  /-- takes an input in the same way -/
  | resolve (given : Option Settings) (input : Input)

/-- A process: its workspace, and the settings of the tools it has made. -/
structure Host where
  workspace : Workspace := {}
  tools : List Settings := []

namespace Host

def ambient (h : Host) : Ambient := h.workspace.ambient

def withAmbient (h : Host) (ambient : Ambient) : Host :=
  { h with workspace := { h.workspace with ambient } }

/-- A process at its start: no settings are chosen and no tools are made. -/
def start (w : Workspace) : Host :=
  ⟨{ w with ambient := { w.ambient with chosen := none } }, []⟩

def perform (h : Host) (a : Action Datum) : Except Fault Datum × Host :=
  ((a.outcome h.workspace).1, { h with workspace := (a.outcome h.workspace).2 })

def step (h : Host) : Deed → Except Fault Datum × Host
  | .enter env => (.ok .null, h.withAmbient { h.ambient with environment := env })
  | .choose s => (.ok .null, h.withAmbient (h.ambient.choose s))
  | .ask => h.perform (do return (← Action.settings none).toDatum)
  | .request given r => h.perform (r.run given)
  | .makeTools given =>
    match (Action.settings given).outcome h.workspace with
    | (.ok s, after) => (.ok .null, ⟨after, h.tools ++ [s]⟩)
    | (.error e, after) => (.error e, ⟨after, h.tools⟩)
  | .useTools index r =>
    match h.tools[index]? with
    | some s => h.perform (r.runTool (some s))
    | none => (.ok .null, h)
  | .visit m => h.perform m.act
  | .read given path => h.perform do
    let s ← Action.settings given
    return .text (← Action.readFile s path)
  | .resolve given input => h.perform do
    let s ← Action.settings given
    return .text (← Action.resolve s input)

/-- The process behind a run of deeds. -/
def run (h : Host) : List Deed → Host
  | [] => h
  | d :: ds => run (h.step d).2 ds

end Host

/-- A deed, and the process that does it. -/
structure Occasion where
  deed : Deed
  before : Host

/-- The occasions of a run of deeds. -/
def Host.history (h : Host) : List Deed → List Occasion
  | [] => []
  | d :: ds => ⟨d, h⟩ :: history (h.step d).2 ds

namespace Occasion

def after (o : Occasion) : Host := (o.before.step o.deed).2

/-- Whether the settings of the process are read. -/
def reads (o : Occasion) : Bool :=
  match o.deed with
  | .ask | .makeTools none | .read none _ | .resolve none _ => true
  | .request none r => r.readsSettings o.before.workspace.store
  | _ => false

/-- Whether the settings are left to the environment again. -/
def resets (o : Occasion) : Bool :=
  match o.deed with
  | .choose none => true
  | _ => false

def chosen? (o : Occasion) : Option Settings :=
  match o.deed with
  | .choose s => s
  | _ => none

/-- The settings that the environment holds where they are read. -/
def found? (o : Occasion) : Option Settings :=
  if o.reads then (Settings.ofEnvironment o.before.ambient.environment).toOption else none

/-- What an occasion can do to the settings of the process: they are reset,
chosen, or filled by what is found if there are none. -/
inductive Effect (o : Occasion) : Prop
  | resets (hresets : o.resets = true) (hafter : o.after.ambient.chosen = none)
  | chooses (s : Settings) (hresets : o.resets = false) (hchosen : o.chosen? = some s)
      (hafter : o.after.ambient.chosen = some s)
  | fills (hresets : o.resets = false) (hchosen : o.chosen? = none)
      (hafter : o.after.ambient.chosen = o.before.ambient.chosen.or o.found?)

end Occasion

theorem Ambient.chosen_settings (p : Ambient) :
    p.settings.2.chosen = p.chosen.or (Settings.ofEnvironment p.environment).toOption := by
  unfold settings
  cases hchosen : p.chosen with
  | some s => simp [hchosen]
  | none =>
      cases hread : Settings.ofEnvironment p.environment with
      | ok s => rfl
      | error issues => exact hchosen

theorem Ambient.settings_of_chosen {p : Ambient} {s : Settings} (hchosen : p.chosen = some s) :
    p.settings = (.ok s, p) := by
  unfold settings
  rw [hchosen]

theorem Action.outcome_settings_none (w : Workspace) :
    (Action.settings none).outcome w =
      (w.ambient.settings.1, { w with ambient := w.ambient.settings.2 }) :=
  outcome_ofExcept w.ambient.settings.1 { w with ambient := w.ambient.settings.2 }

/-- Where the settings are read and nothing else is done to them, reading them is
all that happens to them. -/
theorem Action.ambient_settings_bind {α : Type} {f : Settings → Action α}
    (hf : ∀ s, IgnoresAmbient (f s)) (w : Workspace) :
    ((Action.settings none >>= f).outcome w).2.ambient = w.ambient.settings.2 := by
  rw [outcome_bind, outcome_settings_none]
  cases w.ambient.settings.1 with
  | ok s => exact (hf s).keeps _
  | error e => rfl

theorem Move.act_keepsAmbient (m : Move) (w : Workspace) :
    (m.act.outcome w).2.ambient = w.ambient := by
  cases m with
  | request s r => exact (r.run_ignoresAmbient s).keeps w
  | replace units => exact (Action.IgnoresAmbient.replace units |>.bind fun _ => .pure _).keeps w
  | current =>
      exact (Action.IgnoresAmbient.composes.current |>.bind fun _ => .pure _).keeps w
  | unit id => exact (Action.IgnoresAmbient.composes.unit id |>.bind fun _ => .pure _).keeps w
  | clear => rfl

namespace Occasion

variable {o : Occasion}

/-- Where the settings are read and nothing else is done to them, they are
filled by what is found. -/
theorem chosen_of_reads (hreads : o.reads = true)
    (hafter : o.after.ambient = o.before.ambient.settings.2) :
    o.after.ambient.chosen = o.before.ambient.chosen.or o.found? := by
  rw [hafter, Ambient.chosen_settings, found?, if_pos hreads]

theorem chosen_of_not_reads (hreads : o.reads = false)
    (hafter : o.after.ambient.chosen = o.before.ambient.chosen) :
    o.after.ambient.chosen = o.before.ambient.chosen.or o.found? := by
  have hfound : o.found? = none := by rw [found?, if_neg (by simp [hreads])]
  rw [hafter, hfound, Option.or_none]

theorem chosen_request (h : Host) (given : Option Settings) (r : Request) :
    (after ⟨.request given r, h⟩).ambient.chosen =
      h.ambient.chosen.or (found? ⟨.request given r, h⟩) := by
  cases given with
  | some s =>
      have hkept := (r.run_ignoresAmbient s).keeps h.workspace
      exact chosen_of_not_reads (o := ⟨.request (some s) r, h⟩) rfl
        (congrArg Ambient.chosen hkept)
  | none =>
      cases hreads : r.readsSettings h.workspace.store with
      | true =>
          apply chosen_of_reads (o := ⟨.request none r, h⟩) hreads
          change ((r.run none).outcome h.workspace).2.ambient = h.workspace.ambient.settings.2
          rw [Request.run_none_of_reads hreads, Action.outcome_settings_none]
          cases h.workspace.ambient.settings.1 with
          | ok s => exact (r.run_ignoresAmbient s).keeps _
          | error e => rfl
      | false =>
          have hkept := (r.run_ignoresAmbient .standard).keeps h.workspace
          rw [← Request.run_none_of_not_reads hreads] at hkept
          exact chosen_of_not_reads (o := ⟨.request none r, h⟩) hreads
            (congrArg Ambient.chosen hkept)

theorem chosen_makeTools (h : Host) (given : Option Settings) :
    (after ⟨.makeTools given, h⟩).ambient.chosen =
      h.ambient.chosen.or (found? ⟨.makeTools given, h⟩) := by
  cases given with
  | some s => exact chosen_of_not_reads (o := ⟨.makeTools (some s), h⟩) rfl rfl
  | none =>
      apply chosen_of_reads (o := ⟨.makeTools none, h⟩) rfl
      unfold after Host.step
      dsimp only
      rw [Action.outcome_settings_none]
      cases h.workspace.ambient.settings.1 with
      | ok s => rfl
      | error e => rfl

theorem chosen_useTools (h : Host) (index : Nat) (r : Request) :
    (after ⟨.useTools index r, h⟩).ambient.chosen = h.ambient.chosen := by
  unfold after Host.step
  dsimp only
  split
  · rename_i s _
    exact congrArg Ambient.chosen ((r.runTool_ignoresAmbient s).keeps h.workspace)
  · rfl

/-- Work that asks for the settings once, unless some are given, and leaves them
alone. -/
theorem chosen_under {f : Settings → Action Datum} (hf : ∀ s, Action.IgnoresAmbient (f s))
    (given : Option Settings) (hreads : o.reads = given.isNone)
    (hafter : o.after = (o.before.perform (Action.settings given >>= f)).2) :
    o.after.ambient.chosen = o.before.ambient.chosen.or o.found? := by
  cases given with
  | some s =>
      apply chosen_of_not_reads hreads
      rw [hafter]
      exact congrArg Ambient.chosen ((hf s).keeps o.before.workspace)
  | none =>
      apply chosen_of_reads hreads
      rw [hafter]
      exact Action.ambient_settings_bind hf o.before.workspace

theorem effect (o : Occasion) : o.Effect := by
  obtain ⟨deed, h⟩ := o
  cases deed with
  | enter env => exact .fills rfl rfl (chosen_of_not_reads rfl rfl)
  | choose s =>
      cases s with
      | none => exact .resets rfl rfl
      | some s => exact .chooses s rfl rfl rfl
  | ask => exact .fills rfl rfl (chosen_under (fun s => .pure s.toDatum) none rfl rfl)
  | request given r => exact .fills rfl rfl (chosen_request h given r)
  | makeTools given => exact .fills rfl rfl (chosen_makeTools h given)
  | useTools index r =>
      exact .fills rfl rfl (chosen_of_not_reads rfl (chosen_useTools h index r))
  | visit m =>
      have hkept := congrArg Ambient.chosen (m.act_keepsAmbient h.workspace)
      exact .fills rfl rfl (chosen_of_not_reads rfl hkept)
  | read given path =>
      have hread := fun s => Action.IgnoresAmbient.composes.readFile (fun _ _ => trivial) s path
      refine .fills rfl rfl (chosen_under (fun s => .bind (hread s) fun _ => .pure _) given ?_ rfl)
      cases given <;> rfl
  | resolve given input =>
      refine .fills rfl rfl (chosen_under
        (fun s => .bind (.resolve s input) fun _ => .pure _) given ?_ rfl)
      cases given <;> rfl

end Occasion

/-- The occasions since the settings were last left to the environment. -/
def sinceReset (past : List Occasion) : List Occasion := past.rtakeWhile fun o => !o.resets

/-- The last settings that were chosen since then. -/
def lastChosen? (past : List Occasion) : Option Settings :=
  ((sinceReset past).filterMap Occasion.chosen?).getLast?

/-- The first settings since then that the environment held where they were
read. -/
def firstFound? (past : List Occasion) : Option Settings :=
  ((sinceReset past).filterMap Occasion.found?).head?

/-- The settings in force behind some occasions: the last that were chosen,
else the first that were found, else those of the environment as it is. -/
def inForce (past : List Occasion) (env : Environment) : Schema.Checked Settings :=
  match (lastChosen? past).or (firstFound? past) with
  | some s => .ok s
  | none => Settings.ofEnvironment env

theorem sinceReset_concat (past : List Occasion) {o : Occasion} (hresets : o.resets = false) :
    sinceReset (past ++ [o]) = sinceReset past ++ [o] := by
  apply List.rtakeWhile_concat_pos
  simp [hresets]

theorem sinceReset_concat_of_resets (past : List Occasion) {o : Occasion}
    (hresets : o.resets = true) : sinceReset (past ++ [o]) = [] := by
  apply List.rtakeWhile_concat_neg
  simp [hresets]

/-- What a process has chosen accounts for its past. -/
def Remembers (past : List Occasion) (h : Host) : Prop :=
  h.ambient.chosen = (lastChosen? past).or (firstFound? past)

/-- One more occasion, and the process still accounts for its past. -/
theorem Remembers.concat {past : List Occasion} {o : Occasion} (h : Remembers past o.before) :
    Remembers (past ++ [o]) o.after := by
  unfold Remembers at h ⊢
  cases o.effect with
  | resets hresets hafter =>
      have hsince := sinceReset_concat_of_resets past hresets
      simp [hafter, lastChosen?, firstFound?, hsince]
  | chooses s hresets hchosen hafter =>
      have hsince := sinceReset_concat past hresets
      simp [hafter, lastChosen?, hsince, hchosen]
  | fills hresets hchosen hafter =>
      have hsince := sinceReset_concat past hresets
      have hlast : lastChosen? (past ++ [o]) = lastChosen? past := by
        simp [lastChosen?, hsince, hchosen]
      have hfirst : firstFound? (past ++ [o]) = (firstFound? past).or o.found? := by
        simp [firstFound?, hsince, List.head?_append]
      rw [hafter, h, hlast, hfirst, Option.or_assoc]

theorem Remembers.run {past : List Occasion} {h : Host} (hpast : Remembers past h)
    (deeds : List Deed) : Remembers (past ++ h.history deeds) (h.run deeds) := by
  induction deeds generalizing past h with
  | nil => simpa [Host.history, Host.run] using hpast
  | cons d ds ih =>
      -- The past grows at its end while the deeds are taken from the front.
      have hnext := ih (Remembers.concat (o := ⟨d, h⟩) hpast)
      rw [List.append_assoc] at hnext
      exact hnext

theorem Remembers.start (w : Workspace) : Remembers [] (Host.start w) := by
  simp [Remembers, Host.start, Host.ambient, lastChosen?, firstFound?, sinceReset]

/-- What a read of the settings gives behind some occasions, and the workspace
that it leaves. -/
def readIn (past : List Occasion) (w : Workspace) : Except Fault Settings × Workspace :=
  match inForce past w.ambient.environment with
  | .ok s => (.ok s, { w with ambient := ⟨some s, w.ambient.environment⟩ })
  | .error issues => (.error (.invalid issues), w)

theorem chosen_of_readIn {past : List Occasion} {w after : Workspace} {s : Settings}
    (hread : readIn past w = (.ok s, after)) : after.ambient.chosen = some s := by
  unfold readIn at hread
  split at hread
  · cases hread
    rfl
  · cases hread

namespace Remembers

variable {past : List Occasion} {h : Host}

theorem outcome_settings (hpast : Remembers past h) :
    (Action.settings none).outcome h.workspace = readIn past h.workspace := by
  obtain ⟨⟨store, ⟨chosen, env⟩, files, journal⟩, tools⟩ := h
  have hchosen : chosen = (lastChosen? past).or (firstFound? past) := hpast
  rw [Action.outcome_settings_none]
  unfold Ambient.settings readIn inForce
  rw [← hchosen]
  cases chosen with
  | some s => rfl
  | none =>
      dsimp only
      cases Settings.ofEnvironment env with
      | ok s => rfl
      | error issues => rfl

theorem chosen_of_error (hpast : Remembers past h) {e : Fault}
    (herror : (readIn past h.workspace).1 = .error e) : h.ambient.chosen = none := by
  cases hchosen : h.ambient.chosen with
  | none => rfl
  | some s =>
      have hremembered : (lastChosen? past).or (firstFound? past) = some s :=
        hpast.symm.trans hchosen
      rw [readIn, inForce, hremembered] at herror
      cases herror

end Remembers

namespace Host

/-- Settings that have been read once stay until others are chosen, whatever
becomes of the environment. -/
theorem chosen_run {h : Host} {s : Settings} (hchosen : h.ambient.chosen = some s)
    {deeds : List Deed} (hdeeds : ∀ d ∈ deeds, ∀ c, d ≠ .choose c) :
    (h.run deeds).ambient.chosen = some s := by
  induction deeds generalizing h with
  | nil => exact hchosen
  | cons d ds ih =>
      have hdeed := hdeeds d List.mem_cons_self
      apply ih _ fun e he => hdeeds e (List.mem_cons_of_mem d he)
      have heffect := Occasion.effect ⟨d, h⟩
      cases heffect with
      | resets hresets _ =>
          unfold Occasion.resets at hresets
          split at hresets
          · exact absurd ‹_› (hdeed none)
          · cases hresets
      | chooses c _ hchosen _ =>
          unfold Occasion.chosen? at hchosen
          split at hchosen
          · exact absurd ‹_› (hdeed _)
          · cases hchosen
      | fills _ _ hafter =>
          change (Occasion.after ⟨d, h⟩).ambient.chosen = some s
          rw [hafter, hchosen, Option.some_or]

/-- Tools that were made stay as they are, and others are put behind them. -/
theorem tools_step (h : Host) (d : Deed) : ∃ more, (h.step d).2.tools = h.tools ++ more := by
  have hsame : h.tools = h.tools ++ [] := (List.append_nil _).symm
  cases d with
  | makeTools given =>
      unfold step
      dsimp only
      split
      · exact ⟨[_], rfl⟩
      · exact ⟨[], hsame⟩
  | useTools index r =>
      unfold step
      dsimp only
      split
      · exact ⟨[], hsame⟩
      · exact ⟨[], hsame⟩
  | _ => exact ⟨[], hsame⟩

theorem tools_run (h : Host) (deeds : List Deed) :
    ∃ more, (h.run deeds).tools = h.tools ++ more := by
  induction deeds generalizing h with
  | nil => exact ⟨[], (List.append_nil _).symm⟩
  | cons d ds ih =>
      obtain ⟨first, hfirst⟩ := h.tools_step d
      obtain ⟨rest, hrest⟩ := ih (h.step d).2
      refine ⟨first ++ rest, ?_⟩
      rw [run, hrest, hfirst, List.append_assoc]

end Host

/-- The settings of a process behind any run of deeds from its start. A read
gives the last settings that were chosen since the last reset; without such,
those that the environment held at the first read since then that found some;
without these, what the environment holds now. A read that fails leaves the
process without settings. A request without settings of its own reads at most
once and goes on as under the settings that it reads. Once read, they stay until
others are chosen, and tools that are made under them answer by them ever
after, whatever the settings of the process are then. -/
theorem process_settings_in_force (w : Workspace) (deeds : List Deed) :
    let past := (Host.start w).history deeds
    let h := (Host.start w).run deeds
    (Action.settings none).outcome h.workspace = readIn past h.workspace ∧
    (∀ e, (readIn past h.workspace).1 = .error e → h.ambient.chosen = none) ∧
    (∀ r : Request, if r.readsSettings h.workspace.store then
        (r.run none).outcome h.workspace = match readIn past h.workspace with
          | (.ok s, after) => (r.run (some s)).outcome after
          | (.error e, after) => (.error e, after)
      else ∀ given, (r.run none).outcome h.workspace = (r.run given).outcome h.workspace) ∧
    ∀ s after, readIn past h.workspace = (.ok s, after) →
      (∀ later, (∀ d ∈ later, ∀ c, d ≠ .choose c) →
        ((Action.settings none).outcome ((h.step .ask).2.run later).workspace).1 = .ok s) ∧
      ∀ later r ambient,
        let k := (h.step (.makeTools none)).2.run later
        (k.step (.useTools h.tools.length r)).1 =
          ((r.runTool (some s)).outcome { k.workspace with ambient }).1 := by
  intro past h
  have hpast : Remembers past h := (Remembers.start w).run deeds
  have hread := hpast.outcome_settings
  refine ⟨hread, fun e => hpast.chosen_of_error, ?_, ?_⟩
  · intro r
    split
    · rename_i hreads
      rcases hsettled : readIn past h.workspace with ⟨fault | s, after⟩
      · rw [Request.run_none_of_reads hreads, hread, hsettled]
      · rw [Request.run_none_of_reads hreads, hread, hsettled]
    · rename_i hreads
      exact Request.run_none_of_not_reads (by simpa using hreads)
  · intro s after hsettings
    refine ⟨?_, ?_⟩
    · intro later hlater
      have hasked : (h.step .ask).2.ambient.chosen = some s := by
        change ((do return (← Action.settings none).toDatum : Action Datum).outcome
          h.workspace).2.ambient.chosen = some s
        rw [Action.outcome_answer, hread, hsettings]
        exact chosen_of_readIn hsettings
      have hkept := Ambient.settings_of_chosen (Host.chosen_run hasked hlater)
      rw [Action.outcome_settings_none]
      exact congrArg Prod.fst hkept
    · intro later r ambient k
      have hmade : (h.step (.makeTools none)).2.tools = h.tools ++ [s] := by
        unfold Host.step
        dsimp only
        rw [hread, hsettings]
      obtain ⟨more, hmore⟩ := (h.step (.makeTools none)).2.tools_run later
      have hindex : k.tools[h.tools.length]? = some s := by
        simp [k, hmore, hmade]
      have hblind := r.runTool_ignoresAmbient s k.workspace ambient
      unfold Host.step
      dsimp only
      rw [hindex, hblind]
      rfl

-- The first read fails and is tried again; the change behind the second is not seen.
example : (inForce ((Host.start {}).history [.enter [("LITE_BUNDLE_DIALECT", "go")], .ask,
    .enter [("LITE_BUNDLE_DIALECT", "ts")], .ask, .enter []]) []).toOption =
      some { dialect := .typescript } := by
  decide +kernel

end BundleAtlas
