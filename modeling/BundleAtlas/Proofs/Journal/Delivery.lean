import BundleAtlas.Journal.Recorder
import BundleAtlas.Proofs.Files.Folder

/-!
Where entries of the journal end up, over whole runs. A recorder is set up again
and again, with a file or without one, and entries of all levels come in
between. Handlers that earlier setups, or anyone else, have left behind must
not get anything. The invariant is that the handlers are those of the latest
setup and of no other; from it follows what one entry does, and from that what
the error stream and each file hold at the end.
-/

namespace BundleAtlas

namespace Setup

/-- The lowest level that is written under a setup. -/
def threshold (s : Setup) : Level := if s.verbose then .debug else .info

/-- The place of the file that a setup names, if it names one. -/
def place? (working : List String) (s : Setup) : Option (List String) :=
  if s.logFile = "" then none else some ((Path.ofText s.logFile).place working)

/-- Whether an entry is written under a setup. -/
def passes (s : Setup) (e : Entry) : Bool :=
  Entry.isPart e.source && s.threshold.rank ≤ e.level.rank

variable {s : Setup}

theorem place?_of_empty (h : s.logFile = "") (working : List String) : s.place? working = none :=
  if_pos h

theorem place?_of_named (h : s.logFile ≠ "") (working : List String) :
    s.place? working = some ((Path.ofText s.logFile).place working) :=
  if_neg h

theorem debug_le_threshold (s : Setup) : Level.debug.rank ≤ s.threshold.rank := by
  rw [threshold]
  split
  · exact Int.le_refl _
  · decide

end Setup

/-- What can happen to a recorder: it is set up, or it gets an entry. -/
inductive JournalEvent where
  | configure (s : Setup)
  | log (time : String) (e : Entry)

namespace JournalEvent

/-- The setup of an event that brings one. -/
def setup? : JournalEvent → Option Setup
  | configure s => some s
  | log _ _ => none

/-- The latest setup among some events. -/
def latest (events : List JournalEvent) : Option Setup := (events.filterMap setup?).getLast?

/-- The lines of the entries that pass the setup in force, in order; only those
are meant that come while a setup of the given kind is in force. -/
def passed (kind : Setup → Bool) : Setup → List JournalEvent → List String
  | _, [] => []
  | _, configure s :: events => passed kind s events
  | s, log time e :: events =>
    if kind s && s.passes e then e.line time :: passed kind s events else passed kind s events

theorem latest_configure (s : Setup) (events : List JournalEvent) :
    latest (configure s :: events) = some ((latest events).getD s) :=
  List.getLast?_cons

end JournalEvent

open JournalEvent

namespace Recorder

/-- The recorder after some events, if every setup among them succeeds. -/
def run? (r : Recorder) : List JournalEvent → Option Recorder
  | [] => some r
  | .configure s :: events =>
    match r.configure s with
    | (.ok (), after) => after.run? events
    | (.error _, _) => none
  | .log time e :: events => (r.record time e).run? events

/-- A setup is in force: threshold and handlers are its own, and its file is
there. -/
structure InForce (s : Setup) (r : Recorder) : Prop where
  threshold : r.threshold = s.threshold
  handlers : r.handlers = ⟨.stream, s.threshold⟩ ::
    (s.place? r.files.working).toList.map fun place => ⟨.file place, .debug⟩
  opened : ∀ place, s.place? r.files.working = some place → (r.files.held? place).isSome

/-- An entry under a setup, from one recorder to the next: if it passes, it is
added once to the error stream and once to the file of the setup; nothing else
is written. -/
structure Delivered (s : Setup) (time : String) (e : Entry) (before after : Recorder) :
    Prop where
  stream : after.stream = before.stream ++ if s.passes e then e.line time else ""
  content : ∀ place, after.files.content place = before.files.content place ++
    if s.passes e ∧ s.place? before.files.working = some place
    then Text.Utf8.encode (e.line time).toList else []
  kept : ∀ place, (after.files.held? place).isSome = (before.files.held? place).isSome

variable {r after final : Recorder} {s : Setup} {time : String} {e : Entry}
  {events : List JournalEvent}

/-- What a setup that succeeds does. -/
theorem of_configure (h : r.configure s = (.ok (), after)) :
    InForce s after ∧ after.stream = r.stream ∧ after.files.working = r.files.working ∧
    ∀ place, after.files.content place = r.files.content place ∧
      ((after.files.held? place).isSome ↔
        (r.files.held? place).isSome ∨ s.place? r.files.working = some place) := by
  -- the handlers in `r` do not matter: both branches start from an empty list of them
  unfold configure at h
  dsimp only at h
  split at h
  · rename_i hempty
    have hnone := Setup.place?_of_empty (beq_iff_eq.mp hempty)
    cases h
    refine ⟨⟨rfl, ?_, ?_⟩, rfl, rfl, fun place => ⟨rfl, ?_⟩⟩
    · rw [hnone]
      rfl
    · intro place hplace
      rw [hnone] at hplace
      cases hplace
    · simp [hnone, attach]
  · rename_i hnamed
    have hsome := Setup.place?_of_named (mt beq_iff_eq.mpr hnamed)
    split at h
    · rename_i files hopen
      cases h
      have hopened : r.files.openFile (Path.ofText s.logFile) = (.ok (), files) := hopen
      obtain ⟨hworking, hfiles⟩ := FolderTree.of_openFile hopened
      have hthere : ∀ place, (files.held? place).isSome ↔
          (r.files.held? place).isSome ∨ s.place? r.files.working = some place := by
        intro place
        rw [(hfiles place).2, hsome, Option.some_inj, eq_comm (a := place)]
      refine ⟨⟨rfl, ?_, ?_⟩, rfl, hworking, fun place => ⟨(hfiles place).1, hthere place⟩⟩
      · rw [hsome]
        rfl
      · intro place hplace
        refine (hthere place).mpr (.inr ?_)
        rw [← hplace]
        exact congrArg s.place? hworking.symm
    · cases h

namespace InForce

theorem record_of_passes (h : InForce s r) (hpasses : s.passes e = true) :
    r.record time e = { r with
      stream := r.stream ++ e.line time
      files := match s.place? r.files.working with
        | some place => r.files.append place (Text.Utf8.encode (e.line time).toList)
        | none => r.files } := by
  obtain ⟨_, hrank⟩ : Entry.isPart e.source = true ∧ s.threshold.rank ≤ e.level.rank := by
    simpa [Setup.passes] using hpasses
  -- the file's handler lets everything through, so that only the recorder's own threshold counts
  have hdebug : Level.debug.rank ≤ e.level.rank := Int.le_trans s.debug_le_threshold hrank
  have hstream : handle time e r ⟨.stream, s.threshold⟩ =
      { r with stream := r.stream ++ e.line time } := if_pos hrank
  have hall : r.record time e = List.foldl (handle time e) r (⟨.stream, s.threshold⟩ ::
      (s.place? r.files.working).toList.map fun place => ⟨.file place, .debug⟩) := by
    rw [← h.handlers, record, h.threshold]
    exact if_pos hpasses
  rw [hall, List.foldl_cons, hstream]
  cases s.place? r.files.working with
  | none => rfl
  | some place => exact if_pos hdebug

theorem record_of_not_passes (h : InForce s r) (hpasses : s.passes e = false) :
    r.record time e = r := by
  rw [record, h.threshold]
  exact if_neg (by simpa [Setup.passes] using hpasses)

/-- An entry is delivered once, under the setup in force, which stays so. -/
theorem delivered (h : InForce s r) (time : String) (e : Entry) :
    Delivered s time e r (r.record time e) ∧ InForce s (r.record time e) ∧
      (r.record time e).files.working = r.files.working := by
  cases hpasses : s.passes e with
  | false =>
      rw [h.record_of_not_passes hpasses]
      exact ⟨⟨by simp [hpasses], by simp [hpasses], fun _ => rfl⟩, h, rfl⟩
  | true =>
      rw [h.record_of_passes hpasses]
      cases hplace : s.place? r.files.working with
      | none =>
          refine ⟨⟨by simp [hpasses], by simp [hplace], fun _ => rfl⟩, ?_, rfl⟩
          exact ⟨h.threshold, h.handlers, h.opened⟩
      | some place =>
          have hfile := h.opened place hplace
          have hadded := FolderTree.of_append hfile (Text.Utf8.encode (e.line time).toList)
          have hworking := FolderTree.working_append r.files place
            (Text.Utf8.encode (e.line time).toList)
          refine ⟨⟨by simp [hpasses], ?_, fun other => (hadded other).2⟩, ?_, hworking⟩
          · intro other
            simp only [(hadded other).1, hpasses, hplace, true_and, Option.some_inj,
              eq_comm (a := place)]
          · refine ⟨h.threshold, ?_, ?_⟩
            · dsimp only
              rw [hworking]
              exact h.handlers
            · intro other hother
              dsimp only at hother ⊢
              rw [hworking] at hother
              rw [(hadded other).2]
              exact h.opened other hother

end InForce

theorem run?_append (r : Recorder) (past rest : List JournalEvent) :
    r.run? (past ++ rest) = (r.run? past).bind (·.run? rest) := by
  fun_induction run? r past with
  | case1 => rfl
  | case2 r s past after hconfigure ih =>
      rw [List.cons_append, run?, hconfigure]
      exact ih
  | case3 r s past o after hconfigure =>
      rw [List.cons_append, run?, hconfigure]
      rfl
  | case4 r time e past ih =>
      rw [List.cons_append, run?]
      exact ih

/-- After any run, the latest of its setups is in force. -/
theorem InForce.run (h : InForce s r) (hrun : r.run? events = some final) :
    InForce ((latest events).getD s) final := by
  fun_induction run? r events generalizing s with
  | case1 r =>
      cases hrun
      exact h
  | case2 r s' events after hconfigure ih =>
      rw [latest_configure, Option.getD_some]
      exact ih (of_configure hconfigure).1 hrun
  | case3 => cases hrun
  | case4 r time e events ih => exact ih (h.delivered time e).2.1 hrun

/-- What a run has written: to the error stream, and to each file. -/
structure Written (s : Setup) (events : List JournalEvent) (before after : Recorder) :
    Prop where
  stream : after.stream = before.stream ++ String.join (passed (fun _ => true) s events)
  content : ∀ place, after.files.content place = before.files.content place ++
    (passed (·.place? before.files.working == some place) s events).flatMap
      fun line => Text.Utf8.encode line.toList
  there : ∀ place, (after.files.held? place).isSome ↔ (before.files.held? place).isSome ∨
    ∃ s', JournalEvent.configure s' ∈ events ∧ s'.place? before.files.working = some place

namespace Written

/-- A setup writes nothing, but from then on its file is there. -/
theorem of_configure {s' : Setup} (hconfigure : r.configure s' = (.ok (), after))
    (h : Written s' events after final) : Written s (.configure s' :: events) r final := by
  obtain ⟨-, hstream, hworking, hfiles⟩ := Recorder.of_configure hconfigure
  obtain ⟨hstreamed, hcontent, hthere⟩ := h
  rw [hworking] at hcontent hthere
  refine ⟨by rw [hstreamed, hstream, passed], ?_, ?_⟩
  · intro place
    rw [hcontent, (hfiles place).1, passed]
  · intro place
    rw [hthere, (hfiles place).2, or_assoc]
    simp

/-- The line of an entry that passes comes before all that follows. -/
theorem of_delivered (hdelivered : Delivered s time e r after)
    (hworking : after.files.working = r.files.working) (h : Written s events after final) :
    Written s (.log time e :: events) r final := by
  obtain ⟨hstreamed, hcontent, hthere⟩ := h
  rw [hworking] at hcontent hthere
  refine ⟨?_, ?_, ?_⟩
  · rw [hstreamed, hdelivered.stream, passed]
    cases s.passes e with
    | false => simp
    | true => simp [String.append_assoc]
  · intro place
    rw [hcontent, hdelivered.content, passed]
    by_cases hplace : s.place? r.files.working = some place
    · cases s.passes e with
      | false => simp
      | true => simp [hplace]
    · simp [hplace]
  · intro place
    rw [hthere, hdelivered.kept]
    simp

end Written

/-- What single events do adds up over a run. -/
theorem InForce.written (h : InForce s r) (hrun : r.run? events = some final) :
    Written s events r final := by
  fun_induction run? r events generalizing s with
  | case1 r =>
      cases hrun
      exact ⟨by simp [passed], by simp [passed], by simp⟩
  | case2 r s' events after hconfigure ih =>
      exact (ih (of_configure hconfigure).1 hrun).of_configure hconfigure
  | case3 => cases hrun
  | case4 r time e events ih =>
      obtain ⟨hdelivered, hforce, hworking⟩ := h.delivered time e
      exact (ih hforce hrun).of_delivered hdelivered hworking

end Recorder

/-- In every run that starts with a setup and whose setups all succeed, whatever
handlers were there before: an entry is added once to the error stream and once
to the file of the latest setup, if that names one and the entry passes its
threshold, and nothing is written elsewhere. So at the end the error stream
and each file hold what they held at the start, and behind it the lines of the
entries that passed, for a file those that came while it was the file in use. -/
theorem entries_written_once (start final : Recorder) (first : Setup)
    (events : List JournalEvent)
    (hrun : start.run? (.configure first :: events) = some final) :
    (∀ past time e rest, .configure first :: events = past ++ .log time e :: rest →
      ∃ s before, latest past = some s ∧ start.run? past = some before ∧
        (before.record time e).run? rest = some final ∧
        Recorder.Delivered s time e before (before.record time e)) ∧
    Recorder.Written first (.configure first :: events) start final := by
  obtain ⟨after, hconfigure, hrest⟩ : ∃ after, start.configure first = (.ok (), after) ∧
      after.run? events = some final := by
    rw [Recorder.run?] at hrun
    split at hrun
    · rename_i after hconfigure
      exact ⟨after, hconfigure, hrun⟩
    · cases hrun
  have hforce := (Recorder.of_configure hconfigure).1
  constructor
  · intro past time e rest hsplit
    cases past with
    | nil => cases hsplit
    | cons head past =>
        rw [List.cons_append] at hsplit
        obtain ⟨rfl, rfl⟩ := List.cons.inj hsplit
        rw [Recorder.run?_append] at hrest
        obtain ⟨before, hbefore, hlater⟩ := Option.bind_eq_some_iff.mp hrest
        refine ⟨(latest past).getD first, before, latest_configure first past, ?_, hlater, ?_⟩
        · rw [Recorder.run?, hconfigure]
          exact hbefore
        · exact ((hforce.run hbefore).delivered time e).1
  · exact (hforce.written hrest).of_configure hconfigure

namespace Reopened

/-- A recorder with handlers that were left behind, and with a file that holds
something. -/
def start : Recorder :=
  { handlers := [⟨.file ["old.log"], .debug⟩, ⟨.stream, .debug⟩]
    files := { entries := [(["old.log"], .file []), (["a.log"], .file [120])] } }

/-- Entries under one setup, under another with the same file, and under one
without a file. -/
def events : List JournalEvent :=
  [.log "1" ⟨.debug, "lite_bundle.core", "a"⟩, .configure { logFile := "logs/../a.log" },
    .log "2" ⟨.debug, "lite_bundle", "b"⟩, .log "3" ⟨.info, "lite_bundle", "c"⟩,
    .configure {}, .log "4" ⟨.error, "lite_bundle", "d"⟩]

end Reopened

theorem entries_written_once_reopened :
    ∃ final, Reopened.start.run? (.configure ⟨true, "a.log"⟩ :: Reopened.events) = some final ∧
      final.stream =
        "1 DEBUG lite_bundle.core a\n3 INFO lite_bundle c\n4 ERROR lite_bundle d\n" ∧
      final.files.content ["a.log"] = [120] ++ Text.Utf8.encode
        "1 DEBUG lite_bundle.core a\n3 INFO lite_bundle c\n".toList ∧
      final.files.content ["old.log"] = [] := by
  have hruns : (Reopened.start.run? (.configure ⟨true, "a.log"⟩ :: Reopened.events)).isSome := by
    decide +kernel
  obtain ⟨final, hrun⟩ := Option.isSome_iff_exists.mp hruns
  obtain ⟨-, hstream, hcontent, -⟩ := entries_written_once _ _ _ _ hrun
  refine ⟨final, hrun, ?_, ?_, ?_⟩
  · rw [hstream]
    decide +kernel
  · rw [hcontent]
    decide +kernel
  · rw [hcontent]
    decide +kernel

end BundleAtlas
