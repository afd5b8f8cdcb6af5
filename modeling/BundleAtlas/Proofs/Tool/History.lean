import Mathlib.Data.List.DropRight
import BundleAtlas.Proofs.Tool.Queries
import BundleAtlas.Proofs.Tool.Unpacking
import BundleAtlas.Session

/-!
Histories of a store. Requests, and direct uses of the store, follow one
another in any order and succeed or fail. What the store holds after a run is
read off the visits it has had: the last of them that stored units, unless the
store was emptied since, and how often storing was attempted.
-/

namespace BundleAtlas

/-- What can be done to a workspace: a request under some settings, or a
direct use of the store. -/
inductive Move where
  | request (s : Settings) (r : Request)
  | replace (units : List Piece)
  | current
  | unit (id : String)
  | clear

namespace Move

def act : Move → Action Datum
  | request s r => r.run (some s)
  | replace units => do return .text (← Action.replace units).summary
  | current => do return Session.glance (← Action.current)
  | unit id => do return (← Action.unit id).toDatum
  | clear => do
    Action.clear
    return .null

/-- Moves that are there to store units. -/
def mayStore : Move → Bool
  | replace _ | request _ (.deobfuscate ..) => true
  | _ => false

/-- Moves that only look. -/
def onlyLooks : Move → Bool
  | request _ r => r.isQuery
  | current | unit _ => true
  | replace _ | clear => false

end Move

/-- A move, and the workspace that it finds. -/
structure Visit where
  move : Move
  before : Workspace

namespace Visit

def outcome (v : Visit) : Except Fault Datum := (v.move.act.outcome v.before).1

/-- The store that a visit leaves behind. -/
def after (v : Visit) : Store := (v.move.act.outcome v.before).2.store

/-- Whether a visit stores units: it is there to do so, and succeeds. -/
def stores (v : Visit) : Bool := v.move.mayStore && v.outcome.isOk

/-- The units that a visit has to store: those that are given, or those that
unpacking computes. -/
def offered? (v : Visit) : Option (List Piece) :=
  match v.move with
  | .replace units => some units
  | .request s (.deobfuscate input o) =>
    ((Action.unpackedUnits (some s) input o).outcome v.before).1.toOption
  | _ => none

/-- Whether a visit tries to store units. Unpacking does if it gets that far. -/
def attempts (v : Visit) : Bool :=
  match v.move with
  | .replace _ => true
  | .request s (.deobfuscate input o) =>
    ((Action.preparation (some s) input o).outcome v.before).1.isOk
  | _ => false

/-- Whether a visit empties the store. -/
def clears (v : Visit) : Bool :=
  match v.move with
  | .clear => true
  | _ => false

/-- The number that a visit stores units under. -/
def installed? (v : Visit) : Option Nat :=
  if v.stores then v.after.live.map (·.generation) else none

/-- What a visit can do to the store, with all that a history keeps of it. -/
inductive Effect (v : Visit) : Prop
  | installs (live : Snapshot) (hstores : v.stores = true) (hattempts : v.attempts = true)
      (hclears : v.clears = false) (hoffered : v.offered? = some live.units)
      (hgeneration : live.generation = v.before.store.attempts + 1)
      (hafter : v.after = ⟨some live, v.before.store.attempts + 1⟩)
  | isRefused (hstores : v.stores = false) (hattempts : v.attempts = true)
      (hclears : v.clears = false)
      (hafter : v.after = ⟨v.before.store.live, v.before.store.attempts + 1⟩)
  | empties (hstores : v.stores = false) (hattempts : v.attempts = false)
      (hclears : v.clears = true) (hafter : v.after = ⟨none, v.before.store.attempts⟩)
  | keeps (hstores : v.stores = false) (hattempts : v.attempts = false)
      (hclears : v.clears = false) (hafter : v.after = v.before.store)

end Visit

namespace Move

theorem act_keepsStore {m : Move} (hlooks : m.onlyLooks = true) : m.act.KeepsStore := by
  cases m with
  | request s r => exact r.run_keepsStore (some s) hlooks
  | replace units => cases hlooks
  | current => exact .bind .current fun _ => .pure _
  | unit id => exact .bind (.unit id) fun _ => .pure _
  | clear => cases hlooks

end Move

namespace Visit

theorem effect_of_onlyLooks {v : Visit} (hlooks : v.move.onlyLooks = true) : v.Effect := by
  have hafter : v.after = v.before.store := Move.act_keepsStore hlooks v.before
  obtain ⟨move, before⟩ := v
  cases move with
  | request s r =>
      cases r with
      | deobfuscate input o => cases hlooks
      | _ => exact .keeps rfl rfl rfl hafter
  | replace units => cases hlooks
  | current => exact .keeps rfl rfl rfl hafter
  | unit id => exact .keeps rfl rfl rfl hafter
  | clear => cases hlooks

theorem effect_replace (units : List Piece) (w : Workspace) : Effect ⟨.replace units, w⟩ := by
  obtain ⟨hresult, hstore⟩ := Action.outcome_replace units w
  have houtcome : outcome ⟨.replace units, w⟩ =
      (w.store.replace units).1.map fun live => Datum.text live.summary := by
    rw [outcome, Move.act, Action.outcome_answer, hresult]
  have hafter : after ⟨.replace units, w⟩ = (w.store.replace units).2 := by
    rw [after, Move.act, Action.outcome_answer, hstore]
  by_cases hnodup : (units.map (·.id)).Nodup
  · rw [w.store.replace_of_nodup hnodup] at houtcome hafter
    refine .installs _ ?_ rfl rfl rfl rfl hafter
    rw [stores, houtcome]
    rfl
  · obtain ⟨e, hrefused⟩ := w.store.replace_of_not_nodup hnodup
    rw [hrefused] at houtcome hafter
    refine .isRefused ?_ rfl rfl hafter
    rw [stores, houtcome]
    rfl

theorem effect_deobfuscate (s : Settings) (input : Input) (o : UnpackOptions) (w : Workspace) :
    Effect ⟨.request s (.deobfuscate input o), w⟩ := by
  have hunpacks := Action.deobfuscate_outcome (some s) input o w
  have hprepared := Action.preparation_outcome (some s) input o w
  have houtcome : outcome ⟨.request s (.deobfuscate input o), w⟩ =
      ((Action.deobfuscate (some s) input o).outcome w).1.map Datum.text := by
    rw [outcome, Move.act, Request.run, Action.outcome_answer]
  have hafter : after ⟨.request s (.deobfuscate input o), w⟩ =
      ((Action.deobfuscate (some s) input o).outcome w).2.store := by
    rw [after, Move.act, Request.run, Action.outcome_answer]
  rcases hresult : (Action.deobfuscate (some s) input o).outcome w with ⟨fault | text, ready⟩
  · rw [hresult] at hunpacks houtcome hafter
    obtain ⟨hready, hkept⟩ := hunpacks
    refine .keeps ?_ ?_ rfl (hafter.trans hkept)
    · rw [stores, houtcome]
      rfl
    · simp only [attempts, hready]
      rfl
  · rw [hresult] at hunpacks houtcome hafter
    obtain ⟨live, answer, hready, hgeneration, hstored⟩ := hunpacks
    rw [hready] at hprepared
    refine .installs live ?_ ?_ rfl ?_ hgeneration (hafter.trans hstored)
    · rw [stores, houtcome]
      rfl
    · simp only [attempts, hready]
      rfl
    · simp only [offered?, hprepared.1]
      rfl

/-- Every visit stores units, is refused, empties the store or leaves it as it
is. -/
theorem effect (v : Visit) : v.Effect := by
  obtain ⟨move, before⟩ := v
  cases move with
  | request s r =>
      cases r with
      | deobfuscate input o => exact effect_deobfuscate s input o before
      | _ => exact effect_of_onlyLooks rfl
  | replace units => exact effect_replace units before
  | current => exact effect_of_onlyLooks rfl
  | unit id => exact effect_of_onlyLooks rfl
  | clear => exact .empties rfl rfl rfl rfl

end Visit

/-- The visits of a run of moves on a store. Each move finds the store as the
move before has left it; the files, the settings of the process and the
journal around it may be any. -/
def history (store : Store) : List (Move × Workspace) → List Visit
  | [] => []
  | (move, around) :: rest =>
    let v : Visit := ⟨move, { around with store }⟩
    v :: history v.after rest

/-- The store behind a run of moves. -/
def storeAfter (store : Store) : List (Move × Workspace) → Store
  | [] => store
  | (move, around) :: rest => storeAfter (Visit.after ⟨move, { around with store }⟩) rest

/-- The visits since the store was last emptied. -/
def sinceCleared (past : List Visit) : List Visit := past.rtakeWhile fun v => !v.clears

/-- A snapshot is that of the latest visit that stored units, and its number
is the next after those of all attempts before. -/
def IsLatest (past : List Visit) (live : Snapshot) : Prop :=
  ∃ earlier v later, past = earlier ++ v :: later ∧
    v.stores = true ∧ v.offered? = some live.units ∧
    live.generation = 1 + earlier.countP Visit.attempts ∧
    ∀ x ∈ later, x.stores = false ∧ x.clears = false

/-- What a store and the visits it has had have to do with each other. -/
structure Accounts (past : List Visit) (store : Store) : Prop where
  attempts_eq : store.attempts = past.countP Visit.attempts
  empty_iff : store.live = none ↔ ∀ v ∈ sinceCleared past, v.stores = false
  isLatest : ∀ live, store.live = some live → IsLatest past live
  installed_le : ∀ n ∈ past.filterMap Visit.installed?, n ≤ store.attempts
  installed_lt : (past.filterMap Visit.installed?).Pairwise (· < ·)

theorem IsLatest.concat {past : List Visit} {live : Snapshot} (hlatest : IsLatest past live)
    {v : Visit} (hstores : v.stores = false) (hclears : v.clears = false) :
    IsLatest (past ++ [v]) live := by
  obtain ⟨earlier, x, later, rfl, hsucceeds, hunits, hgeneration, hlater⟩ := hlatest
  refine ⟨earlier, x, later ++ [v], by simp, hsucceeds, hunits, hgeneration, ?_⟩
  intro y hy
  rcases List.mem_append.mp hy with hold | hnew
  · exact hlater y hold
  · rw [List.mem_singleton.mp hnew]
    exact ⟨hstores, hclears⟩

theorem sinceCleared_concat (past : List Visit) {v : Visit} (hclears : v.clears = false) :
    sinceCleared (past ++ [v]) = sinceCleared past ++ [v] := by
  refine List.rtakeWhile_concat_pos _ _ v ?_
  simp [hclears]

theorem sinceCleared_concat_of_clears (past : List Visit) {v : Visit} (hclears : v.clears = true) :
    sinceCleared (past ++ [v]) = [] := by
  refine List.rtakeWhile_concat_neg _ _ v ?_
  simp [hclears]

/-- A visit that stores nothing and empties nothing changes the accounts by
its attempt, if it makes one. -/
theorem Accounts.concat_of_keeps {past : List Visit} {store left : Store}
    (h : Accounts past store) {v : Visit} (hstores : v.stores = false) (hclears : v.clears = false)
    (hlive : left.live = store.live)
    (hattempts : left.attempts = store.attempts + if v.attempts then 1 else 0) :
    Accounts (past ++ [v]) left where
  attempts_eq := by
    rw [hattempts, h.attempts_eq, List.countP_append, List.countP_singleton]
  empty_iff := by
    rw [hlive, h.empty_iff, sinceCleared_concat past hclears, List.forall_mem_append]
    simp [hstores]
  isLatest := by
    intro live hsome
    rw [hlive] at hsome
    exact (h.isLatest live hsome).concat hstores hclears
  installed_le := by
    intro n hn
    have hold : n ∈ past.filterMap Visit.installed? := by
      simpa [Visit.installed?, hstores] using hn
    have := h.installed_le n hold
    omega
  installed_lt := by
    simpa [Visit.installed?, hstores] using h.installed_lt

/-- The accounts stay right with every visit. -/
theorem Accounts.concat {past : List Visit} {v : Visit} (h : Accounts past v.before.store) :
    Accounts (past ++ [v]) v.after := by
  cases v.effect with
  | installs live hstores hattempts hclears hoffered hgeneration hafter =>
      have hinstalled : v.installed? = some live.generation := by
        simp [Visit.installed?, hstores, hafter]
      have hcount : (past ++ [v]).countP Visit.attempts = v.before.store.attempts + 1 := by
        simp [hattempts, h.attempts_eq]
      refine ⟨by rw [hafter, hcount], ?_, ?_, ?_, ?_⟩
      · rw [hafter, sinceCleared_concat past hclears]
        simp [hstores]
      · intro found hfound
        rw [hafter] at hfound
        cases hfound
        refine ⟨past, v, [], rfl, hstores, hoffered, ?_, by simp⟩
        rw [hgeneration, h.attempts_eq, Nat.add_comm]
      · intro n hn
        rw [hafter]
        -- All numbers used so far are at most the attempts before, the new one is next.
        rw [List.filterMap_append, List.mem_append] at hn
        rcases hn with hold | hnew
        · exact (h.installed_le n hold).trans (Nat.le_succ _)
        · have hn : n = live.generation := by simpa [hinstalled] using hnew
          rw [hn, hgeneration]
      · rw [List.filterMap_append, List.pairwise_append]
        refine ⟨h.installed_lt, by simp [hinstalled], ?_⟩
        intro n hn m hm
        have hm : m = live.generation := by simpa [hinstalled] using hm
        rw [hm, hgeneration]
        exact Nat.lt_succ_of_le (h.installed_le n hn)
  | isRefused hstores hattempts hclears hafter =>
      exact h.concat_of_keeps hstores hclears (by rw [hafter]) (by simp [hafter, hattempts])
  | empties hstores hattempts hclears hafter =>
      refine ⟨?_, ?_, ?_, ?_, ?_⟩
      · simp [hafter, hattempts, h.attempts_eq]
      · simp [hafter, sinceCleared_concat_of_clears past hclears]
      · simp [hafter]
      · simpa [hafter, Visit.installed?, hstores] using h.installed_le
      · simpa [Visit.installed?, hstores] using h.installed_lt
  | keeps hstores hattempts hclears hafter =>
      exact h.concat_of_keeps hstores hclears (by rw [hafter]) (by simp [hafter, hattempts])

/-- The accounts stay right along a run. -/
theorem Accounts.run {past : List Visit} {store : Store} (h : Accounts past store)
    (moves : List (Move × Workspace)) :
    Accounts (past ++ history store moves) (storeAfter store moves) := by
  induction moves generalizing past store with
  | nil => simpa [history, storeAfter] using h
  | cons first rest ih =>
      obtain ⟨move, around⟩ := first
      -- The past grows at its end while the moves are taken from the front.
      have hnext := ih (Accounts.concat (v := ⟨move, { around with store }⟩) h)
      rw [List.append_assoc] at hnext
      exact hnext

theorem Accounts.fresh : Accounts [] {} where
  attempts_eq := rfl
  empty_iff := by simp [sinceCleared]
  isLatest := by simp
  installed_le := by simp
  installed_lt := by simp

/-- The store after any run of moves from a fresh one. It is empty if and only
if nothing has been stored since it was last emptied; else it holds the units
of the latest visit that stored some, under distinct ids and under the number
after those of all attempts before, and these numbers only grow. It counts all
attempts. Moves that only look leave it alone, and requests that look into the
bundle complain that there is none if and only if it is empty. -/
theorem store_accounts_for_history (moves : List (Move × Workspace)) :
    ((storeAfter {} moves).live = none ↔
      ∀ v ∈ sinceCleared (history {} moves), v.stores = false) ∧
    (∀ live, (storeAfter {} moves).live = some live →
      IsLatest (history {} moves) live ∧ (live.units.map (·.id)).Nodup) ∧
    ((history {} moves).filterMap Visit.installed?).Pairwise (· < ·) ∧
    (storeAfter {} moves).attempts = (history {} moves).countP Visit.attempts ∧
    ∀ v ∈ history {} moves,
      (v.move.onlyLooks = true → v.after = v.before.store) ∧
      ∀ s r, v.move = .request s r → r.needsBundle = true →
        ((∃ e, v.outcome = .error e ∧ e.isNoBundle = true) ↔ v.before.store.live = none) := by
  have haccounts := Accounts.fresh.run moves
  rw [List.nil_append] at haccounts
  refine ⟨haccounts.empty_iff, ?_, haccounts.installed_lt, haccounts.attempts_eq, ?_⟩
  · intro live hlive
    exact ⟨haccounts.isLatest live hlive, live.nodup⟩
  · rintro ⟨move, before⟩ _
    refine ⟨fun hlooks => Move.act_keepsStore hlooks before, ?_⟩
    rintro s r rfl hneeds
    exact r.missesBundle_run s hneeds before

-- An emptied store goes on counting, and an attempt that is refused counts.
example : ((storeAfter {} [(.replace [⟨"a", "a.js", "1"⟩], {}), (.clear, {}),
    (.replace [⟨"b", "b.js", "2"⟩, ⟨"b", "c.js", "3"⟩], {}), (.current, {}),
    (.replace [⟨"b", "b.js", "2"⟩], {})]).live.map (·.generation)) = some 3 := by
  decide

end BundleAtlas
