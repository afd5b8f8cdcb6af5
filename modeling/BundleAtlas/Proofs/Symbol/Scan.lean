import BundleAtlas.Proofs.Symbol.Skipped
import BundleAtlas.Proofs.Symbol.Visitors

/-!
Scans over units with a limit. A scan stops before a unit once it has enough
symbols; as the last unit that is read may bring too many, the list is cut at
the end. The units that are read are a first part of all units, and behind it
the limit is reached, so that nothing below the limit is lost. The units that
are reported are those of the part that was read.
-/

namespace BundleAtlas

open CallGraph (report? report?_eq_some_iff)

/-- The symbols of a unit; none if it cannot be read. -/
def unitSymbols (parse : Parse) (u : Piece) : List SymbolEntry :=
  match parse u.text with
  | .ok p => collectSymbols u p
  | .error _ => []

/-- The first items up to a limit; without one, all of them. A limit below zero
leaves nothing. -/
def upTo {α : Type} (limit : Option Int) (xs : List α) : List α :=
  match limit with
  | none => xs
  | some n => xs.take (max 0 n).toNat

/-- Whether units have fewer symbols together than a limit. -/
def belowLimit (parse : Parse) (limit : Option Int) (units : List Piece) : Bool :=
  limit.all fun n => ((units.flatMap (unitSymbols parse)).length : Int) < n

/-- The units before which fewer symbols than a limit have come up. -/
def unitsBelow (parse : Parse) (limit : Option Int) (units : List Piece) : List Piece :=
  units.zipIdx.filterMap fun (u, i) =>
    if belowLimit parse limit (units.take i) then some u else none

/-- What is known when some units have been read from the first to the last. -/
def inventoryOf (parse : Parse) (units : List Piece) : Inventory :=
  ⟨units.flatMap (unitSymbols parse), units.filterMap (report? parse)⟩

variable {parse : Parse} {limit : Option Int}

theorem unitSymbols_of_error {u : Piece} {e : Fault} (herror : parse u.text = .error e) :
    unitSymbols parse u = [] := by
  rw [unitSymbols, herror]

/-- Behind more units there are no fewer symbols. -/
theorem belowLimit_mono {before units : List Piece} (hfirst : before <+: units)
    (hbelow : belowLimit parse limit units = true) : belowLimit parse limit before = true := by
  obtain ⟨behind, rfl⟩ := hfirst
  cases limit with
  | none => rfl
  | some n =>
      simp only [belowLimit, Option.all_some, decide_eq_true_eq, List.flatMap_append,
        List.length_append] at hbelow ⊢
      omega

/-- One step of a scan: below the limit the next unit is read, and else the
scan is over. -/
theorem scanFrom_step (before : List Piece) (u : Piece) (us : List Piece) :
    scanFrom parse limit (inventoryOf parse before) (u :: us) =
      if belowLimit parse limit before then
        scanFrom parse limit (inventoryOf parse (before ++ [u])) us
      else inventoryOf parse before := by
  have hlimit : (limit.any fun n => n ≤ ((inventoryOf parse before).symbols.length : Int)) =
      !belowLimit parse limit before := by
    cases limit with
    | none => rfl
    | some n =>
        rw [Bool.eq_iff_iff]
        simp [belowLimit, inventoryOf]
  rw [scanFrom, hlimit]
  cases belowLimit parse limit before with
  | false => rfl
  | true =>
      cases hparse : parse u.text with
      | ok p =>
          have hnone : report? parse u = none := by
            refine Option.eq_none_iff_forall_not_mem.mpr fun r hr => ?_
            obtain ⟨e, herror, _⟩ := report?_eq_some_iff.mp hr
            rw [hparse] at herror
            cases herror
          simp [inventoryOf, unitSymbols, hparse, hnone]
      | error e =>
          have hreport : report? parse u = some ⟨u.id, e.text⟩ :=
            report?_eq_some_iff.mpr ⟨e, hparse, rfl⟩
          simp [inventoryOf, unitSymbols, hparse, hreport]

/-- A whole scan, on top of units that have been read before: it reads a first
part of the units, with room for more before each of them, and stops at the end
or where the limit is reached. -/
theorem exists_scanFrom_eq (parse : Parse) (limit : Option Int) (before units : List Piece) :
    ∃ taken left, units = taken ++ left ∧
      scanFrom parse limit (inventoryOf parse before) units =
        inventoryOf parse (before ++ taken) ∧
      (∀ i < taken.length, belowLimit parse limit (before ++ taken.take i) = true) ∧
      (left = [] ∨ belowLimit parse limit (before ++ taken) = false) := by
  induction units generalizing before with
  | nil =>
      refine ⟨[], [], rfl, ?_, by simp, Or.inl rfl⟩
      rw [scanFrom, List.append_nil]
  | cons u us ih =>
      rw [scanFrom_step]
      cases hbelow : belowLimit parse limit before with
      | false => exact ⟨[], u :: us, rfl, by simp, by simp, Or.inr (by simpa using hbelow)⟩
      | true =>
          obtain ⟨taken, left, rfl, hscan, hroom, hstop⟩ := ih (before ++ [u])
          refine ⟨u :: taken, left, rfl, ?_, ?_, ?_⟩
          · simpa using hscan
          · intro i hi
            cases i with
            | zero => simpa using hbelow
            | succ i =>
                rw [List.length_cons] at hi
                simpa using hroom i (by omega)
          · simpa using hstop

theorem symbols_of_scanFrom {units : List Piece} {found : Inventory}
    (hscan : scanFrom parse limit ⟨[], []⟩ units = found) :
    (scanSymbols parse units limit).symbols = upTo limit found.symbols := by
  unfold scanSymbols
  rw [hscan]
  cases limit with
  | none => rfl
  | some n =>
      have hsame : (max 0 n).toNat = n.toNat := by omega
      simp only [upTo, hsame]

/-- The symbols of a scan are the first ones of all units. -/
theorem symbols_scanSymbols (parse : Parse) (limit : Option Int) (units : List Piece) :
    (scanSymbols parse units limit).symbols = upTo limit (units.flatMap (unitSymbols parse)) := by
  obtain ⟨taken, left, rfl, hscan, _, hstop⟩ := exists_scanFrom_eq parse limit [] units
  rw [symbols_of_scanFrom hscan, inventoryOf, List.nil_append, List.flatMap_append]
  rcases hstop with rfl | hfull
  · rw [List.flatMap_nil, List.append_nil]
  · cases limit with
    | none => cases hfull
    | some n =>
        -- What was read reaches the limit, so the rest stands behind the cut.
        have hreached : n ≤ ((taken.flatMap (unitSymbols parse)).length : Int) := by
          simpa [belowLimit] using hfull
        have hlength : (max 0 n).toNat ≤ (taken.flatMap (unitSymbols parse)).length := by omega
        rw [upTo, upTo, List.take_append_of_le_length hlength]

theorem unitsBelow_eq {taken left : List Piece}
    (hroom : ∀ i < taken.length, belowLimit parse limit (taken.take i) = true)
    (hstop : left = [] ∨ belowLimit parse limit taken = false) :
    unitsBelow parse limit (taken ++ left) = taken := by
  have htaken : (taken.zipIdx.filterMap fun (u, i) =>
      if belowLimit parse limit ((taken ++ left).take i) then some u else none) = taken := by
    calc
      _ = taken.zipIdx.filterMap fun (u, _) => some u := by
        refine List.filterMap_congr ?_
        rintro ⟨u, i⟩ hmem
        have hi : i < taken.length := by simpa using List.snd_lt_of_mem_zipIdx hmem
        dsimp only
        rw [List.take_append_of_le_length (by omega), hroom i hi, if_pos rfl]
      _ = taken := by simp
  have hleft : ((left.zipIdx taken.length).filterMap fun (u, i) =>
      if belowLimit parse limit ((taken ++ left).take i) then some u else none) = [] := by
    refine List.filterMap_eq_nil_iff.mpr ?_
    rintro ⟨u, i⟩ hmem
    have hi : taken.length ≤ i := List.le_snd_of_mem_zipIdx hmem
    rcases hstop with rfl | hfull
    · cases hmem
    · have hfirst : taken <+: (taken ++ left).take i := by
        rw [List.take_append, List.take_of_length_le hi]
        exact List.prefix_append _ _
      refine if_neg fun hbelow => ?_
      rw [belowLimit_mono hfirst hbelow] at hfull
      cases hfull
  rw [unitsBelow, List.zipIdx_append, List.filterMap_append, Nat.zero_add, htaken, hleft,
    List.append_nil]

/-- The reports of a scan are those of the units before which it had too few
symbols. -/
theorem skipped_scanSymbols (parse : Parse) (limit : Option Int) (units : List Piece) :
    (scanSymbols parse units limit).skipped =
      (unitsBelow parse limit units).filterMap (report? parse) := by
  obtain ⟨taken, left, rfl, hscan, hroom, hstop⟩ :=
    exists_scanFrom_eq parse limit [] units
  change scanFrom parse limit ⟨[], []⟩ (taken ++ left) = inventoryOf parse taken at hscan
  unfold scanSymbols
  rw [unitsBelow_eq hroom hstop, hscan]
  cases limit with
  | none => rfl
  | some n => rfl

theorem upTo_mono {α : Type} (xs : List α) {m n : Int} (hle : m ≤ n) :
    upTo (some m) xs <+: upTo (some n) xs :=
  List.take_prefix_take_left (by omega)

/-- A scan gives the first symbols of all units that can be read, in their
order, up to the limit, and reports exactly the units that cannot be read among
those before which it had fewer symbols than the limit, each time one occurs.
Hence the symbols are the same without a unit that cannot be read, and a lower
limit gives a first part of what a higher one, or none, gives. -/
theorem scan_gives_first_symbols (parse : Parse) (units : List Piece) :
    (∀ limit : Option Int,
      (scanSymbols parse units limit).symbols = upTo limit (units.flatMap (unitSymbols parse)) ∧
      Gathers (Reports parse) (unitsBelow parse limit units)
        (scanSymbols parse units limit).skipped ∧
      ∀ before u behind e, units = before ++ u :: behind → parse u.text = .error e →
        (scanSymbols parse units limit).symbols =
          (scanSymbols parse (before ++ behind) limit).symbols) ∧
    (∀ m n : Int, m ≤ n →
      (scanSymbols parse units (some m)).symbols <+: (scanSymbols parse units (some n)).symbols) ∧
    ∀ n : Int,
      (scanSymbols parse units (some n)).symbols <+: (scanSymbols parse units none).symbols := by
  refine ⟨?_, ?_, ?_⟩
  · intro limit
    refine ⟨symbols_scanSymbols parse limit units, ?_, ?_⟩
    · rw [skipped_scanSymbols]
      exact CallGraph.gathers_reports parse _
    · rintro before u behind e rfl herror
      simp only [symbols_scanSymbols, List.flatMap_append, List.flatMap_cons,
        unitSymbols_of_error herror, List.nil_append]
  · intro m n hle
    rw [symbols_scanSymbols, symbols_scanSymbols]
    exact upTo_mono _ hle
  · intro n
    rw [symbols_scanSymbols, symbols_scanSymbols]
    exact List.take_prefix _ _

/-- A reader of the document `let go; function go() {}` and of nothing else. -/
def readGoBoundTwice : Parse := fun text =>
  if text = "let go; function go() \x7b\x7d" then .ok goBoundTwice
  else .error (unexpectedToken ⟨0, 0, 0⟩)

/-- That document twice under one id, each time behind a unit that cannot be read. -/
def goBetweenGaps : List Piece :=
  [⟨"0", "0.js", ")"⟩, ⟨"1", "1.js", "let go; function go() \x7b\x7d"⟩, ⟨"0", "0.js", ")"⟩,
    ⟨"1", "1.js", "let go; function go() \x7b\x7d"⟩]

theorem scan_gives_first_symbols_goBetweenGaps :
    readGoBoundTwice ")" = .error (unexpectedToken ⟨0, 0, 0⟩) ∧
    (scanSymbols readGoBoundTwice goBetweenGaps (some 1)).symbols =
      (scanSymbols readGoBoundTwice (goBetweenGaps.drop 1) (some 1)).symbols ∧
    (scanSymbols readGoBoundTwice goBetweenGaps (some 1)).symbols <+:
      (scanSymbols readGoBoundTwice goBetweenGaps (some 2)).symbols := by
  obtain ⟨hlimits, hgrowing, _⟩ := scan_gives_first_symbols readGoBoundTwice goBetweenGaps
  have hunread : readGoBoundTwice ")" = .error (unexpectedToken ⟨0, 0, 0⟩) := by
    simp [readGoBoundTwice]
  exact ⟨hunread, (hlimits (some 1)).2.2 [] _ _ _ rfl hunread, hgrowing 1 2 (by decide)⟩

-- With one symbol to find, the scan ends before the second gap.
example : (scanSymbols readGoBoundTwice goBetweenGaps (some 1)).skipped.length = 1 ∧
    (scanSymbols readGoBoundTwice goBetweenGaps (some 2)).skipped.length = 2 ∧
    (scanSymbols readGoBoundTwice goBetweenGaps (some (-1))).skipped = [] := by
  decide +kernel

end BundleAtlas
