import BundleAtlas.Proofs.Packed.Fault
import BundleAtlas.Proofs.Tree.First

/-!
The texts that break unpacking. Each packing promises something that its data
may not keep: a string of the table that has an end, a payload in base 64 that
is UTF-8, words that are numbers of the table. What is broken first decides the
fault, and nothing else ends a step with one.
-/

namespace BundleAtlas.Packed

theorem bind_eq_error_iff {ε α β : Type} {x : Except ε α} {f : α → Except ε β} {e : ε} :
    (x >>= f) = .error e ↔ x = .error e ∨ ∃ a, x = .ok a ∧ f a = .error e := by
  cases x with
  | ok a => simp [bind, Except.bind]
  | error e' => simp [bind, Except.bind]

theorem lift_eq_fault_iff {α : Type} {x : Except Fault α} {f : Fault} :
    lift x = .error (.fault f) ↔ x = .error f := by
  cases x with
  | ok a => simp [lift]
  | error e => simp [lift]

namespace StringTable

/-- Characters, read inside a string or outside of strings, that end inside a
string behind a backslash with nothing to take. -/
inductive EndsInEscape : (inside : Bool) → List Char → Prop
  | cut : EndsInEscape true ['\\']
  | escaped {c : Char} {cs : List Char} (h : EndsInEscape true cs) :
      EndsInEscape true ('\\' :: c :: cs)
  | inside {c : Char} {cs : List Char} (hquote : c ≠ '"') (hslash : c ≠ '\\')
      (h : EndsInEscape true cs) : EndsInEscape true (c :: cs)
  | closing {cs : List Char} (h : EndsInEscape false cs) : EndsInEscape true ('"' :: cs)
  | opening {cs : List Char} (h : EndsInEscape true cs) : EndsInEscape false ('"' :: cs)
  | outside {c : Char} {cs : List Char} (hquote : c ≠ '"') (h : EndsInEscape false cs) :
      EndsInEscape false (c :: cs)

/-- One string: it is the one that does not end, or it ends and what is behind
it does not. -/
theorem endsInEscape_word_iff (found cs : List Char) :
    EndsInEscape true cs ↔ match word found cs with
      | none => True
      | some (_, rest) => EndsInEscape false rest := by
  fun_induction word found cs with
  | case1 found => exact iff_of_false nofun nofun
  | case2 found cs =>
      refine ⟨fun h => ?_, .closing⟩
      cases h with
      | closing h => exact h
      | inside hquote => exact absurd rfl hquote
  | case3 => exact iff_of_true .cut trivial
  | case4 found c cs ih =>
      rw [← ih]
      refine ⟨fun h => ?_, .escaped⟩
      cases h with
      | escaped h => exact h
      | inside _ hslash => exact absurd rfl hslash
  | case5 found c cs hquote hcut hslash ih =>
      rw [← ih]
      have hplain : c ≠ '\\' := by
        rintro rfl
        cases cs with
        | nil => exact hcut rfl rfl
        | cons c cs => exact hslash c cs rfl rfl
      refine ⟨fun h => ?_, .inside hquote hplain⟩
      cases h with
      | inside _ _ h => exact h
      | cut | escaped => exact absurd rfl hplain
      | closing => exact absurd rfl hquote

theorem length_word_le {found cs w rest : List Char} (hword : word found cs = some (w, rest)) :
    rest.length ≤ cs.length := by
  fun_induction word found cs with
  | case1 | case2 =>
      cases hword
      simp
  | case3 => cases hword
  | case4 found c cs ih =>
      have hle := ih hword
      simp only [List.length_cons]
      omega
  | case5 found c cs _ _ _ ih =>
      have hle := ih hword
      simp only [List.length_cons]
      omega

/-- With enough steps, reading the strings fails exactly if the last one does
not end. -/
theorem strings_eq_error_iff {steps : Nat} {cs : List Char} (hsteps : cs.length ≤ steps)
    (f : Fault) : strings steps cs = .error f ↔
      EndsInEscape false cs ∧ f = .badIndex "string index out of range" := by
  fun_induction strings steps cs with
  | case1 cs =>
      obtain rfl : cs = [] := List.length_eq_zero_iff.mp (by omega)
      constructor
      · rintro ⟨⟩
      · rintro ⟨⟨⟩, _⟩
  | case2 =>
      constructor
      · rintro ⟨⟩
      · rintro ⟨⟨⟩, _⟩
  | case3 steps cs hword =>
      have hends : EndsInEscape true cs := by
        rw [endsInEscape_word_iff [] cs, hword]
        trivial
      constructor
      · rintro ⟨⟩
        exact ⟨.opening hends, rfl⟩
      · rintro ⟨_, rfl⟩
        rfl
  | case4 steps cs w rest hword ih =>
      have hlength := length_word_le hword
      simp only [List.length_cons] at hsteps
      have hends : EndsInEscape false ('"' :: cs) ↔ EndsInEscape false rest := by
        have hstring := endsInEscape_word_iff [] cs
        rw [hword] at hstring
        refine ⟨fun h => ?_, fun h => .opening (hstring.mpr h)⟩
        cases h with
        | opening h => exact hstring.mp h
        | outside hquote => exact absurd rfl hquote
      rw [bind_eq_error_iff, ih (by omega), hends]
      simp [pure, Except.pure]
  | case5 steps c cs hquote ih =>
      simp only [List.length_cons] at hsteps
      rw [ih (by omega)]
      refine and_congr_left fun _ => ⟨.outside hquote, fun h => ?_⟩
      cases h with
      | outside _ h => exact h
      | opening => exact absurd rfl hquote

theorem length_group_le (found : Pattern.Found) (text : Array Char) (group : Nat) :
    (found.group text group).length ≤ text.size := by
  unfold Pattern.Found.group
  split
  · simp only [Array.length_toList, Array.size_extract]
    omega
  · exact Nat.zero_le _

/-- A text whose array of strings ends inside an escape. -/
def IsBroken (cs : List Char) : Prop :=
  detects cs = true ∧ ∃ found, table.find? cs.toArray = some found ∧
    EndsInEscape false (found.group cs.toArray 2)

theorem unpack_eq_error_iff (cs : List Char) (f : Fault) : unpack cs = .error f ↔
    IsBroken cs ∧ f = .badIndex "string index out of range" := by
  unfold unpack IsBroken
  dsimp only
  cases detects cs with
  | false => simp [pure, Except.pure]
  | true =>
      cases htable : table.find? cs.toArray with
      | none => simp [pure, Except.pure]
      | some found =>
          have hlength : (found.group cs.toArray 2).length ≤ cs.length + 1 :=
            Nat.le_trans (length_group_le found cs.toArray 2) (by simp)
          have hstrings := strings_eq_error_iff hlength f
          simp [bind_eq_error_iff, hstrings, pure, Except.pure]

end StringTable

namespace Reversed

/-- What is wrong with a payload: it is not in base 64, or the bytes that it
stands for are not UTF-8. -/
inductive Unreadable (payload : List Char) : Fault → Prop
  | digits {f : Fault} (hbytes : decode64 {} (Text.Utf8.encode payload.reverse) = .error f) :
      Unreadable payload f
  | bytes {bs : List UInt8} {m : Text.Utf8.Malformed}
      (hbytes : decode64 {} (Text.Utf8.encode payload.reverse) = .ok bs)
      (htext : Text.Utf8.decode bs = .error m) : Unreadable payload (.undecodable m.message)

theorem reveal_eq_error_iff (payload : List Char) (f : Fault) :
    reveal payload = .error f ↔ Unreadable payload f := by
  have htext : ∀ bs : List UInt8, decodeText bs = .error f ↔
      ∃ m, Text.Utf8.decode bs = .error m ∧ Fault.undecodable m.message = f := by
    intro bs
    unfold decodeText
    cases Text.Utf8.decode bs with
    | ok cs => simp
    | error m => simp
  simp only [reveal, bind_eq_error_iff, htext, pure, Except.pure, reduceCtorEq, and_false,
    exists_false, or_false]
  constructor
  · rintro (hbytes | ⟨bs, hbytes, m, hdecode, rfl⟩)
    · exact .digits hbytes
    · exact .bytes hbytes hdecode
  · intro h
    cases h with
    | digits hbytes => exact Or.inl hbytes
    | bytes hbytes hdecode => exact Or.inr ⟨_, hbytes, _, hdecode, rfl⟩

end Reversed

namespace WordTable

/-- The error of a computation that ends with one. -/
def error? {ε α : Type} : Except ε α → Option ε
  | .ok _ => none
  | .error e => some e

theorem error?_eq_some_iff {ε α : Type} {x : Except ε α} {e : ε} :
    error? x = some e ↔ x = .error e := by
  cases x with
  | ok a => simp [error?]
  | error e' => simp [error?]

/-- The words of a payload, in their order. `run` is a part of the first word
that has been passed, the last character first. -/
def wordsBehind (run cs : List Char) : List (List Char) :=
  ((cs.splitOnP (!isWordPart ·)).modifyHead (run.reverse ++ ·)).filter (· ≠ [])

/-- The words of a payload, in their order. -/
def wordsOf (cs : List Char) : List (List Char) :=
  (cs.splitOnP (!isWordPart ·)).filter (· ≠ [])

theorem wordsBehind_nil (cs : List Char) : wordsBehind [] cs = wordsOf cs := by
  have hsame : (cs.splitOnP (!isWordPart ·)).modifyHead ([] ++ ·) = cs.splitOnP (!isWordPart ·) := by
    cases cs.splitOnP (!isWordPart ·) with
    | nil => rfl
    | cons w ws => rfl
  rw [wordsBehind, wordsOf, List.reverse_nil, hsame]

theorem wordsBehind_part {c : Char} (hc : isWordPart c = true) (run cs : List Char) :
    wordsBehind run (c :: cs) = wordsBehind (c :: run) cs := by
  have hpart : ((run.reverse ++ ·) ∘ List.cons c) = ((c :: run).reverse ++ ·) := by
    funext w
    simp
  rw [wordsBehind, List.splitOnP_cons_eq_if_modifyHead, hc, if_neg (by decide),
    List.modifyHead_modifyHead, hpart, wordsBehind]

theorem wordsBehind_other {c : Char} (hc : isWordPart c = false) (run cs : List Char) :
    wordsBehind run (c :: cs) =
      if run.isEmpty then wordsOf cs else run.reverse :: wordsOf cs := by
  rw [wordsBehind, List.splitOnP_cons_eq_if_modifyHead, hc, if_pos (by decide),
    List.modifyHead_cons, List.append_nil, wordsOf]
  cases run with
  | nil => rfl
  | cons c run => simp

/-- Replacing fails as the first word does that has no replacement. -/
theorem error?_replaceWords (replacement : List Char → Except Fault (List Char))
    (run cs : List Char) : error? (replaceWords replacement run cs) =
      (wordsBehind run cs).findSome? fun w => error? (replacement w) := by
  -- the word that has been begun goes along, until a character ends it
  induction cs generalizing run with
  | nil =>
      unfold replaceWords
      cases run with
      | nil => rfl
      | cons c run =>
          have hword : wordsBehind (c :: run) [] = [(c :: run).reverse] := by
            simp [wordsBehind, List.splitOnP_nil]
          simp [hword]
  | cons c cs ih =>
      rw [replaceWords]
      cases hc : isWordPart c with
      | true => rw [if_pos rfl, ih, wordsBehind_part hc]
      | false =>
          have hrest := ih []
          rw [wordsBehind_nil] at hrest
          rw [if_neg (by decide), wordsBehind_other hc]
          cases run with
          | nil =>
              change error? (replaceWords replacement [] cs >>= _) = (wordsOf cs).findSome? _
              rw [← hrest]
              cases replaceWords replacement [] cs <;> rfl
          | cons d run =>
              change error? (replacement (d :: run).reverse >>= _) =
                ((d :: run).reverse :: wordsOf cs).findSome? _
              rw [List.findSome?_cons, ← hrest]
              cases replacement (d :: run).reverse with
              | error e => rfl
              | ok w => cases replaceWords replacement [] cs <;> rfl

/-- What is wrong with a word of a payload: it is no number of the base, be it
for its characters or for the number of its digits, or the table has no word for
the number. Where the digits have places, the last of them is read first. -/
inductive BrokenWord (p : Packing) (w : List Char) : Fault → Prop
  | numeral {e : Text.NumeralError} (hbase : 2 ≤ p.base ∧ p.base ≤ 36)
      (hword : Text.integer p.base w = .error e) :
      BrokenWord p w (.badValue (e.message p.base w))
  | digit {digits before behind : List Char} {c : Char} (hdigits : digits? p.base = some digits)
      (hword : w = before ++ c :: behind) (hbehind : ∀ d ∈ behind, d ∈ digits)
      (hc : c ∉ digits) : BrokenWord p w (.badKey (Text.quoted (String.ofList [c])))
  | missing {read : List Char → Except Fault Nat} {n : Nat} (hread : reader? p.base = some read)
      (hnumber : read w = .ok n) (hn : p.words.length ≤ n) :
      BrokenWord p w (.badIndex (outOfTable n))

/-- The digits are read up to the first one that is none of the base. -/
theorem weigh_eq_error_iff (base : Nat) (digits : List Char) (weight : Nat) (cs : List Char)
    (f : Fault) : weigh base digits weight cs = .error f ↔
      ∃ before c behind, cs = before ++ c :: behind ∧ (∀ d ∈ before, d ∈ digits) ∧ c ∉ digits ∧
        f = .badKey (Text.quoted (String.ofList [c])) := by
  fun_induction weigh base digits weight cs with
  | case1 => simp
  | case2 weight c cs hnone =>
      have hc : c ∉ digits := List.idxOf?_eq_none_iff.mp hnone
      constructor
      · rintro ⟨⟩
        exact ⟨[], c, cs, rfl, by simp, hc, rfl⟩
      · rintro ⟨before, d, behind, hcs, hbefore, hd, rfl⟩
        cases before with
        | nil =>
            cases hcs
            rfl
        | cons b before =>
            cases hcs
            exact absurd (hbefore c List.mem_cons_self) hc
  | case3 weight c cs v hsome ih =>
      have hc : c ∈ digits := by simpa using congrArg Option.isSome hsome
      rw [bind_eq_error_iff, ih]
      simp only [pure, Except.pure, reduceCtorEq, and_false, exists_false, or_false]
      constructor
      · rintro ⟨before, d, behind, rfl, hbefore, hd, rfl⟩
        refine ⟨c :: before, d, behind, rfl, ?_, hd, rfl⟩
        exact List.forall_mem_cons.mpr ⟨hc, hbefore⟩
      · rintro ⟨before, d, behind, hcs, hbefore, hd, rfl⟩
        cases before with
        | nil =>
            cases hcs
            exact absurd hc hd
        | cons b before =>
            cases hcs
            exact ⟨before, d, behind, rfl, (List.forall_mem_cons.mp hbefore).2, hd, rfl⟩

theorem read_eq_error_iff {base : Nat} {read : List Char → Except Fault Nat}
    (hread : reader? base = some read) (w : List Char) (f : Fault) : read w = .error f ↔
      (2 ≤ base ∧ base ≤ 36) ∧ (∃ e, Text.integer base w = .error e ∧
        f = .badValue (e.message base w)) ∨
      ∃ digits before c behind, digits? base = some digits ∧ w = before ++ c :: behind ∧
        (∀ d ∈ behind, d ∈ digits) ∧ c ∉ digits ∧
        f = .badKey (Text.quoted (String.ofList [c])) := by
  unfold reader? at hread
  -- up to 36 a word is read as a numeral, above by the places of its digits
  by_cases hbase : 2 ≤ base ∧ base ≤ 36
  · have hnone : digits? base = none := by
      rw [digits?, if_neg (by simp; omega), if_neg (by simp; omega)]
    rw [if_pos (by simpa using hbase)] at hread
    cases hread
    dsimp only
    cases Text.integer base w with
    | error e => simp [hbase, hnone, eq_comm]
    | ok n => simp [hnone]
  · rw [if_neg (by simpa using hbase)] at hread
    obtain ⟨digits, hdigits, rfl⟩ := Option.map_eq_some_iff.mp hread
    rw [weigh_eq_error_iff]
    constructor
    · rintro ⟨before, c, behind, hword, hbefore, hc, rfl⟩
      refine Or.inr ⟨digits, behind.reverse, c, before.reverse, hdigits, ?_, ?_, hc, rfl⟩
      · rw [← List.reverse_inj, hword]
        simp
      · simpa using hbefore
    · rintro (⟨h, _⟩ | ⟨digits', before, c, behind, hdigits', rfl, hbehind, hc, rfl⟩)
      · exact absurd h hbase
      · rw [hdigits] at hdigits'
        cases hdigits'
        refine ⟨behind.reverse, c, before.reverse, ?_, ?_, hc, rfl⟩
        · simp
        · simpa using hbehind

theorem look_eq_error_iff {p : Packing} {read : List Char → Except Fault Nat}
    (hread : reader? p.base = some read) (w : List Char) (f : Fault) :
    look read p.words.toArray w = .error f ↔ BrokenWord p w f := by
  have hnumber : look read p.words.toArray w = .error f ↔ read w = .error f ∨
      ∃ n, read w = .ok n ∧ p.words.length ≤ n ∧ f = .badIndex (outOfTable n) := by
    rw [look, bind_eq_error_iff]
    refine or_congr_right (exists_congr fun n => and_congr_right fun _ => ?_)
    cases hfound : p.words.toArray[n]? with
    | none =>
        have hlength : p.words.length ≤ n := by simpa using hfound
        simp [hlength, eq_comm]
    | some word =>
        have hlength : n < p.words.length := by
          obtain ⟨hlt, _⟩ := Array.getElem?_eq_some_iff.mp hfound
          simpa using hlt
        refine iff_of_false ?_ fun h => absurd h.1 (by omega)
        cases word <;> exact nofun
  rw [hnumber, read_eq_error_iff hread]
  constructor
  · rintro ((⟨hbase, e, hword, rfl⟩ |
      ⟨digits, before, c, behind, hdigits, hword, hbehind, hc, rfl⟩) | ⟨n, hn, hlength, rfl⟩)
    · exact .numeral hbase hword
    · exact .digit hdigits hword hbehind hc
    · exact .missing hread hn hlength
  · intro h
    cases h with
    | numeral hbase hword => exact Or.inl (Or.inl ⟨hbase, _, hword, rfl⟩)
    | digit hdigits hword hbehind hc =>
        exact Or.inl (Or.inr ⟨_, _, _, _, hdigits, hword, hbehind, hc, rfl⟩)
    | missing hread' hn hlength =>
        rw [hread] at hread'
        cases hread'
        exact Or.inr ⟨_, hn, hlength, rfl⟩

/-- The payload of a packing, with its escapes undone. -/
def Packing.plainPayload (p : Packing) : List Char :=
  Text.replace ['\\', '\''] ['\''] (Text.replace ['\\', '\\'] ['\\'] p.payload)

theorem replaceWords_payload_eq_error_iff {p : Packing} {read : List Char → Except Fault Nat}
    (hreader : reader? p.base = some read) (f : Fault) :
    replaceWords (look read p.words.toArray) [] p.plainPayload = .error f ↔
      ∃ before w, IsFirst (fun w => ∃ g, BrokenWord p w g) (wordsOf p.plainPayload) before w ∧
        BrokenWord p w f := by
  rw [← error?_eq_some_iff, error?_replaceWords, wordsBehind_nil, findSome?_eq_some_iff_isFirst]
  simp only [error?_eq_some_iff, look_eq_error_iff hreader]

/-- A text with a packing of the announced size, in which a word is broken; the
first one gives the fault. -/
def IsBroken (cs : List Char) (f : Fault) : Prop :=
  ∃ p, packing? cs.toArray = some (.ok p) ∧ p.count = p.words.length ∧
    (reader? p.base).isSome = true ∧
    ∃ before w, IsFirst (fun w => ∃ g, BrokenWord p w g) (wordsOf p.plainPayload) before w ∧
      BrokenWord p w f

theorem unpack_of_packing {frame : Frame} {cs : List Char} {p : Packing}
    {read : List Char → Except Fault Nat} (hpacking : packing? cs.toArray = some (.ok p))
    (hcount : p.count = p.words.length) (hreader : reader? p.base = some read) :
    unpack frame cs = (do
      return replaceStrings frame
        (← lift (replaceWords (look read p.words.toArray) [] p.plainPayload))) := by
  unfold unpack
  rw [hpacking]
  dsimp only
  rw [if_neg (by simp [hcount]), hreader]
  rfl

theorem unpack_eq_fault_iff (frame : Frame) (cs : List Char) (f : Fault) :
    unpack frame cs = .error (.fault f) ↔ IsBroken cs f := by
  rcases hpacking : packing? cs.toArray with _ | (e | p)
  · simp [unpack, IsBroken, hpacking]
  · simp [unpack, IsBroken, hpacking]
  · by_cases hcount : p.count = p.words.length
    · cases hreader : reader? p.base with
      | none => simp [unpack, IsBroken, hpacking, hcount, hreader]
      | some read =>
          rw [unpack_of_packing hpacking hcount hreader, bind_eq_error_iff, lift_eq_fault_iff,
            replaceWords_payload_eq_error_iff hreader]
          simp [IsBroken, hpacking, hcount, hreader, pure, Except.pure]
    · simp [unpack, IsBroken, hpacking, hcount]

end WordTable

theorem Reversed.unpack_eq_fault_iff (cs : List Char) (f : Fault) :
    Reversed.unpack cs = .error (.fault f) ↔
      detects cs = true ∧ ∃ payload, payload? cs.toArray = some payload ∧ Unreadable payload f := by
  unfold Reversed.unpack
  cases detects cs with
  | false => simp [pure, Except.pure]
  | true =>
      cases payload? cs.toArray with
      | none => simp
      | some payload =>
          simp [bind_eq_error_iff, lift_eq_fault_iff, reveal_eq_error_iff, pure, Except.pure]

/-- A text without the percent signs that it looks written in. -/
def withoutPercent (cs : List Char) : List Char :=
  if Percent.detects cs then Percent.unpack cs else cs

/-- That text with its strings back in their places. -/
def withStrings (cs : List Char) : Except UnpackError (List Char) :=
  if StringTable.detects cs then lift (StringTable.unpack (withoutPercent cs))
  else pure (withoutPercent cs)

/-- That text turned around again. -/
def turnedBack (cs : List Char) : Except UnpackError (List Char) := do
  let b ← withStrings cs
  if Reversed.detects cs then Reversed.unpack b else pure b

/-- That text with the words for its numbers. -/
def withWords (cs : List Char) : Except UnpackError (List Char) := do
  let c ← turnedBack cs
  match WordTable.frame? cs with
  | some frame => WordTable.unpack frame c
  | none => pure c

theorem unpack_eq (text : String) : unpack text = String.ofList <$> withWords text.toList := by
  unfold unpack withWords turnedBack withStrings withoutPercent
  dsimp only
  generalize StringTable.detects text.toList = hasStrings
  generalize Reversed.detects text.toList = isReversed
  generalize WordTable.frame? text.toList = frame
  cases hasStrings <;> cases isReversed <;> cases frame <;>
    simp only [Bool.false_eq_true, if_false, if_true, map_eq_pure_bind, bind_assoc, pure_bind]

/-- How a text breaks unpacking: by the array of its strings, by the payload
that it holds backwards, or by a word. Each is looked at in the text that the
packings before have left. -/
inductive Breaks (cs : List Char) : Fault → Prop
  | string (hdetects : StringTable.detects cs = true)
      (hbroken : StringTable.IsBroken (withoutPercent cs)) :
      Breaks cs (.badIndex "string index out of range")
  | payload {b payload : List Char} {f : Fault} (hdetects : Reversed.detects cs = true)
      (hb : withStrings cs = .ok b) (hdecoder : Reversed.detects b = true)
      (hpayload : Reversed.payload? b.toArray = some payload)
      (hunreadable : Reversed.Unreadable payload f) : Breaks cs f
  | word {c : List Char} {frame : WordTable.Frame} {f : Fault}
      (hframe : WordTable.frame? cs = some frame) (hc : turnedBack cs = .ok c)
      (hbroken : WordTable.IsBroken c f) : Breaks cs f

theorem withStrings_eq_fault_iff (cs : List Char) (f : Fault) :
    withStrings cs = .error (.fault f) ↔ StringTable.detects cs = true ∧
      StringTable.IsBroken (withoutPercent cs) ∧ f = .badIndex "string index out of range" := by
  unfold withStrings
  split
  · rename_i hdetects
    simp [hdetects, lift_eq_fault_iff, StringTable.unpack_eq_error_iff]
  · rename_i hdetects
    simp [hdetects, pure, Except.pure]

theorem turnedBack_eq_fault_iff (cs : List Char) (f : Fault) :
    turnedBack cs = .error (.fault f) ↔ withStrings cs = .error (.fault f) ∨
      ∃ b, withStrings cs = .ok b ∧ Reversed.detects cs = true ∧
        Reversed.unpack b = .error (.fault f) := by
  rw [turnedBack, bind_eq_error_iff]
  refine or_congr_right (exists_congr fun b => and_congr_right fun _ => ?_)
  split
  · rename_i hdetects
    simp [hdetects]
  · rename_i hdetects
    simp [hdetects, pure, Except.pure]

theorem withWords_eq_fault_iff (cs : List Char) (f : Fault) :
    withWords cs = .error (.fault f) ↔ turnedBack cs = .error (.fault f) ∨
      ∃ c, turnedBack cs = .ok c ∧ ∃ frame, WordTable.frame? cs = some frame ∧
        WordTable.IsBroken c f := by
  rw [withWords, bind_eq_error_iff]
  refine or_congr_right (exists_congr fun c => and_congr_right fun _ => ?_)
  cases WordTable.frame? cs with
  | none => simp [pure, Except.pure]
  | some frame => simp [WordTable.unpack_eq_fault_iff]

/-- Unpacking ends with a fault exactly if the text breaks it. -/
theorem unpack_eq_fault_iff (text : String) (f : Fault) :
    unpack text = .error (.fault f) ↔ Breaks text.toList f := by
  have hlast : unpack text = .error (.fault f) ↔ withWords text.toList = .error (.fault f) := by
    rw [unpack_eq]
    cases withWords text.toList with
    | ok d => exact iff_of_false nofun nofun
    | error e => simp [Functor.map, Except.map]
  rw [hlast, withWords_eq_fault_iff, turnedBack_eq_fault_iff, withStrings_eq_fault_iff]
  simp only [Reversed.unpack_eq_fault_iff]
  constructor
  · rintro ((⟨hdetects, hbroken, rfl⟩ |
      ⟨b, hb, hdetects, hdecoder, payload, hpayload, hunreadable⟩) | ⟨c, hc, frame, hframe, hbroken⟩)
    · exact .string hdetects hbroken
    · exact .payload hdetects hb hdecoder hpayload hunreadable
    · exact .word hframe hc hbroken
  · intro h
    cases h with
    | string hdetects hbroken => exact Or.inl (Or.inl ⟨hdetects, hbroken, rfl⟩)
    | payload hdetects hb hdecoder hpayload hunreadable =>
        exact Or.inl (Or.inr ⟨_, hb, hdetects, hdecoder, _, hpayload, hunreadable⟩)
    | word hframe hc hbroken => exact Or.inr ⟨_, hc, _, hframe, hbroken⟩

end BundleAtlas.Packed
