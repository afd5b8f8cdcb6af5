import Mathlib.Data.List.Pairwise
import BundleAtlas.Proofs.Bundle.ObjectKeys
import BundleAtlas.Proofs.Grammar.LaidOut
import BundleAtlas.Proofs.Symbol.Extent

/-!
Where the units of a bundle stand in its text. Each is cut out of the body of
its function, between the braces if that is a block, and without the white
space around it. The functions are values of one table, in a row in an array
and inside of members in a row in an object, so that no two units share a
character, also where a key was given more than once.
-/

namespace BundleAtlas

namespace Text

/-- A text without white space at its ends. -/
structure IsTrimmed (s : String) : Prop where
  first : ∀ c, s.toList.head? = some c → isSpace c = false
  last : ∀ c, s.toList.getLast? = some c → isSpace c = false

/-- A text of white space only. -/
def IsBlank (s : String) : Prop := ∀ c ∈ s.toList, isSpace c = true

/-- A text that starts with an opening brace and ends with a closing one. -/
def IsBraced (s : String) : Prop := ∃ cs, s.toList = '\x7b' :: cs ++ ['\x7d']

theorem isSpace_of_head?_dropWhile {cs : List Char} {c : Char}
    (hc : (cs.dropWhile isSpace).head? = some c) : isSpace c = false := by
  have hnot := List.head?_dropWhile_not isSpace cs
  rw [hc] at hnot
  simpa using hnot

/-- What is trimmed off at the two ends is white space. -/
theorem exists_trim_eq (cs : List Char) : ∃ front back, cs = front ++ trim cs ++ back ∧
    (∀ c ∈ front, isSpace c = true) ∧ ∀ c ∈ back, isSpace c = true := by
  let rest := cs.dropWhile isSpace
  refine ⟨cs.takeWhile isSpace, (rest.reverse.takeWhile isSpace).reverse, ?_, ?_, ?_⟩
  · have hrest : trim cs ++ (rest.reverse.takeWhile isSpace).reverse = rest := by
      rw [trim, ← List.reverse_append, List.takeWhile_append_dropWhile, List.reverse_reverse]
    rw [List.append_assoc, hrest, List.takeWhile_append_dropWhile]
  · exact fun c hc => List.mem_takeWhile_imp hc
  · exact fun c hc => List.mem_takeWhile_imp (List.mem_reverse.mp hc)

theorem isTrimmed_strip (s : String) : IsTrimmed (strip s) := by
  let rest := s.toList.dropWhile isSpace
  have hstrip : (strip s).toList = (rest.reverse.dropWhile isSpace).reverse := by
    rw [strip, String.toList_ofList, trim]
  constructor
  · intro c hc
    have hfirst : (strip s).toList <+: rest := by
      rw [hstrip, ← List.reverse_suffix, List.reverse_reverse]
      exact List.dropWhile_suffix isSpace
    obtain ⟨back, hback⟩ := hfirst
    have hhead : rest.head? = some c := by rw [← hback, List.head?_append, hc, Option.some_or]
    exact isSpace_of_head?_dropWhile hhead
  · intro c hc
    rw [hstrip, List.getLast?_reverse] at hc
    exact isSpace_of_head?_dropWhile hc

end Text

namespace Source

variable {src : Source} {lo hi : Nat}

theorem length_slice (src : Source) (hle : lo ≤ hi) (hhi : hi ≤ src.chars.size) :
    (src.slice lo hi).toList.length = hi - lo := by
  rw [toList_slice, List.length_take, List.length_drop, Array.length_toList]
  omega

/-- A slice inside of another one. -/
theorem slice_inside (src : Source) {a b : Nat} (hlo : lo ≤ a) (hhi : b ≤ hi) :
    (src.slice a b).toList = ((src.slice lo hi).toList.drop (a - lo)).take (b - a) := by
  rw [toList_slice, toList_slice, List.drop_take, List.drop_drop, List.take_take]
  congr 1
  · omega
  · congr 1
    omega

/-- The parts of a slice are slices. -/
theorem slice_of_append (hle : lo ≤ hi) (hhi : hi ≤ src.chars.size) {front middle back : List Char}
    (hslice : (src.slice lo hi).toList = front ++ middle ++ back) :
    lo + front.length + middle.length + back.length = hi ∧
    (src.slice lo (lo + front.length)).toList = front ∧
    (src.slice (lo + front.length) (lo + front.length + middle.length)).toList = middle ∧
    (src.slice (lo + front.length + middle.length) hi).toList = back := by
  have hlength := src.length_slice hle hhi
  rw [hslice, List.length_append, List.length_append] at hlength
  refine ⟨by omega, ?_, ?_, ?_⟩
  · rw [src.slice_inside (Nat.le_refl lo) (by omega : lo + front.length ≤ hi), hslice]
    simp
  · rw [src.slice_inside (by omega : lo ≤ lo + front.length)
      (by omega : lo + front.length + middle.length ≤ hi), hslice]
    simp
  · rw [src.slice_inside (by omega : lo ≤ lo + front.length + middle.length) (Nat.le_refl hi),
      hslice]
    have hdrop : lo + front.length + middle.length - lo = (front ++ middle).length := by
      rw [List.length_append]
      omega
    have htake : hi - (lo + front.length + middle.length) = back.length := by omega
    rw [hdrop, htake, List.drop_left, List.take_length]

end Source

namespace Split

/-- What a body holds, between two offsets: all of it, and of a block what is
left without its first and its last character, which are its braces if it is
written with them. -/
structure Holds (src : Source) (body : Node) (lo hi : Nat) : Prop where
  order : lo ≤ hi
  inside : body.start.offset ≤ lo ∧ hi ≤ body.stop.offset
  whole : body.kind ≠ .statementBlock → src.slice lo hi = src.text body
  block : body.kind = .statementBlock → src.slice lo hi = Text.inner (src.text body)
  braces : body.kind = .statementBlock → Text.IsBraced (src.text body) →
    lo = body.start.offset + 1 ∧ hi + 1 = body.stop.offset ∧
      src.text body = "\x7b" ++ src.slice lo hi ++ "\x7d"

/-- A unit with the function that it comes from and the offsets that it stands
between. -/
structure Cut where
  unit : Piece
  factory : Node
  start : Nat
  stop : Nat

/-- The unit of an entry is cut out of the text of a bundle. -/
structure Cut.Of (src : Source) (entry : String × Node) (cut : Cut) : Prop where
  id : cut.unit.id = entry.1
  path : cut.unit.path = Split.path entry.1
  factory : IsFactory entry.2 cut.factory
  text : cut.unit.text = src.slice cut.start cut.stop
  trimmed : Text.IsTrimmed cut.unit.text
  order : cut.start ≤ cut.stop ∧ cut.stop ≤ src.chars.size
  /-- the cut is inside of the function, and the function inside of the value -/
  inside : entry.2.start.offset ≤ cut.factory.start.offset ∧
    cut.factory.start.offset ≤ cut.start ∧ cut.stop ≤ cut.factory.stop.offset ∧
    cut.factory.stop.offset ≤ entry.2.stop.offset
  /-- it leaves only white space of what the body holds -/
  body : ∀ body, cut.factory.child? .body = some body → ∃ lo hi, Holds src body lo hi ∧
    lo ≤ cut.start ∧ cut.stop ≤ hi ∧ Text.IsBlank (src.slice lo cut.start) ∧
    Text.IsBlank (src.slice cut.stop hi)
  empty : cut.factory.child? .body = none → cut.unit.text = ""

/-- Two cuts that have no character in common. -/
def Cut.Apart (c d : Cut) : Prop := c.stop ≤ d.start ∨ d.stop ≤ c.start

variable {src : Source}

theorem inner_of_toList {s : String} {c d : Char} {cs : List Char}
    (hs : s.toList = c :: cs ++ [d]) : Text.inner s = String.ofList cs := by
  rw [Text.inner, hs, List.cons_append, List.drop_one, List.tail_cons, List.dropLast_concat]

theorem slice_self (src : Source) (a : Nat) : src.slice a a = "" := by
  rw [← String.toList_inj, Source.toList_slice, Nat.sub_self, List.take_zero]
  rfl

/-- A block of one character at most holds nothing. -/
theorem holds_of_short {body : Node} (hkind : body.kind = .statementBlock)
    (hself : body.start.offset ≤ body.stop.offset)
    (hshort : (src.text body).toList.length ≤ 1) :
    Holds src body body.stop.offset body.stop.offset := by
  refine ⟨Nat.le_refl _, ⟨hself, Nat.le_refl _⟩, fun h => absurd hkind h, fun _ => ?_, ?_⟩
  · have hnil : ((src.text body).toList.drop 1).dropLast = [] := by
      rw [List.drop_eq_nil_of_le hshort]
      rfl
    rw [slice_self, Text.inner, hnil]
  · rintro _ ⟨cs, hcs⟩
    rw [hcs, List.length_append, List.length_cons, List.length_singleton] at hshort
    omega

theorem exists_holds (src : Source) {body : Node} (hself : body.start.offset ≤ body.stop.offset)
    (hstop : body.stop.offset ≤ src.chars.size) : ∃ lo hi, Holds src body lo hi := by
  by_cases hkind : body.kind = .statementBlock
  · by_cases hshort : (src.text body).toList.length ≤ 1
    · exact ⟨_, _, holds_of_short hkind hself hshort⟩
    · -- there are a first and a last character, which need not be braces
      obtain ⟨c, rest, hrest⟩ := List.exists_cons_of_length_pos (Nat.lt_of_not_le hshort).le
      obtain ⟨cs, d, rfl⟩ : ∃ cs d, rest = cs ++ [d] := by
        rcases rest.eq_nil_or_concat' with rfl | hends
        · rw [hrest] at hshort
          exact absurd (Nat.le_refl 1) hshort
        · exact hends
      have hparts : (src.slice body.start.offset body.stop.offset).toList = [c] ++ cs ++ [d] := hrest
      obtain ⟨hlength, _, hmiddle, _⟩ := Source.slice_of_append hself hstop hparts
      rw [List.length_singleton, List.length_singleton] at hlength
      rw [List.length_singleton] at hmiddle
      have hslice : src.slice (body.start.offset + 1) (body.start.offset + 1 + cs.length) =
          String.ofList cs := by
        rw [← String.toList_inj, hmiddle, String.toList_ofList]
      refine ⟨body.start.offset + 1, body.start.offset + 1 + cs.length, by omega,
        ⟨by omega, by omega⟩, fun h => absurd hkind h, fun _ => ?_, ?_⟩
      · exact hslice.trans (inner_of_toList hrest).symm
      · rintro _ ⟨inside, hinside⟩
        obtain ⟨rfl, hboth⟩ : c = '\x7b' ∧ cs ++ [d] = inside ++ ['\x7d'] := by
          simpa [hrest] using hinside
        obtain ⟨rfl, hd⟩ := List.append_inj' hboth rfl
        refine ⟨rfl, hlength, ?_⟩
        rw [hslice, ← String.toList_inj, hinside]
        simp
  · exact ⟨_, _, hself, ⟨Nat.le_refl _, Nat.le_refl _⟩, fun _ => rfl, fun h => absurd h hkind,
      fun h => absurd h hkind⟩

/-- What is stripped of white space stands between two blanks. -/
theorem exists_strip (src : Source) {lo hi : Nat} (hle : lo ≤ hi) (hhi : hi ≤ src.chars.size) :
    ∃ a b, lo ≤ a ∧ a ≤ b ∧ b ≤ hi ∧ Text.strip (src.slice lo hi) = src.slice a b ∧
      Text.IsBlank (src.slice lo a) ∧ Text.IsBlank (src.slice b hi) := by
  obtain ⟨front, back, hparts, hfront, hback⟩ := Text.exists_trim_eq (src.slice lo hi).toList
  obtain ⟨hlength, hbefore, hmiddle, hbehind⟩ := Source.slice_of_append hle hhi hparts
  refine ⟨lo + front.length, lo + front.length + (Text.trim (src.slice lo hi).toList).length,
    by omega, by omega, by omega, ?_, ?_, ?_⟩
  · rw [← String.toList_inj, hmiddle, Text.strip, String.toList_ofList]
  · rw [Text.IsBlank, hbefore]
    exact hfront
  · rw [Text.IsBlank, hbehind]
    exact hback

end Split

namespace Node

variable {text : List Char}

theorem InPlace.stop_le {n : Node} (h : n.InPlace text) : n.stop.offset ≤ text.length :=
  (Mark.of_iff.mp h.stop).1

/-- What stands in parentheses stands inside of them. -/
theorem Bare.bounds {n m : Node} (hbare : n.Bare m) (h : n.Everywhere (InPlace text)) :
    n.start.offset ≤ m.start.offset ∧ m.stop.offset ≤ n.stop.offset := by
  induction hbare with
  | itself => exact ⟨Nat.le_refl _, Nat.le_refl _⟩
  | inside _ hfirst _ ih =>
      have hmem := mem_children_of_head? hfirst
      have hfirst := h.here.row.bounds hmem
      have hrest := ih (h.of_mem_children hmem)
      omega

end Node

namespace Split

variable {text : String}

/-- The unit of a value in place is cut out of the text. -/
theorem IsUnitOf.exists_cut {entry : String × Node} {u : Piece}
    (h : IsUnitOf (.ofString text) entry u)
    (hplace : entry.2.Everywhere (Node.InPlace text.toList)) :
    ∃ cut, Cut.Of (.ofString text) entry cut ∧ cut.unit = u := by
  obtain ⟨factory, hfactory, htext⟩ := h.text
  have hbounds := hfactory.1.bounds hplace
  have hinside := hplace.of_bare? (Node.bare?_eq_some_iff.mpr hfactory.1)
  have hself := hinside.here.row.le
  have hsize : (Source.ofString text).chars.size = text.toList.length := List.size_toArray
  have hstop := hinside.here.stop_le
  cases hbody : factory.child? .body with
  | none =>
      refine ⟨⟨u, factory, factory.start.offset, factory.start.offset⟩, ?_, rfl⟩
      have hempty : u.text = "" := by rw [htext, factoryBody, hbody]
      refine ⟨h.id, h.path, hfactory, ?_, ?_, ⟨Nat.le_refl _, ?_⟩, ?_, ?_, fun _ => hempty⟩
      · rw [hempty, slice_self]
      · rw [hempty]
        constructor <;> simp
      · dsimp only
        omega
      · exact ⟨hbounds.1, Nat.le_refl _, hself, hbounds.2⟩
      · intro body hsome
        rw [hbody] at hsome
        cases hsome
  | some body =>
      have hmem : body ∈ factory.children := List.mem_of_find?_eq_some hbody
      have hrow := hinside.here.row.bounds hmem
      have hplaced := (hinside.of_mem_children hmem).here
      have hbodyStop := hplaced.stop_le
      obtain ⟨lo, hi, hholds⟩ := exists_holds (.ofString text) hplaced.row.le (by omega)
      have hheld := hholds.inside
      obtain ⟨a, b, hlo, horder, hhi, hstrip, hfront, hback⟩ :=
        exists_strip (.ofString text) hholds.order (by omega)
      have hunit : u.text = Text.strip ((Source.ofString text).slice lo hi) := by
        rw [htext, factoryBody, hbody]
        by_cases hkind : body.kind = .statementBlock
        · rw [hholds.block hkind]
          simp [hkind]
        · rw [hholds.whole hkind]
          simp [hkind]
      refine ⟨⟨u, factory, a, b⟩, ?_, rfl⟩
      refine ⟨h.id, h.path, hfactory, hunit.trans hstrip, ?_, ⟨horder, ?_⟩, ?_, ?_, ?_⟩
      · rw [hunit]
        exact Text.isTrimmed_strip _
      · dsimp only
        omega
      · dsimp only
        omega
      · intro other hother
        rw [hbody] at hother
        cases hother
        exact ⟨lo, hi, hholds, hlo, hhi, hfront, hback⟩
      · intro hnone
        rw [hbody] at hnone
        cases hnone

theorem exists_cuts {entries : List (String × Node)} {units : List Piece}
    (hunits : List.Forall₂ (IsUnitOf (.ofString text)) entries units)
    (hplace : ∀ entry ∈ entries, entry.2.Everywhere (Node.InPlace text.toList)) :
    ∃ cuts, List.Forall₂ (Cut.Of (.ofString text)) entries cuts ∧ cuts.map (·.unit) = units := by
  induction hunits with
  | nil => exact ⟨[], .nil, rfl⟩
  | cons hunit _ ih =>
      obtain ⟨hfirst, hrest⟩ := List.forall_mem_cons.mp hplace
      obtain ⟨cut, hcut, rfl⟩ := hunit.exists_cut hfirst
      obtain ⟨cuts, hcuts, rfl⟩ := ih hrest
      exact ⟨cut :: cuts, .cons hcut hcuts, rfl⟩

end Split

/-- What holds between the items of a list, in their order, holds between those
that belong to them. -/
theorem pairwise_of_forall₂ {α β : Type} {Q : α → β → Prop} {R : α → α → Prop}
    {S : β → β → Prop} {xs : List α} {ys : List β} (hall : List.Forall₂ Q xs ys)
    (hxs : xs.Pairwise R) (himp : ∀ x x' y y', R x x' → Q x y → Q x' y' → S y y') :
    ys.Pairwise S := by
  obtain ⟨hlength, hget⟩ := List.forall₂_iff_get.mp hall
  refine List.pairwise_iff_get.mpr fun i j hij => ?_
  have hi : i.1 < xs.length := by omega
  have hj : j.1 < xs.length := by omega
  exact himp _ _ _ _ (List.pairwise_iff_get.mp hxs ⟨i, hi⟩ ⟨j, hj⟩ hij) (hget i hi i.2)
    (hget j hj j.2)

namespace Node

/-- Nodes that have no character in common. -/
def Apart (n m : Node) : Prop :=
  n.stop.offset ≤ m.start.offset ∨ m.stop.offset ≤ n.start.offset

theorem properChildren_sublist (n : Node) : n.properChildren.Sublist n.children :=
  List.filter_sublist.trans List.filter_sublist

end Node

namespace Split

theorem mem_of_mem_numberedElements {cs : List Node} {entry : String × Node}
    (hentry : entry ∈ numberedElements cs) : entry.2 ∈ cs := by
  obtain ⟨⟨c, i⟩, hc, hsome⟩ := List.mem_filterMap.mp hentry
  rw [Option.ite_none_right_eq_some] at hsome
  cases hsome.2
  exact List.fst_mem_of_mem_zipIdx hc

/-- The elements of an array come in their order. -/
theorem pairwise_numberedElements {lo hi : Nat} {cs : List Node} (hrow : Node.Row lo cs hi) :
    (numberedElements cs).Pairwise fun e f => e.2.stop.offset ≤ f.2.start.offset := by
  have hindexed : cs.zipIdx.Pairwise fun a b => a.1.stop.offset ≤ b.1.start.offset := by
    have hmap : (cs.zipIdx.map Prod.fst).Pairwise fun a b => a.stop.offset ≤ b.start.offset := by
      rw [List.zipIdx_map_fst]
      exact hrow.pairwise
    exact List.pairwise_map.mp hmap
  refine List.pairwise_filterMap.mpr (hindexed.imp ?_)
  rintro ⟨c, i⟩ ⟨d, j⟩ hle e he f hf
  rw [Option.ite_none_right_eq_some] at he hf
  cases he.2
  cases hf.2
  exact hle

variable {text : List Char} {table : Node} {pairs entries : List (String × Node)}

/-- The values of the pairs of an object stand inside of its members, so they
come in their order. -/
theorem pairwise_pairs (hplace : table.Everywhere (Node.InPlace text))
    (hpairs : List.Forall₂ (IsPair src) table.properChildren pairs) :
    (∀ pair ∈ pairs, pair.2.Everywhere (Node.InPlace text)) ∧
    pairs.Pairwise fun e f => e.2.stop.offset ≤ f.2.start.offset := by
  have hsub := table.properChildren_sublist
  -- there is one value for each member, so their order is that of the members
  have hmembers : List.Forall₂ (fun pair member => pair.2.Everywhere (Node.InPlace text) ∧
      member.start.offset ≤ pair.2.start.offset ∧ pair.2.stop.offset ≤ member.stop.offset)
      pairs table.properChildren := by
    have hplaced := (List.forall₂_and_left _ _).mpr
      ⟨fun member hmember => hplace.of_mem_children (hsub.subset hmember), hpairs⟩
    refine (hplaced.imp ?_).flip
    intro member pair hpair
    exact ⟨hpair.1.of_child? hpair.2.value,
      hpair.1.here.row.bounds (List.mem_of_find?_eq_some hpair.2.value)⟩
  refine ⟨((List.forall₂_and_left _ _).mp hmembers).1, ?_⟩
  refine pairwise_of_forall₂ hmembers.flip (hplace.here.row.pairwise.sublist hsub) ?_
  rintro member member' pair pair' hle ⟨_, hfirst⟩ ⟨_, hsecond⟩
  omega

theorem KeepsLast.mem (h : KeepsLast pairs entries) {entry : String × Node}
    (hentry : entry ∈ entries) : entry ∈ pairs := by
  obtain ⟨before, behind, rfl, _⟩ := h.last entry hentry
  simp

/-- What is kept of pairs in their order stands apart, but not always in this
order: a key stays where it first occurs. -/
theorem KeepsLast.pairwise_apart (h : KeepsLast pairs entries)
    (hpairs : pairs.Pairwise fun e f => e.2.stop.offset ≤ f.2.start.offset) :
    entries.Pairwise fun e f => e.2.Apart f.2 := by
  have hsymm : Std.Symm fun e f : String × Node => e.2.Apart f.2 := ⟨fun _ _ => Or.symm⟩
  have hapart : pairs.Pairwise fun e f => e.2.Apart f.2 := hpairs.imp Or.inl
  refine (List.pairwise_map.mp h.nodup).imp_of_mem ?_
  intro e f he hf hkeys
  have hne : e ≠ f := fun hsame => hkeys (congrArg Prod.fst hsame)
  exact hapart.forall (h.mem he) (h.mem hf) hne

/-- The values in a table in place are in place and stand apart, those of an
array in their order. -/
theorem Retains.placed (h : Retains src table entries)
    (hplace : table.Everywhere (Node.InPlace text)) :
    (∀ entry ∈ entries, entry.2.Everywhere (Node.InPlace text)) ∧
    entries.Pairwise (fun e f => e.2.Apart f.2) ∧
    (table.kind = .array →
      entries.Pairwise fun e f => e.2.stop.offset ≤ f.2.start.offset) := by
  cases h with
  | elements =>
      have horder := pairwise_numberedElements hplace.here.row
      refine ⟨?_, horder.imp Or.inl, fun _ => horder⟩
      exact fun _ hentry => hplace.of_mem_children (mem_of_mem_numberedElements hentry)
  | members hkind hpairs =>
      obtain ⟨hvalues, horder⟩ := pairwise_pairs hplace hpairs
      have hlast := keepsLast_lastPairs
      refine ⟨fun entry hentry => hvalues entry ((hlast _).mem hentry),
        (hlast _).pairwise_apart horder, ?_⟩
      intro harray
      rw [hkind] at harray
      cases harray

/-- Values apart give cuts apart. -/
theorem Cut.Of.apart {e f : String × Node} {c d : Cut} (hc : Cut.Of src e c) (hd : Cut.Of src f d)
    (h : e.2.Apart f.2) : c.Apart d := by
  have hfirst := hc.inside
  have hsecond := hd.inside
  unfold Node.Apart at h
  unfold Cut.Apart
  omega

theorem BringsTable.kind_ne_program {n : Node} (h : BringsTable src n table) :
    n.kind ≠ .program := by
  cases h with
  | ofCall hcall => rw [hcall]; rintro ⟨⟩
  | ofVariable hkind => rw [hkind]; rintro ⟨⟩

end Split

theorem parse_of_split {parse : Parse} {text : String} {units : List Piece}
    (hsplit : split parse text = .ok (.modules units)) :
    ∃ p, parse text = .ok p ∧ Split.ofParsed p = some units := by
  unfold split at hsplit
  split at hsplit
  · rename_i p hparse
    refine ⟨p, hparse, ?_⟩
    split at hsplit
    · rename_i found hfound
      cases hsplit
      exact hfound
    · cases hsplit
  · cases hsplit
  · cases hsplit

/-- The units of a text that is split are cut out of it, one for each entry of
the first good table, whether the text is read with every node in place or by
one of the dialects. Each is what the body of its function holds, without the
white space at the two ends. No two of them share a character; those of an
array also stand in their order. -/
theorem units_cut_apart {parse : Parse} {text : String} {units : List Piece}
    (hreader : (∃ dialect, parse = parseSource dialect) ∨ ∀ p, parse text = .ok p →
      p.source = .ofString text ∧ p.root.Everywhere (Node.InPlace text.toList))
    (hsplit : split parse text = .ok (.modules units)) :
    ∃ p, parse text = .ok p ∧ ∃ before site table entries cuts,
      IsFirst (fun s : Site => ∃ entries, Split.GoodSite p.source s.node entries) p.root.sites
        before site ∧
      Split.BringsTable p.source site.node table ∧ Split.Retains p.source table entries ∧
      List.Forall₂ (Split.Cut.Of (.ofString text)) entries cuts ∧ cuts.map (·.unit) = units ∧
      cuts.Pairwise Split.Cut.Apart ∧
      (table.kind = .array → cuts.Pairwise fun c d => c.stop ≤ d.start) := by
  obtain ⟨p, hparse, hunits⟩ := parse_of_split hsplit
  obtain ⟨hsource, hlaid⟩ : p.source = .ofString text ∧ p.root.LaidOut text.toList := by
    rcases hreader with ⟨dialect, rfl⟩ | hplaced
    · exact laidOut_of_parseSource hparse
    · exact ⟨(hplaced p hparse).1, .of_everywhere (hplaced p hparse).2⟩
  obtain ⟨before, site, entries, hfirst, hgood, hall⟩ := Split.ofParsed_eq_some_iff.mp hunits
  obtain ⟨table, hbrings, hretains⟩ := hgood.brings
  have hsite : site ∈ p.root.sites := by
    obtain ⟨behind, horder⟩ := hfirst.order
    simp [horder]
  -- a document may have comments behind its end, but it brings no table itself
  have htable : table.Everywhere (Node.InPlace text.toList) :=
    Split.everywhere_of_table? ((hlaid.of_mem_sites hsite).everywhere hbrings.kind_ne_program)
      (Split.table?_of_bringsTable hbrings)
  obtain ⟨hvalues, hapart, horder⟩ := hretains.placed htable
  rw [hsource] at hall
  obtain ⟨cuts, hcuts, hmap⟩ := Split.exists_cuts hall hvalues
  refine ⟨p, hparse, before, site, table, entries, cuts, hfirst, hbrings, hretains, hcuts, hmap,
    ?_, ?_⟩
  · exact pairwise_of_forall₂ hcuts hapart fun _ _ _ _ h hc hd => hc.apart hd h
  · intro harray
    refine pairwise_of_forall₂ hcuts (horder harray) fun _ _ _ _ hle hc hd => ?_
    have hfront := hc.inside
    have hback := hd.inside
    omega

/-!
The document `var __webpack_modules__ = {a: 0, b: () => b(), a: () => { a(); }};`.
The first unit stands behind the second one: its key is given first and its
function last.
-/

namespace RepeatedModule

open Node

def text : String := "var __webpack_modules__ = \x7ba: 0, b: () => b(), a: () => \x7b a(); \x7d\x7d;"

def token (t : String) (start : Nat) : Node := inLine (.token t) none start (start + t.length)

/-- A member that starts with a key of one letter. -/
def member (start stop : Nat) (value : Node) : Node :=
  inLine .pair none start stop
    [inLine .propertyIdentifier (some .key) start (start + 1), token ":" (start + 1), value]

/-- A call without arguments of a function with a name of one letter. -/
def call (part : Option Field) (start : Nat) : Node :=
  inLine .callExpression part start (start + 3)
    [inLine .identifier (some .function) start (start + 1),
      emptyParens "arguments" .arguments (start + 1)]

/-- A function without parameters. -/
def factory (start stop : Nat) (body : Node) : Node :=
  inLine .arrowFunction (some .value) start stop
    [emptyParens "formal_parameters" .parameters start, token "=>" (start + 3), body]

def block : Node :=
  inLine .statementBlock (some .body) 56 64
    [token "\x7b" 56,
      inLine (.other "expression_statement") none 58 62 [call none 58, token ";" 61],
      token "\x7d" 63]

def object : Node :=
  inLine .object (some .value) 26 65
    [token "\x7b" 26, member 27 31 (inLine (.other "number") (some .value) 30 31), token "," 31,
      member 33 45 (factory 36 45 (call (some .body) 42)), token "," 45,
      member 47 64 (factory 50 64 block), token "\x7d" 64]

def declarator : Node :=
  inLine .variableDeclarator none 4 65
    [inLine .identifier (some .name) 4 23, token "=" 24, object]

def document : Parsed :=
  ⟨inLine .program none 0 66
    [inLine .variableDeclaration none 0 66
      [inLine (.token "var") (some .kind) 0 3, declarator, token ";" 65]], .ofString text⟩

def units : List Piece := [⟨"a", "./a.js", "a();"⟩, ⟨"b", "./b.js", "b()"⟩]

end RepeatedModule

open RepeatedModule in
theorem units_cut_apart_repeatedModule :
    document.source = .ofString text ∧ document.root.Everywhere (Node.InPlace text.toList) ∧
    split (fun _ => .ok document) text = .ok (.modules units) ∧
    ∃ entries cuts, List.Forall₂ (Split.Cut.Of (.ofString text)) entries cuts ∧
      cuts.map (·.unit) = units ∧ cuts.Pairwise Split.Cut.Apart := by
  have hplace : ∀ s ∈ document.root.preorder [], s.node.InPlace text.toList := by decide +kernel
  have heverywhere : document.root.Everywhere (Node.InPlace text.toList) :=
    .of_forall_mem_preorder hplace
  have hsplit : split (fun _ => .ok document) text = .ok (.modules units) := by
    have hunits : Split.ofParsed document = some units := by decide +kernel
    simp [split, hunits]
  have hreader : ∀ p, (.ok document : Except Fault Parsed) = .ok p →
      p.source = .ofString text ∧ p.root.Everywhere (Node.InPlace text.toList) := by
    rintro p ⟨⟩
    exact ⟨rfl, heverywhere⟩
  obtain ⟨_, _, _, _, _, entries, cuts, _, _, _, hcuts, hmap, hapart, _⟩ :=
    units_cut_apart (Or.inr hreader) hsplit
  exact ⟨rfl, heverywhere, hsplit, entries, cuts, hcuts, hmap, hapart⟩

end BundleAtlas
