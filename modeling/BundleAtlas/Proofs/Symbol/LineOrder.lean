import Mathlib.Data.List.Flatten
import BundleAtlas.Proofs.Grammar.LaidOut
import BundleAtlas.Proofs.Symbol.LocalGraph
import BundleAtlas.Proofs.Text.LineColumn
import BundleAtlas.Symbol.Inventory

/-!
The lines that are reported of a document. A mark is on the line that the line
feeds before it tell, so marks that come later in the text are on no earlier
line. What a walk reports comes in the order of the nodes, with the lines on
which they start; leaving some of it out, as repetitions are, changes nothing
about the order.
-/

namespace BundleAtlas

/-- How many lines a text has. Each line feed ends one, and behind the last line
feed there is one more, which may be empty. -/
def Text.lineCount (text : String) : Nat := text.toList.count '\n' + 1

namespace Mark

theorem row_pushAll (m : Mark) (cs : List Char) : (m.pushAll cs).row = m.row + cs.count '\n' := by
  induction cs generalizing m with
  | nil => rfl
  | cons c cs ih =>
      have hpush : (m.push c).row = m.row + if c == '\n' then 1 else 0 := by
        unfold push
        split
        · simp_all
        · simp_all
      rw [pushAll, List.foldl_cons, ← pushAll, ih, hpush, List.count_cons]
      omega

variable {text : List Char} {m n : Mark}

/-- A mark of a text is on the line that the line feeds before it tell. -/
theorem Of.row_eq (h : m.Of text) : m.row = (text.take m.offset).count '\n' := by
  have hmark := congrArg Mark.row (of_iff.mp h).2
  rw [row_pushAll, Nat.zero_add] at hmark
  exact hmark

theorem Of.row_le (hm : m.Of text) (hn : n.Of text) (hle : m.offset ≤ n.offset) :
    m.row ≤ n.row := by
  rw [hm.row_eq, hn.row_eq]
  exact (List.take_prefix_take_left hle).sublist.count_le '\n'

theorem Of.row_le_count (h : m.Of text) : m.row ≤ text.count '\n' := by
  rw [h.row_eq]
  exact (List.take_sublist _ _).count_le '\n'

end Mark

/-- Items whose lines never go back. -/
def Ascending {α : Type} (line : α → Nat) (xs : List α) : Prop :=
  xs.Pairwise fun x y => line x ≤ line y

theorem Text.distinct_sublist {α : Type} [DecidableEq α] (xs : List α) :
    (distinct xs).Sublist xs := by
  induction xs with
  | nil => exact .slnil
  | cons x xs ih => exact (List.filter_sublist.trans ih).cons_cons x

namespace Ascending

variable {α : Type} {line : α → Nat} {xs : List α}

theorem distinct [DecidableEq α] (h : Ascending line xs) : Ascending line (Text.distinct xs) :=
  h.sublist (Text.distinct_sublist xs)

/-- What some of the sites have, each on the line of its site. -/
theorem filterMap {f : Site → Option α} {sites : List Site}
    (h : Ascending (·.node.startLine) sites)
    (hline : ∀ s x, f s = some x → line x = s.node.startLine) :
    Ascending line (sites.filterMap f) := by
  refine List.pairwise_filterMap.mpr (h.imp ?_)
  intro s t hle x hx y hy
  rw [hline s x hx, hline t y hy]
  exact hle

end Ascending

/-- The entry of a site is about the lines that its node reaches over. -/
theorem Site.lines_of_entry? {unit : Piece} {src : Source} {s : Site} {e : SymbolEntry}
    (hentry : s.entry? unit src = some e) :
    e.startLine = s.node.startLine ∧ e.lineCount = s.node.stopLine - s.node.startLine + 1 := by
  unfold entry? at hentry
  dsimp only at hentry
  split at hentry
  · split at hentry
    · cases hentry
    · cases hentry
      exact ⟨rfl, rfl⟩
  · split at hentry
    · split at hentry
      · cases hentry
      · cases hentry
        exact ⟨rfl, rfl⟩
    · split at hentry
      · split at hentry
        · cases hentry
        · split at hentry
          · cases hentry
            exact ⟨rfl, rfl⟩
          · cases hentry
      · cases hentry

theorem Site.kind_ne_program_of_entry? {unit : Piece} {src : Source} {s : Site} {e : SymbolEntry}
    (hentry : s.entry? unit src = some e) : s.node.kind ≠ .program := by
  intro hkind
  unfold entry? at hentry
  simp [hkind, Kind.isFunctionDeclaration, Kind.isClassDeclaration] at hentry

namespace Node.LaidOut

variable {text : List Char} {root : Node} (h : root.LaidOut text)
include h

/-- The sites of a document that is laid out come in the order of their lines. -/
theorem ascending_walk : Ascending (·.node.startLine) root.walk := by
  rw [walk_eq_sites]
  refine h.pairwise_sites.imp_of_mem ?_
  intro s t hs ht hle
  have hrows := (h.of_mem_sites hs).start.row_le (h.of_mem_sites ht).start hle
  exact Nat.succ_le_succ hrows

theorem ascending_outgoingCalls (src : Source) : Ascending (·.line) (root.outgoingCalls src) := by
  refine h.ascending_walk.filterMap ?_
  intro s call hcall
  split at hcall
  · dsimp only at hcall
    split at hcall
    · cases hcall
    · cases hcall
      rfl
  · cases hcall

end Node.LaidOut

namespace Parsed

variable {text : List Char} {p : Parsed} (h : p.root.LaidOut text)
include h

theorem ascending_collectSymbols (unit : Piece) : Ascending (·.startLine) (collectSymbols unit p) :=
  h.ascending_walk.filterMap fun _ _ hentry => (Site.lines_of_entry? hentry).1

theorem ascending_incomingCalls (unitId name : String) :
    Ascending (·.line) (incomingCalls unitId p name) := by
  refine h.ascending_walk.filterMap ?_
  intro s call hcall
  split at hcall
  · cases hcall
    rfl
  · cases hcall

/-- A symbol reaches from the line on which its node starts to the one on which
it stops, which is no earlier and a line of the text. -/
theorem exists_site_of_mem_collectSymbols {unit : Piece} {e : SymbolEntry}
    (he : e ∈ collectSymbols unit p) :
    ∃ s ∈ p.root.sites, e.startLine = s.node.startLine ∧
      s.node.startLine ≤ s.node.stopLine ∧ e.startLine + e.lineCount = s.node.stopLine + 1 ∧
      s.node.stopLine ≤ text.count '\n' + 1 := by
  rw [collectSymbols, Node.walk_eq_sites] at he
  obtain ⟨s, hs, hentry⟩ := List.mem_filterMap.mp he
  obtain ⟨hstart, hcount⟩ := Site.lines_of_entry? hentry
  -- a document may stop before the last of its children, but it is no symbol
  have hkind := Site.kind_ne_program_of_entry? hentry
  have hplace := h.of_mem_sites hs
  have hrows : s.node.startLine ≤ s.node.stopLine :=
    Nat.succ_le_succ (hplace.start.row_le hplace.stop (hplace.self hkind).le)
  refine ⟨s, hs, hstart, hrows, ?_, Nat.succ_le_succ hplace.stop.row_le_count⟩
  omega

end Parsed

namespace CallGraph

variable {parse : Parse} {live : Snapshot} {symbol : String} {target unit : Piece}

theorem candidates_sublist (everywhere : Bool) (htarget : target ∈ live.units) :
    (candidates live symbol target everywhere).Sublist live.units := by
  unfold candidates
  split
  · exact List.filter_sublist
  · exact List.singleton_sublist.mpr htarget

/-- In a call graph, the calls out of one unit come in the order of their
lines. -/
theorem ascending_incoming {unitId : String} (everywhere : Bool) {p : Parsed} {text : List Char}
    (hid : unitId ∈ live.ids) (hunit : unit ∈ live.units) (hparse : parse unit.text = .ok p)
    (h : p.root.LaidOut text) :
    ∃ g, build parse live symbol unitId everywhere = .ok g ∧
      Ascending (·.line) (g.incoming.filter (·.callerUnitId = unit.id)) := by
  obtain ⟨target, htarget, _, g, hbuild, _, _, hincoming, _⟩ :=
    build_of_mem_ids parse symbol everywhere hid
  have hown : Ascending (·.line) (callsIn parse symbol unit) := by
    unfold callsIn
    rw [hparse]
    exact Parsed.ascending_incomingCalls h unit.id symbol
  -- the calls of other units go with the filter, those of this one stay in order
  have hpart : (g.incoming.filter (·.callerUnitId = unit.id)).Sublist
      (callsIn parse symbol unit) := by
    rw [hincoming, ← Text.distinct_eq_eraseDups, ← filter_flatMap_callsIn hunit]
    have hcandidates : ((candidates live symbol target everywhere).flatMap
        (callsIn parse symbol)).Sublist (live.units.flatMap (callsIn parse symbol)) :=
      (candidates_sublist everywhere htarget).flatMap _
    exact ((Text.distinct_sublist _).trans hcandidates).filter _
  exact ⟨g, hbuild, hown.sublist hpart⟩

end CallGraph

/-- The lines that are reported of a document, whether its tree has every node
in place or was read from its text. Those of the symbols, of the calls below any
node and of the calls of a name come in their order, also without repetitions
and inside of a call graph. Every symbol reaches over at least one line, and
these are lines of the text. -/
theorem reported_lines_in_order {text : String} {p : Parsed}
    (hplace : p.root.Everywhere (Node.InPlace text.toList) ∨
      ∃ dialect, parseSource dialect text = .ok p) (unit : Piece) (name : String) :
    (Ascending (·.startLine) (collectSymbols unit p) ∧
      Ascending (·.startLine) (Text.distinct (collectSymbols unit p))) ∧
    (∀ s ∈ p.root.sites, Ascending (·.line) (s.node.outgoingCalls p.source) ∧
      Ascending (·.line) (Text.distinct (s.node.outgoingCalls p.source))) ∧
    (Ascending (·.line) (incomingCalls unit.id p name) ∧
      Ascending (·.line) (Text.distinct (incomingCalls unit.id p name))) ∧
    (∀ (parse : Parse) (live : Snapshot) (unitId : String) (everywhere : Bool),
      unitId ∈ live.ids → unit ∈ live.units → parse unit.text = .ok p →
      ∃ g, CallGraph.build parse live name unitId everywhere = .ok g ∧
        Ascending (·.line) (g.incoming.filter (·.callerUnitId = unit.id))) ∧
    ∀ e ∈ collectSymbols unit p, 1 ≤ e.startLine ∧ 1 ≤ e.lineCount ∧
      e.startLine + e.lineCount - 1 ≤ Text.lineCount text ∧
      ∃ s ∈ p.root.sites, e.startLine = s.node.startLine ∧
        e.startLine + e.lineCount = s.node.stopLine + 1 ∧ s.node.startLine ≤ s.node.stopLine := by
  have h : p.root.LaidOut text.toList := by
    rcases hplace with heverywhere | ⟨dialect, hparse⟩
    · exact .of_everywhere heverywhere
    · exact (laidOut_of_parseSource hparse).2
  have hsymbols := Parsed.ascending_collectSymbols h unit
  have hincoming := Parsed.ascending_incomingCalls h unit.id name
  refine ⟨⟨hsymbols, hsymbols.distinct⟩, ?_, ⟨hincoming, hincoming.distinct⟩, ?_, ?_⟩
  · intro s hs
    have houtgoing := (h.of_mem_sites hs).ascending_outgoingCalls p.source
    exact ⟨houtgoing, houtgoing.distinct⟩
  · intro parse live unitId everywhere hid hunit hparse
    exact CallGraph.ascending_incoming everywhere hid hunit hparse h
  · intro e he
    obtain ⟨s, hs, hstart, hlines, hreach, hlast⟩ := Parsed.exists_site_of_mem_collectSymbols h he
    have hfirst : 1 ≤ s.node.startLine := Nat.succ_pos _
    refine ⟨by omega, by omega, ?_, s, hs, hstart, hreach, hlines⟩
    unfold Text.lineCount
    omega

/-!
The document `function go() {\n  stop();\n}\nstop();`, with a symbol on three
lines and a call inside and behind it.
-/

namespace StopTwice

def text : String := "function go() \x7b\n  stop();\n\x7d\nstop();"

/-- A node between two code points of the text. -/
def node (kind : Kind) (field : Option Field) (start stop : Nat) (children : List Node) : Node :=
  ⟨kind, field, Mark.pushAll {} (text.toList.take start), Mark.pushAll {} (text.toList.take stop),
    children⟩

/-- A pair of parentheses at a code point. -/
def parens (kind : String) (field : Field) (start : Nat) : Node :=
  node (.other kind) (some field) start (start + 2)
    [node (.token "(") none start (start + 1) [],
      node (.token ")") none (start + 1) (start + 2) []]

/-- The statement `stop();` at a code point. -/
def call (start : Nat) : Node :=
  node (.other "expression_statement") none start (start + 7)
    [node .callExpression none start (start + 6)
      [node .identifier (some .function) start (start + 4) [],
        parens "arguments" .arguments (start + 4)],
      node (.token ";") none (start + 6) (start + 7) []]

def declaration : Node :=
  node .functionDeclaration none 0 27
    [node (.token "function") none 0 8 [], node .identifier (some .name) 9 11 [],
      parens "formal_parameters" .parameters 11,
      node .statementBlock (some .body) 14 27
        [node (.token "\x7b") none 14 15 [], call 18, node (.token "\x7d") none 26 27 []]]

def document : Parsed := ⟨node .program none 0 35 [declaration, call 28], .ofString text⟩

end StopTwice

open StopTwice in
theorem reported_lines_in_order_stopTwice :
    document.root.Everywhere (Node.InPlace text.toList) ∧
    incomingCalls "0" document "stop" = [⟨"0", "go", 2⟩, ⟨"0", "(top-level)", 4⟩] ∧
    Ascending (·.line) (incomingCalls "0" document "stop") ∧
    (collectSymbols ⟨"0", "0.js", text⟩ document).map (fun e => (e.startLine, e.lineCount)) =
      [(1, 3)] ∧
    ∀ e ∈ collectSymbols ⟨"0", "0.js", text⟩ document,
      e.startLine + e.lineCount - 1 ≤ Text.lineCount text := by
  have hplace : ∀ s ∈ document.root.preorder [], s.node.InPlace text.toList := by decide +kernel
  have heverywhere : document.root.Everywhere (Node.InPlace text.toList) :=
    .of_forall_mem_preorder hplace
  obtain ⟨_, _, hincoming, _, hsymbols⟩ :=
    reported_lines_in_order (Or.inl heverywhere) ⟨"0", "0.js", text⟩ "stop"
  refine ⟨heverywhere, by decide +kernel, hincoming.1, by decide +kernel, ?_⟩
  intro e he
  exact (hsymbols e he).2.2.1

end BundleAtlas
