import BundleAtlas.Proofs.Grammar.Naming
import BundleAtlas.Proofs.Symbol.Edges
import BundleAtlas.Proofs.Symbol.Visitors
import Mathlib.Data.List.Basic

/-!
Outgoing and incoming calls tell the same. An outgoing call shows its callee as
a text, an incoming call is found by asking for a name. As names have no dots,
the text gives the name back: it is what stands behind the last dot. So each
call that a declaration makes is found again when its callee is looked for.
-/

namespace BundleAtlas

/-- A callee is shown as a name, or as something with the name behind a dot. -/
def EndsIn (shown name : String) : Prop :=
  shown = name ∨ ("." ++ name).toList <:+ shown.toList

theorem dot_mem_of_suffix {shown name : String}
    (hsuffix : ("." ++ name).toList <:+ shown.toList) : '.' ∈ shown.toList := by
  apply hsuffix.subset
  rw [String.toList_append]
  exact List.mem_append_left _ (by decide)

theorem endsIn_word_iff {word name : String} (hword : '.' ∉ word.toList) :
    EndsIn word name ↔ word = name := by
  constructor
  · rintro (hsame | hsuffix)
    · exact hsame
    · exact absurd (dot_mem_of_suffix hsuffix) hword
  · exact Or.inl

/-- Where two words stand around a dot, what ends the text is the second. -/
theorem endsIn_dotted_iff {front last name : String} (hfront : '.' ∉ front.toList)
    (hlast : '.' ∉ last.toList) (hname : '.' ∉ name.toList) :
    EndsIn (front ++ "." ++ last) name ↔ last = name := by
  have hchars : (front ++ "." ++ last).toList = front.toList ++ '.' :: last.toList := by
    simp
  constructor
  · rintro (hsame | ⟨before, hsuffix⟩)
    · rw [← hsame, hchars] at hname
      simp at hname
    · -- the first of the texts has a single dot, so both are split there
      rw [hchars, String.toList_append] at hsuffix
      have hboth : front.toList ++ '.' :: last.toList = before ++ '.' :: name.toList := hsuffix.symm
      exact String.toList_inj.mp ((List.append_cons_inj_of_notMem hfront hlast).mp hboth).2.2
  · rintro rfl
    refine Or.inr ⟨front.toList, ?_⟩
    rw [hchars, String.toList_append]
    rfl

namespace Node

theorem Everywhere.of_bareChild {P : Node → Prop} {n m : Node} {f : Field} (h : Everywhere P n)
    (hchild : n.BareChild f m) : Everywhere P m := by
  obtain ⟨child, hchild, hbare⟩ := hchild
  exact (h.of_child? hchild).of_bare? (bare?_eq_some_iff.mpr hbare)

variable {src : Source} {call fn property : Node} {name shown : String}

theorem Everywhere.word_of_identifier {n : Node} (h : n.Everywhere (NamesWord src))
    (hkind : n.kind = .identifier) : src.text n ≠ "" ∧ '.' ∉ (src.text n).toList := by
  apply h.here
  rw [hkind]
  rfl

theorem CallsMember.word_property (hmember : CallsMember call fn property)
    (hwords : call.Everywhere (NamesWord src)) : '.' ∉ (src.text property).toList := by
  have hproperty := (hwords.of_bareChild hmember.callee).of_child? hmember.child
  refine (hproperty.here ?_).2
  rw [hmember.propertyKind]
  rfl

theorem CallsMember.word_object (hmember : CallsMember call fn property)
    (hwords : call.Everywhere (NamesWord src)) {object : Node}
    (hobject : fn.BareChild .object object) (hkind : object.kind = .identifier) :
    '.' ∉ (src.text object).toList :=
  (((hwords.of_bareChild hmember.callee).of_bareChild hobject).word_of_identifier hkind).2

/-- A member is shown as its property behind a dot; before the dot stands a
word or nothing. -/
theorem CallsMember.exists_shows (hmember : CallsMember call fn property)
    (hwords : call.Everywhere (NamesWord src)) :
    ∃ front : String, '.' ∉ front.toList ∧ call.Shows src (front ++ "." ++ src.text property) := by
  by_cases hobject : ∃ object, fn.BareChild .object object ∧ object.kind = .identifier
  · obtain ⟨object, hobject, hkind⟩ := hobject
    exact ⟨src.text object, hmember.word_object hwords hobject hkind,
      .memberOf hmember hobject hkind⟩
  · refine ⟨"", by simp, ?_⟩
    rw [String.empty_append]
    exact .member hmember fun object hchild hkind => hobject ⟨object, hchild, hkind⟩

theorem shows_cases (hwords : call.Everywhere (NamesWord src)) (hshows : call.Shows src shown) :
    (∃ fn, call.BareChild .function fn ∧ fn.kind = .identifier ∧ shown = src.text fn) ∨
    ∃ fn property, CallsMember call fn property ∧
      ∃ front : String, '.' ∉ front.toList ∧ shown = front ++ "." ++ src.text property := by
  cases hshows with
  | function hfn hkind => exact Or.inl ⟨_, hfn, hkind, rfl⟩
  | memberOf hmember hobject hkind =>
      exact Or.inr ⟨_, _, hmember, _, hmember.word_object hwords hobject hkind, rfl⟩
  | member hmember _ =>
      exact Or.inr ⟨_, _, hmember, "", by simp, by rw [String.empty_append]⟩

/-- A call calls a name if and only if its callee is shown with the name at
the end. -/
theorem calls_iff_shows (hwords : call.Everywhere (NamesWord src)) (hname : '.' ∉ name.toList) :
    call.Calls src name ↔ ∃ shown, call.Shows src shown ∧ shown ≠ "" ∧ EndsIn shown name := by
  constructor
  · intro hcalls
    cases hcalls with
    | function hfn hkind htext =>
        have hword := (hwords.of_bareChild hfn).word_of_identifier hkind
        exact ⟨_, .function hfn hkind, hword.1, Or.inl htext⟩
    | member hmember htext =>
        obtain ⟨front, hfront, hshows⟩ := hmember.exists_shows hwords
        refine ⟨_, hshows, ?_,
          (endsIn_dotted_iff hfront (hmember.word_property hwords) hname).mpr htext⟩
        intro hempty
        simpa using congrArg String.toList hempty
  · rintro ⟨shown, hshows, _, hends⟩
    rcases shows_cases hwords hshows with
      ⟨fn, hfn, hkind, rfl⟩ | ⟨fn, property, hmember, front, hfront, rfl⟩
    · have hword := (hwords.of_bareChild hfn).word_of_identifier hkind
      exact .function hfn hkind ((endsIn_word_iff hword.2).mp hends)
    · exact .member hmember
        ((endsIn_dotted_iff hfront (hmember.word_property hwords) hname).mp hends)

end Node

theorem IsOutgoing.unique {src : Source} {n : Node} {c d : OutgoingCall}
    (hc : IsOutgoing src n c) (hd : IsOutgoing src n d) : c = d := by
  have hname : c.name = d.name :=
    (Node.calleeName_of_shows hc.shows).symm.trans (Node.calleeName_of_shows hd.shows)
  have hline : c.line = d.line := hc.line.trans hd.line.symm
  obtain ⟨name, line⟩ := c
  obtain ⟨other, start⟩ := d
  cases hname
  cases hline
  rfl

/-- The outgoing calls of a declaration are those of the sites below it. -/
theorem mem_outgoingCalls_iff {src : Source} (declaration : Site) {e : OutgoingCall} :
    e ∈ declaration.node.outgoingCalls src ↔
      ∃ c ∈ declaration.node.preorder declaration.above, IsOutgoing src c.node e := by
  have hgather := gathers_outgoing_iff.mpr (Eq.refl (declaration.node.outgoingCalls src))
  have hnodes : declaration.node.nodes =
      (declaration.node.preorder declaration.above).map (·.node) :=
    (Node.map_node_preorder declaration.above declaration.node).symm
  constructor
  · intro he
    obtain ⟨n, hn, hcall⟩ := hgather.exists_of_mem he
    rw [hnodes] at hn
    obtain ⟨c, hc, rfl⟩ := List.mem_map.mp hn
    exact ⟨c, hc, hcall⟩
  · rintro ⟨c, hc, hcall⟩
    refine hgather.mem_of_mem ?_ hcall fun d hd => hd.unique hcall
    rw [hnodes]
    exact List.mem_map_of_mem hc

theorem mem_incomingCalls_of_callsSymbol {unitId name : String} {p : Parsed} {c : Site}
    (hc : c ∈ p.root.sites) (hkind : c.node.kind = .callExpression)
    (hcalls : c.node.callsSymbol p.source name = true) :
    ⟨unitId, c.callerLabel p.source, c.node.startLine⟩ ∈ incomingCalls unitId p name := by
  rw [incomingCalls, Node.walk_eq_sites]
  exact List.mem_filterMap.mpr ⟨c, hc, by simp [hkind, hcalls]⟩

/-- The graph of a symbol within a unit that can be read. -/
theorem CallGraph.build_of_mem_units {parse : Parse} {s : Snapshot} {u : Piece} {p : Parsed}
    (hu : u ∈ s.units) (hparse : parse u.text = .ok p) (symbol : String) :
    ∃ g, build parse s symbol u.id false = .ok g ∧
      g.outgoing = (callsFrom parse symbol u).eraseDups ∧
      g.incoming = (incomingCalls u.id p symbol).eraseDups := by
  obtain ⟨target, htarget, hid, g, hbuild, houtgoing, _, hincoming, _⟩ :=
    build_of_mem_ids parse symbol false (List.mem_map_of_mem hu)
  obtain rfl := Snapshot.eq_of_id_eq htarget hu hid
  refine ⟨g, hbuild, houtgoing, ?_⟩
  rw [hincoming, candidates, if_neg (by decide), List.flatMap_singleton, callsIn, hparse]

/-- A call of a name stands below a declaration and starts on a line. -/
structure Site.CallsAt (src : Source) (name : String) (line : Nat) (declaration c : Site) :
    Prop where
  inside : c ∈ declaration.node.preorder declaration.above
  kind : c.node.kind = .callExpression
  calls : c.node.callsSymbol src name = true
  start : c.node.startLine = line

/-- Outgoing and incoming calls are dual. The declaration of a symbol has an
outgoing call on a line that is shown with a name at its end if and only if
it calls the name on that line; and then the calls of the name have an edge
there that comes from the function around the call. The names in a document
are taken to be words without a dot, as they are in all documents that can be
read. -/
theorem outgoing_dual_incoming (parse : Parse) (s : Snapshot) {u : Piece} (hu : u ∈ s.units)
    {p : Parsed} (hparse : parse u.text = .ok p)
    (hwords : p.root.Everywhere (Node.NamesWord p.source)) {symbol : String}
    {before : List Site} {declaration : Site}
    (hfirst : IsFirst (fun d : Site => d.node.Declares p.source symbol) p.root.sites before
      declaration)
    {name : String} (hname : '.' ∉ name.toList) (line : Nat) :
    ∃ g h, CallGraph.build parse s symbol u.id false = .ok g ∧
      CallGraph.build parse s name u.id false = .ok h ∧
      ((∃ e ∈ g.outgoing, e.line = line ∧ EndsIn e.name name) ↔
        ∃ c, Site.CallsAt p.source name line declaration c) ∧
      ∀ c, Site.CallsAt p.source name line declaration c →
        ⟨u.id, c.callerLabel p.source, line⟩ ∈ h.incoming := by
  obtain ⟨g, hg, houtgoing, _⟩ := CallGraph.build_of_mem_units hu hparse symbol
  obtain ⟨h, hh, _, hincoming⟩ := CallGraph.build_of_mem_units hu hparse name
  have hcallsFrom : CallGraph.callsFrom parse symbol u =
      declaration.node.outgoingCalls p.source := by
    simp only [CallGraph.callsFrom, hparse, Parsed.findDeclaration?_of_isFirst hfirst]
  have hsites : ∀ c ∈ declaration.node.preorder declaration.above, c ∈ p.root.sites := by
    obtain ⟨behind, horder⟩ := hfirst.order
    have hdeclaration : declaration ∈ p.root.sites := by simp [horder]
    exact fun c hc => (Node.preorder_infix_of_mem hdeclaration).subset hc
  refine ⟨g, h, hg, hh, ?_, ?_⟩
  · rw [houtgoing, hcallsFrom]
    constructor
    · rintro ⟨e, he, rfl, hends⟩
      obtain ⟨c, hc, hcall⟩ :=
        (mem_outgoingCalls_iff declaration).mp (List.mem_eraseDups.mp he)
      have hwords := hwords.of_mem_preorder (hsites c hc)
      have hcalls := (Node.calls_iff_shows hwords hname).mpr ⟨_, hcall.shows, hcall.shown, hends⟩
      exact ⟨c, hc, hcall.kind, Node.callsSymbol_iff.mpr hcalls, hcall.line.symm⟩
    · rintro ⟨c, hc, hkind, hcalls, rfl⟩
      have hwords := hwords.of_mem_preorder (hsites c hc)
      obtain ⟨shown, hshows, hne, hends⟩ :=
        (Node.calls_iff_shows hwords hname).mp (Node.callsSymbol_iff.mp hcalls)
      refine ⟨⟨shown, c.node.startLine⟩, ?_, rfl, hends⟩
      exact List.mem_eraseDups.mpr
        ((mem_outgoingCalls_iff declaration).mpr ⟨c, hc, hkind, hshows, hne, rfl⟩)
  · rintro c ⟨hc, hkind, hcalls, rfl⟩
    rw [hincoming, List.mem_eraseDups]
    exact mem_incomingCalls_of_callsSymbol (hsites c hc) hkind hcalls

/-!
The document `function go() { o.stop(); stop() }`.
-/

namespace GoStops

open Node

def memberCall : Node :=
  inLine .callExpression none 16 24
    [inLine .memberExpression (some .function) 16 22
      [inLine .identifier (some .object) 16 17, inLine (.token ".") none 17 18,
        inLine .propertyIdentifier (some .property) 18 22],
      emptyParens "arguments" .arguments 22]

def plainCall : Node :=
  inLine .callExpression none 26 32
    [inLine .identifier (some .function) 26 30, emptyParens "arguments" .arguments 30]

def body : Node :=
  inLine .statementBlock (some .body) 14 34
    [inLine (.token "\x7b") none 14 15,
      inLine (.other "expression_statement") none 16 25
        [memberCall, inLine (.token ";") none 24 25],
      inLine (.other "expression_statement") none 26 32 [plainCall],
      inLine (.token "\x7d") none 33 34]

def go : Node :=
  inLine .functionDeclaration none 0 34
    [inLine (.token "function") none 0 8, inLine .identifier (some .name) 9 11,
      emptyParens "formal_parameters" .parameters 11, body]

def program : Node := inLine .program none 0 34 [go]

def unit : Piece := ⟨"0", "0.js", "function go() \x7b o.stop(); stop() \x7d"⟩

def document : Parsed := ⟨program, .ofString unit.text⟩

def snapshot : Snapshot := ⟨[unit], 1, by decide⟩

end GoStops

open GoStops in
/-- The function `go` calls `stop` as a member and by itself. -/
theorem outgoing_dual_incoming_goStops :
    (∀ dialect text p, parseSource dialect text = .ok p →
      p.root.Everywhere (Node.NamesWord p.source)) ∧
    ∃ g h, CallGraph.build (fun _ => .ok document) snapshot "go" "0" false = .ok g ∧
      CallGraph.build (fun _ => .ok document) snapshot "stop" "0" false = .ok h ∧
      ((∃ e ∈ g.outgoing, e.line = 1 ∧ EndsIn e.name "stop") ↔
        ∃ c, Site.CallsAt document.source "stop" 1 ⟨go, [program]⟩ c) ∧
      ∀ c, Site.CallsAt document.source "stop" 1 ⟨go, [program]⟩ c →
        ⟨"0", c.callerLabel document.source, 1⟩ ∈ h.incoming := by
  refine ⟨fun _ _ _ hparse => parseSource_namesWord hparse, ?_⟩
  have hsites : ∀ s ∈ document.root.sites, s.node.NamesWord document.source := by decide +kernel
  have hfirst : IsFirst (fun d : Site => d.node.Declares document.source "go")
      document.root.sites [⟨program, []⟩] ⟨go, [program]⟩ := by
    refine ⟨⟨_, rfl⟩, .ofFunction rfl (by decide +kernel), ?_⟩
    intro d hd
    rw [List.mem_singleton.mp hd, ← Node.declares_iff]
    decide
  exact outgoing_dual_incoming (fun _ => .ok document) snapshot (u := unit) List.mem_cons_self rfl
    (.of_forall_mem_preorder hsites) hfirst (by decide) 1

end BundleAtlas
