import Mathlib.Data.List.Infix
import BundleAtlas.Proofs.Symbol.CallGraph
import BundleAtlas.Proofs.Symbol.Scope
import BundleAtlas.Proofs.Symbol.Shape

/-!
The edges of a call graph, one by one. Which calls a unit contributes, in
which order and under which label, is said by rules on its tree; the graph has
exactly these edges, each at its first occurrence.
-/

namespace BundleAtlas

/-- Going through items in order, the results of those that have one. -/
inductive Gathers {α β : Type} (R : α → β → Prop) : List α → List β → Prop
  | nil : Gathers R [] []
  | take {x : α} {y : β} {xs : List α} {ys : List β} (hresult : R x y) (hrest : Gathers R xs ys) :
      Gathers R (x :: xs) (y :: ys)
  | skip {x : α} {xs : List α} {ys : List β} (hnone : ∀ y, ¬ R x y) (hrest : Gathers R xs ys) :
      Gathers R (x :: xs) ys

/-- Where a function decides a relation, gathering is mapping. -/
theorem gathers_map_iff {ι α β : Type} {R : α → β → Prop} {g : ι → α} {f : ι → Option β}
    (hf : ∀ x y, f x = some y ↔ R (g x) y) (xs : List ι) (ys : List β) :
    Gathers R (xs.map g) ys ↔ ys = xs.filterMap f := by
  induction xs generalizing ys with
  | nil =>
      constructor
      · intro h
        cases h
        rfl
      · rintro rfl
        exact .nil
  | cons x xs ih =>
      cases hx : f x with
      | none =>
          have hnone : ∀ y, ¬ R (g x) y := by
            intro y hy
            rw [← hf, hx] at hy
            cases hy
          rw [List.filterMap_cons_none hx, ← ih]
          constructor
          · intro h
            cases h with
            | take hresult _ => exact absurd hresult (hnone _)
            | skip _ hrest => exact hrest
          · exact .skip hnone
      | some y =>
          have hresult : R (g x) y := (hf x y).mp hx
          rw [List.filterMap_cons_some hx]
          constructor
          · intro h
            cases h with
            | take hother hrest =>
                rw [← hf, hx] at hother
                cases hother
                rw [(ih _).mp hrest]
            | skip hnone _ => exact absurd hresult (hnone y)
          · rintro rfl
            exact .take hresult ((ih _).mpr rfl)

theorem Gathers.exists_of_mem {α β : Type} {R : α → β → Prop} {xs : List α} {ys : List β} {y : β}
    (h : Gathers R xs ys) (hy : y ∈ ys) : ∃ x ∈ xs, R x y := by
  induction h with
  | nil => cases hy
  | @take x y' xs ys hresult _ ih =>
      rcases List.mem_cons.mp hy with rfl | hrest
      · exact ⟨x, List.mem_cons_self, hresult⟩
      · obtain ⟨z, hz, hzy⟩ := ih hrest
        exact ⟨z, List.mem_cons_of_mem x hz, hzy⟩
  | @skip x _ _ _ _ ih =>
      obtain ⟨z, hz, hzy⟩ := ih hy
      exact ⟨z, List.mem_cons_of_mem x hz, hzy⟩

theorem Gathers.mem_of_mem {α β : Type} {R : α → β → Prop} {xs : List α} {ys : List β} {x : α}
    {y : β} (h : Gathers R xs ys) (hx : x ∈ xs) (hresult : R x y)
    (hunique : ∀ z, R x z → z = y) : y ∈ ys := by
  induction h with
  | nil => cases hx
  | take hfirst _ ih =>
      rcases List.mem_cons.mp hx with rfl | hrest
      · rw [hunique _ hfirst]
        exact List.mem_cons_self
      · exact List.mem_cons_of_mem _ (ih hrest)
  | skip hnone _ ih =>
      rcases List.mem_cons.mp hx with rfl | hrest
      · exact absurd hresult (hnone y)
      · exact ih hrest

/-- The nodes of a tree, each before its children. -/
def Node.nodes (n : Node) : List Node := (n.preorder []).map (·.node)

/-- What stands above a tree does not matter for its nodes. -/
theorem Node.map_node_preorder (above : List Node) (n : Node) :
    (n.preorder above).map (·.node) = n.nodes := by
  have hany : ∀ other, (n.preorder above).map (·.node) = (n.preorder other).map (·.node) := by
    intro other
    induction n using tree_induction generalizing above other with
    | step n ih =>
        rw [preorder_eq above, preorder_eq other]
        simp only [List.map_cons, List.map_flatMap]
        refine congrArg _ (List.flatMap_congr fun c hc => ?_)
        exact ih c hc (n :: above) (n :: other)
  exact hany []

/-- A node is a call that is shown, and this is how. -/
structure IsOutgoing (src : Source) (n : Node) (c : OutgoingCall) : Prop where
  kind : n.kind = .callExpression
  shows : n.Shows src c.name
  shown : c.name ≠ ""
  line : c.line = n.startLine

/-- A node in the scope of a function is a call of a symbol, and this is how. -/
structure IsIncoming (src : Source) (symbol unitId : String) (place : Node × Option Scope)
    (c : IncomingCall) : Prop where
  kind : place.1.kind = .callExpression
  calls : place.1.Calls src symbol
  unit : c.callerUnitId = unitId
  label : CallerLabel src place.2 c.callerName
  line : c.line = place.1.startLine

/-- The calls that the first declaration of a symbol makes in a unit; none if
the unit cannot be read or has no declaration of the symbol. -/
inductive OutgoingOf (parse : Parse) (symbol : String) (u : Piece) : List OutgoingCall → Prop
  | unread {e : Fault} (hparse : parse u.text = .error e) : OutgoingOf parse symbol u []
  | undeclared {p : Parsed} (hparse : parse u.text = .ok p)
      (hnone : ∀ n ∈ p.root.nodes, ¬ n.Declares p.source symbol) : OutgoingOf parse symbol u []
  | declared {p : Parsed} {before behind : List Node} {declaration : Node}
      {calls : List OutgoingCall} (hparse : parse u.text = .ok p)
      (horder : p.root.nodes = before ++ declaration :: behind)
      (hbefore : ∀ n ∈ before, ¬ n.Declares p.source symbol)
      (hdeclares : declaration.Declares p.source symbol)
      (hcalls : Gathers (IsOutgoing p.source) declaration.nodes calls) :
      OutgoingOf parse symbol u calls

/-- The calls of a symbol in a unit; none if the unit cannot be read. -/
inductive IncomingOf (parse : Parse) (symbol : String) (u : Piece) : List IncomingCall → Prop
  | unread {e : Fault} (hparse : parse u.text = .error e) : IncomingOf parse symbol u []
  | read {p : Parsed} {calls : List IncomingCall} (hparse : parse u.text = .ok p)
      (hcalls : Gathers (IsIncoming p.source symbol u.id) (p.root.descent none none) calls) :
      IncomingOf parse symbol u calls

/-- The calls of a declaration are gathered from its nodes. -/
theorem gathers_outgoing_iff {src : Source} {declaration : Node} {calls : List OutgoingCall} :
    Gathers (IsOutgoing src) declaration.nodes calls ↔ calls = declaration.outgoingCalls src := by
  rw [Node.nodes, Node.outgoingCalls, Node.walk_eq_preorder]
  refine gathers_map_iff ?_ _ _
  intro s c
  constructor
  · intro h
    split at h
    · rename_i hkind
      dsimp only at h
      split at h
      · cases h
      · rename_i hshown
        have hshown : s.node.calleeName src ≠ "" := by simpa using hshown
        cases h
        exact ⟨by simpa using hkind, (Node.calleeName_eq_iff hshown).mp rfl, hshown, rfl⟩
    · cases h
  · rintro ⟨hkind, hshows, hshown, hline⟩
    have hname := (Node.calleeName_eq_iff hshown).mpr hshows
    obtain ⟨name, line⟩ := c
    subst hline hname
    simp [hkind, hshown]

/-- The calls of a symbol are gathered on the way down from the root. -/
theorem gathers_incoming_iff {unitId : String} {p : Parsed} {symbol : String}
    {calls : List IncomingCall} :
    Gathers (IsIncoming p.source symbol unitId) (p.root.descent none none) calls ↔
      calls = incomingCalls unitId p symbol := by
  have hdescent : p.root.descent none none = _ := p.root.descent_eq_preorder []
  rw [hdescent, incomingCalls, Node.walk_eq_preorder]
  refine gathers_map_iff ?_ _ _
  intro s c
  constructor
  · intro h
    split at h
    · rename_i hcall
      rw [Bool.and_eq_true] at hcall
      cases h
      exact ⟨by simpa using hcall.1, Node.callsSymbol_iff.mp hcall.2, rfl,
        Site.callerLabel_eq_iff.mp rfl, rfl⟩
    · cases h
  · rintro ⟨hkind, hcalls, hunit, hlabel, hline⟩
    have hname := Site.callerLabel_eq_iff.mpr hlabel
    obtain ⟨caller, name, line⟩ := c
    subst hunit hline hname
    dsimp only at hkind
    simp [hkind, Node.callsSymbol_iff.mpr hcalls]

namespace CallGraph

variable {parse : Parse} {symbol : String} {u : Piece}

theorem findDeclaration?_eq (src : Source) (name : String) (root : Node) :
    root.findDeclaration? src name = root.nodes.find? (Node.declares src name) := by
  rw [Node.findDeclaration?, Node.walk_eq_preorder, Node.nodes]

/-- The rules for the calls of a declaration admit one list. -/
theorem outgoingOf_iff {calls : List OutgoingCall} :
    OutgoingOf parse symbol u calls ↔ calls = callsFrom parse symbol u := by
  unfold callsFrom
  constructor
  · intro h
    cases h with
    | unread hparse => rw [hparse]
    | undeclared hparse hnone =>
        have hfind := List.find?_eq_none.mpr fun n hn => mt Node.declares_iff.mp (hnone n hn)
        simp only [hparse, findDeclaration?_eq, hfind]
    | @declared p before behind declaration calls hparse horder hbefore hdeclares hcalls =>
        have hfind : p.root.nodes.find? (Node.declares p.source symbol) = some declaration := by
          refine List.find?_eq_some_iff_append.mpr ⟨Node.declares_iff.mpr hdeclares, before,
            behind, horder, fun n hn => ?_⟩
          simpa using mt Node.declares_iff.mp (hbefore n hn)
        simp only [hparse, findDeclaration?_eq, hfind]
        exact gathers_outgoing_iff.mp hcalls
  · rintro rfl
    cases hparse : parse u.text with
    | error e => exact .unread hparse
    | ok p =>
        simp only [findDeclaration?_eq]
        cases hfind : p.root.nodes.find? (Node.declares p.source symbol) with
        | none =>
            refine .undeclared hparse fun n hn hdeclares => ?_
            exact List.find?_eq_none.mp hfind n hn (Node.declares_iff.mpr hdeclares)
        | some declaration =>
            obtain ⟨hdeclares, before, behind, horder, hbefore⟩ :=
              List.find?_eq_some_iff_append.mp hfind
            refine .declared hparse horder (fun n hn hn' => ?_) (Node.declares_iff.mp hdeclares)
              (gathers_outgoing_iff.mpr rfl)
            have := hbefore n hn
            simp [Node.declares_iff.mpr hn'] at this

/-- The rules for the calls of a symbol in a unit admit one list. -/
theorem incomingOf_iff {calls : List IncomingCall} :
    IncomingOf parse symbol u calls ↔ calls = callsIn parse symbol u := by
  unfold callsIn
  constructor
  · intro h
    cases h with
    | unread hparse => rw [hparse]
    | read hparse hcalls =>
        rw [hparse]
        exact gathers_incoming_iff.mp hcalls
  · rintro rfl
    cases hparse : parse u.text with
    | error e => exact .unread hparse
    | ok p => exact .read hparse (gathers_incoming_iff.mpr rfl)

theorem candidates_eq (s : Snapshot) (symbol : String) (target : Piece) (everywhere : Bool) :
    candidates s symbol target everywhere =
      if everywhere then s.units.filter fun u => symbol.toList <:+: u.text.toList
      else [target] := by
  unfold candidates
  split
  · refine List.filter_congr fun u _ => ?_
    rw [Text.occursIn, Bool.eq_iff_iff, Text.occurs_iff_infix, decide_eq_true_iff]
  · rfl

end CallGraph

/-- The graph of a symbol has exactly the edges that the rules give, each at
its first occurrence: outgoing ones from the first declaration in the target,
incoming ones from the target alone or from all units that mention the symbol,
in their order. For each unit the rules admit one list of calls. -/
theorem call_graph_edges (parse : Parse) (s : Snapshot) (symbol : String) (everywhere : Bool)
    {unitId : String} (hunit : unitId ∈ s.ids) :
    ∃ target ∈ s.units, target.id = unitId ∧
    ∃ g, CallGraph.build parse s symbol unitId everywhere = .ok g ∧
      g.outgoing.Nodup ∧ g.incoming.Nodup ∧
      (∃ calls, (∀ other, OutgoingOf parse symbol target other ↔ other = calls) ∧
        g.outgoing = calls.eraseDups) ∧
      (∃ calls : Piece → List IncomingCall,
        (∀ u other, IncomingOf parse symbol u other ↔ other = calls u) ∧
        g.incoming = ((if everywhere then
            s.units.filter fun u => symbol.toList <:+: u.text.toList
          else [target]).flatMap calls).eraseDups) := by
  obtain ⟨target, htarget, hid, g, hbuild, houtgoing, houtnodup, hincoming, hinnodup, _⟩ :=
    CallGraph.build_of_mem_ids parse symbol everywhere hunit
  refine ⟨target, htarget, hid, g, hbuild, houtnodup, hinnodup, ?_, ?_⟩
  · exact ⟨_, fun _ => CallGraph.outgoingOf_iff, houtgoing⟩
  · refine ⟨_, fun _ _ => CallGraph.incomingOf_iff, ?_⟩
    rw [hincoming, CallGraph.candidates_eq]

/-- A unit that declares `go` as the value of a variable, and one that calls it
from a method and from a class field. -/
def declarationOfGo : Snapshot :=
  ⟨[⟨"0", "0.js", "const go = (function () { o.stop(); stop() })"⟩,
    ⟨"1", "1.js", "class A { run() { go() } later = () => this.go() }"⟩], 1, by decide⟩

theorem call_graph_edges_declarationOfGo :
    "0" ∈ declarationOfGo.ids ∧
    ∃ target ∈ declarationOfGo.units, target.id = "0" ∧
    ∃ g, CallGraph.build (parseSource none) declarationOfGo "go" "0" true = .ok g ∧
      g.outgoing.Nodup ∧ g.incoming.Nodup ∧
      (∃ calls, (∀ other, OutgoingOf (parseSource none) "go" target other ↔ other = calls) ∧
        g.outgoing = calls.eraseDups) ∧
      (∃ calls : Piece → List IncomingCall,
        (∀ u other, IncomingOf (parseSource none) "go" u other ↔ other = calls u) ∧
        g.incoming = ((if true then
            declarationOfGo.units.filter fun u => "go".toList <:+: u.text.toList
          else [target]).flatMap calls).eraseDups) :=
  ⟨by decide, call_graph_edges (parseSource none) declarationOfGo "go" true (by decide)⟩

end BundleAtlas
