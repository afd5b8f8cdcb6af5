import Mathlib.Data.List.Flatten
import Mathlib.Data.List.Perm.Basic
import Mathlib.Data.List.Perm.Subperm
import BundleAtlas.Proofs.Grammar.Naming
import BundleAtlas.Proofs.Symbol.Visitors
import BundleAtlas.Symbol.Outline

/-!
The outline of a document against its inventory and against finding a symbol.
Functions and classes are collected from the sites that the inventory has
entries for. Variables are collected from the statements and exports from the
export around a declaration, so both are counted one node too early; moving
what a node has of its children down to the children changes the order and
nothing else.
-/

namespace BundleAtlas

/-- What the parent of a site has of it. -/
def Site.underParent {β : Type} (f : Node → Node → List β) (s : Site) : List β :=
  s.parent?.elim [] fun parent => f parent s.node

namespace Node

variable {β : Type}

/-- What all nodes of a tree have of their children is, up to the order, what
the sites below the topmost one are to their parents. -/
theorem perm_flatMap_below (f : Node → Node → List β) (above : List Node) (n : Node) :
    ((n.preorder above).flatMap fun s => s.node.children.flatMap (f s.node)).Perm
      ((n.children.flatMap (preorder (n :: above))).flatMap (Site.underParent f)) := by
  induction n using tree_induction generalizing above with
  | step n ih =>
      rw [preorder_eq, List.flatMap_cons, List.flatMap_assoc, List.flatMap_assoc]
      -- Each child has its own part first, then the parts of the sites below it.
      have hchild : ∀ c ∈ n.children,
          ((c.preorder (n :: above)).flatMap (Site.underParent f)).Perm
            (f n c ++ (c.preorder (n :: above)).flatMap
              fun s => s.node.children.flatMap (f s.node)) := by
        intro c hc
        have hbelow := ih c hc (n :: above)
        rw [preorder_eq (n :: above) c, List.flatMap_cons] at hbelow ⊢
        exact hbelow.symm.append_left (f n c)
      exact (List.flatMap_append_perm n.children (f n) _).trans
        (List.Perm.flatMap_left n.children fun c hc => (hchild c hc).symm)

theorem perm_flatMap_sites (f : Node → Node → List β) (root : Node) :
    (root.sites.flatMap fun s => s.node.children.flatMap (f s.node)).Perm
      (root.sites.flatMap (Site.underParent f)) := by
  have hroot : root.sites.flatMap (Site.underParent f) =
      (root.children.flatMap (preorder [root])).flatMap (Site.underParent f) := by
    rw [sites, preorder_eq]
    rfl
  rw [hroot]
  exact perm_flatMap_below f [] root

end Node

namespace Node

/-- A declarator that binds a plain name. -/
def bindsPlainName (n : Node) : Bool :=
  n.kind == .variableDeclarator && (n.child? .name).any (·.kind == .identifier)

variable {src : Source} {n : Node}

/-- Where names are words, a declarator has a name exactly if it binds a plain
one. -/
theorem isEmpty_declaratorName (hwords : n.Everywhere (NamesWord src)) :
    (n.declaratorName src).isEmpty = !(n.child? .name).any (·.kind == .identifier) := by
  unfold declaratorName
  cases hname : n.child? .name with
  | none => rfl
  | some name =>
      by_cases hkind : name.kind = .identifier
      · have hword : name.kind.isWord = true := by simp [Kind.isWord, hkind]
        have htext := ((hwords.of_child? hname).here hword).1
        simp [hkind, htext]
      · have hother : (name.kind == .identifier) = false := by simpa using hkind
        simp [hother]

theorem boundNames_eq (hwords : n.Everywhere (NamesWord src)) :
    n.boundNames src = n.children.flatMap fun c =>
      if c.bindsPlainName then [c.declaratorName src] else [] := by
  have hchildren : ∀ cs : List Node, (∀ c ∈ cs, c.Everywhere (NamesWord src)) →
      (((cs.filter isNamed).filter (·.kind == .variableDeclarator)).map
        (declaratorName src)).filter (!·.isEmpty) =
      cs.flatMap fun c => if c.bindsPlainName then [c.declaratorName src] else [] := by
    intro cs hcs
    induction cs with
    | nil => rfl
    | cons c cs ih =>
        have hrest := ih fun d hd => hcs d (List.mem_cons_of_mem c hd)
        have hempty := isEmpty_declaratorName (hcs c List.mem_cons_self)
        rw [List.flatMap_cons, ← hrest]
        by_cases hkind : c.kind = .variableDeclarator
        · have hnamed : c.isNamed = true := by simp [isNamed, hkind, Kind.isNamed]
          cases hplain : (c.child? .name).any (·.kind == .identifier) with
          | true => simp [hnamed, hkind, bindsPlainName, hplain, hempty]
          | false => simp [hnamed, hkind, bindsPlainName, hplain, hempty]
        · by_cases hnamed : c.isNamed = true
          · simp [hnamed, hkind, bindsPlainName]
          · simp [hnamed, hkind, bindsPlainName]
  exact hchildren n.children fun c hc => hwords.of_mem_children hc

/-- What an export gives out is what its declaration introduces by itself. -/
theorem exportNames_sublist (src : Source) (n : Node) :
    (n.exportNames src).Sublist
      (n.children.flatMap fun c => c.functionNames src ++ c.variableNames src) := by
  unfold exportNames exportedNames
  split
  · split
    · exact List.nil_sublist _
    · split
      · exact List.nil_sublist _
      · rename_i declaration hdeclaration
        have hmem : declaration ∈ n.children := List.mem_of_find?_eq_some hdeclaration
        have hinside := List.sublist_flatten_of_mem
          (List.mem_map_of_mem (f := fun c => c.functionNames src ++ c.variableNames src) hmem)
        rw [← List.flatMap_def] at hinside
        refine List.Sublist.trans ?_ hinside
        split
        · rename_i hfunction
          rw [functionNames, if_pos hfunction]
          exact List.sublist_append_left _ _
        · split
          · rename_i hvariable
            rw [variableNames, if_pos hvariable]
            exact List.sublist_append_right _ _
          · exact List.nil_sublist _
  · exact List.nil_sublist _

end Node

/-- A declarator of a plain name, directly inside a declaration statement. -/
def Site.bindsVariable (s : Site) : Bool :=
  s.node.bindsPlainName && s.parent?.any (·.kind.isVariableDeclaration)

/-- The entries of one kind that a site has, by name. -/
theorem Site.functionNames_eq (unit : Piece) (src : Source) (s : Site) :
    s.node.functionNames src =
      ((s.entry? unit src).toList.filter (·.kind == .functionDecl)).map (·.name) := by
  unfold Node.functionNames entry?
  by_cases hfunction : s.node.kind.isFunctionDeclaration
  · by_cases hname : s.node.declaredName src = ""
    · simp [hfunction, hname]
    · simp [hfunction, hname, entry]
  · simp only [hfunction, Bool.false_eq_true, if_false]
    split
    · split <;> simp [entry]
    · split
      · split
        · simp
        · split <;> simp [entry]
      · simp

theorem Site.classNames_eq (unit : Piece) (src : Source) (s : Site) :
    s.node.classNames src =
      ((s.entry? unit src).toList.filter (·.kind == .classDecl)).map (·.name) := by
  unfold Node.classNames entry?
  by_cases hclass : s.node.kind.isClassDeclaration
  · have hfunction := Kind.not_isFunctionDeclaration_of_isClassDeclaration hclass
    by_cases hname : s.node.declaredName src = ""
    · simp [hclass, hfunction, hname]
    · simp [hclass, hfunction, hname, entry]
  · simp only [hclass, Bool.false_eq_true, if_false]
    split
    · split <;> simp [entry]
    · split
      · split
        · simp
        · split <;> simp [entry]
      · simp

namespace Parsed

variable (p : Parsed)

/-- The sites of all variables of a document that are declared by a plain
name. -/
def variableSites : List Site := p.root.sites.filter Site.bindsVariable

theorem flatMap_node_walk {β : Type} (f : Node → List β) :
    (p.root.walk.map (·.node)).flatMap f = p.root.sites.flatMap fun s => f s.node := by
  rw [Node.walk_eq_sites, List.flatMap_map]

/-- The names that are collected site by site are those of the entries of one
kind. -/
theorem flatMap_eq_map_name (unit : Piece) (kind : SymbolKind) {names : Node → List String}
    (hnames : ∀ s : Site, names s.node =
      ((s.entry? unit p.source).toList.filter (·.kind == kind)).map (·.name)) :
    p.root.sites.flatMap (fun s => names s.node) =
      ((collectSymbols unit p).filter (·.kind == kind)).map (·.name) := by
  rw [collectSymbols, Node.walk_eq_sites, List.filterMap_eq_flatMap_toList, List.filter_flatMap,
    List.map_flatMap]
  exact List.flatMap_congr fun s _ => hnames s

theorem functions_eq (unit : Piece) : p.outline.functions =
    ((collectSymbols unit p).filter (·.kind == .functionDecl)).map (·.name) := by
  rw [← p.flatMap_eq_map_name unit .functionDecl (Site.functionNames_eq unit p.source)]
  exact p.flatMap_node_walk _

theorem classes_eq (unit : Piece) : p.outline.classes =
    ((collectSymbols unit p).filter (·.kind == .classDecl)).map (·.name) := by
  rw [← p.flatMap_eq_map_name unit .classDecl (Site.classNames_eq unit p.source)]
  exact p.flatMap_node_walk _

/-- The variables that are collected by statements are those of the declarators. -/
theorem variableNames_perm (hwords : p.root.Everywhere (Node.NamesWord p.source)) :
    (p.root.sites.flatMap fun s => s.node.variableNames p.source).Perm
      (p.variableSites.map fun s => s.node.declaratorName p.source) := by
  let bound (parent c : Node) : List String :=
    if parent.kind.isVariableDeclaration && c.bindsPlainName then [c.declaratorName p.source]
    else []
  have hstatement : ∀ s ∈ p.root.sites,
      s.node.variableNames p.source = s.node.children.flatMap (bound s.node) := by
    intro s hs
    have hnode := Node.boundNames_eq (hwords.of_mem_preorder hs)
    unfold Node.variableNames
    cases hkind : s.node.kind.isVariableDeclaration with
    | true => simp [hnode, bound, hkind]
    | false => simp [bound, hkind]
  have hsite : ∀ s : Site, s.underParent bound =
      if s.bindsVariable then [s.node.declaratorName p.source] else [] := by
    intro s
    unfold Site.underParent Site.bindsVariable
    cases s.parent? with
    | none => simp
    | some parent => simp [bound, and_comm]
  have hfilter : ∀ sites : List Site,
      (sites.filter Site.bindsVariable).map (fun s => s.node.declaratorName p.source) =
        sites.flatMap (Site.underParent bound) := by
    intro sites
    induction sites with
    | nil => rfl
    | cons s sites ih =>
        rw [List.flatMap_cons, ← ih, hsite s, List.filter_cons]
        split <;> simp
  rw [List.flatMap_congr hstatement, variableSites, hfilter]
  exact Node.perm_flatMap_sites bound p.root

/-- What a document exports is among its functions and variables, as often as
it is exported. -/
theorem exports_subperm (hwords : p.root.Everywhere (Node.NamesWord p.source)) :
    p.outline.exports.Subperm
      (p.outline.functions ++ p.variableSites.map fun s => s.node.declaratorName p.source) := by
  let introduced (n : Node) : List String := n.functionNames p.source ++ n.variableNames p.source
  have hexports : p.outline.exports.Subperm
      (p.root.sites.flatMap fun s => s.node.children.flatMap introduced) := by
    apply List.Sublist.subperm
    change ((p.root.walk.map (·.node)).flatMap (Node.exportNames p.source)).Sublist _
    rw [flatMap_node_walk]
    exact List.Sublist.flatMap_right _ fun s _ => s.node.exportNames_sublist p.source
  have hmoved : (p.root.sites.flatMap fun s => s.node.children.flatMap introduced).Perm
      (p.root.sites.flatMap (Site.underParent fun _ c => introduced c)) :=
    Node.perm_flatMap_sites (fun _ c => introduced c) p.root
  have hsites : (p.root.sites.flatMap (Site.underParent fun _ c => introduced c)).Subperm
      (p.root.sites.flatMap fun s => introduced s.node) := by
    apply List.Sublist.subperm
    refine List.Sublist.flatMap_right _ fun s _ => ?_
    unfold Site.underParent
    cases s.parent? with
    | none => exact List.nil_sublist _
    | some parent => exact List.Sublist.refl _
  have hapart : (p.root.sites.flatMap fun s => introduced s.node).Perm
      (p.outline.functions ++ p.variableSites.map fun s => s.node.declaratorName p.source) := by
    refine (List.flatMap_append_perm p.root.sites _ _).symm.trans ?_
    change List.Perm _ ((p.root.walk.map (·.node)).flatMap (Node.functionNames p.source) ++ _)
    rw [flatMap_node_walk]
    exact (p.variableNames_perm hwords).append_left _
  exact hexports.trans (hmoved.subperm.trans (hsites.trans hapart.subperm))

theorem exists_findSymbol {name : String} {s : Site} (hs : s ∈ p.root.sites)
    (hbinds : s.node.Binds p.source name) : ∃ found, p.findSymbol name = .ok found := by
  cases hfound : p.findSymbol name with
  | ok found => exact ⟨found, rfl⟩
  | error e => exact absurd hbinds (not_binds_of_findSymbol hfound s hs)

theorem findSymbol_of_mem_entries {unit : Piece} {kind : SymbolKind} {name : String}
    (hname : name ∈ ((collectSymbols unit p).filter (·.kind == kind)).map (·.name)) :
    ∃ found, p.findSymbol name = .ok found := by
  obtain ⟨e, he, rfl⟩ := List.mem_map.mp hname
  have hlisted := (List.mem_filter.mp he).1
  rw [collectSymbols, Node.walk_eq_sites] at hlisted
  obtain ⟨s, hs, hentry⟩ := List.mem_filterMap.mp hlisted
  exact p.exists_findSymbol hs (.declaring (Site.declares_of_entry? hentry).2)

theorem findSymbol_of_mem_variableSites {s : Site} (hs : s ∈ p.variableSites) :
    ∃ found, p.findSymbol (s.node.declaratorName p.source) = .ok found := by
  obtain ⟨hsite, hbinds⟩ := List.mem_filter.mp hs
  have hkind : s.node.kind = .variableDeclarator := by
    simp only [Site.bindsVariable, Node.bindsPlainName, Bool.and_eq_true, beq_iff_eq] at hbinds
    exact hbinds.1.1
  have hsymbol : s.symbol? p.source (s.node.declaratorName p.source) =
      some (s.declarationSpan p.source (s.node.declaratorName p.source)) := by
    simp [Site.symbol?, hkind, Kind.isFunctionDeclaration, Kind.isClassDeclaration]
  exact p.exists_findSymbol hsite (Site.binds_of_symbol? hsymbol)

theorem findSymbol_of_mem_exports (hwords : p.root.Everywhere (Node.NamesWord p.source))
    {name : String} (hname : name ∈ p.outline.exports) :
    ∃ found, p.findSymbol name = .ok found := by
  have hamong := (p.exports_subperm hwords).subset hname
  rcases List.mem_append.mp hamong with hfunction | hvariable
  · rw [p.functions_eq default] at hfunction
    exact p.findSymbol_of_mem_entries hfunction
  · obtain ⟨s, hs, rfl⟩ := List.mem_map.mp hvariable
    exact p.findSymbol_of_mem_variableSites hs

end Parsed

/-- The outline of a text that can be read, before its lists are cut. Its
functions and classes are the entries of these kinds in the inventory, in
their order. It counts the functions, and the declarators of a plain name that
stand directly in a declaration statement; every export is one of these
functions or variables, as often as it is exported. A symbol is found for every
name that it lists. -/
theorem outline_agrees_with_inventory (dialect : Option String) (text : String) (unit : Piece) :
    match parseSource dialect text with
    | .error e => ∀ limit, analyzeStructure (parseSource dialect) text limit = .error e
    | .ok p =>
      (∀ limit, analyzeStructure (parseSource dialect) text limit = .ok (p.outline.cut limit)) ∧
      p.outline.functions =
        ((collectSymbols unit p).filter (·.kind == .functionDecl)).map (·.name) ∧
      p.outline.classes =
        ((collectSymbols unit p).filter (·.kind == .classDecl)).map (·.name) ∧
      p.outline.totalFunctions = p.outline.functions.length ∧
      p.outline.totalVariables = p.variableSites.length ∧
      p.outline.exports.Subperm
        (p.outline.functions ++ p.variableSites.map fun s => s.node.declaratorName p.source) ∧
      ∀ name ∈ p.outline.functions ++ p.outline.classes ++ p.outline.exports,
        ∃ found, p.findSymbol name = .ok found := by
  cases hparse : parseSource dialect text with
  | error e =>
      intro limit
      simp only [analyzeStructure, hparse]
      rfl
  | ok p =>
      have hwords := parseSource_namesWord hparse
      have hfunctions := p.functions_eq unit
      have hclasses := p.classes_eq unit
      refine ⟨?_, hfunctions, hclasses, rfl, ?_, p.exports_subperm hwords, ?_⟩
      · intro limit
        simp only [analyzeStructure, hparse]
        rfl
      · have hcount := (p.variableNames_perm hwords).length_eq
        rw [List.length_map, ← p.flatMap_node_walk] at hcount
        exact hcount
      · intro name hname
        rcases List.mem_append.mp hname with hdeclared | hexported
        · rcases List.mem_append.mp hdeclared with hfunction | hclass
          · rw [hfunctions] at hfunction
            exact p.findSymbol_of_mem_entries hfunction
          · rw [hclasses] at hclass
            exact p.findSymbol_of_mem_entries hclass
        · exact p.findSymbol_of_mem_exports hwords hexported

end BundleAtlas
