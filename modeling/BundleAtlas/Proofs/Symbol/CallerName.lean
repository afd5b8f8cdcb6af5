import BundleAtlas.Proofs.Symbol.Scope
import BundleAtlas.Proofs.Symbol.Visitors

/-!
Callers under the names of the inventory. The inventory finds the function of
a variable on the way down, through any number of parentheses; the label of a
call is found on the way up, where only the node right around the function is
asked for a name. The two agree on declared functions and on functions that
are a value as they stand. A function in parentheses is listed under its
variable, but its calls come from an anonymous function.
-/

namespace BundleAtlas

namespace Site

/-- What stands at a site inside a number of parentheses, with the way down to
it. Each pair of them holds its first construct that is no comment. -/
inductive Inside : Nat → Site → Site → Prop
  | itself {s : Site} (hkind : s.node.kind ≠ .parenthesized) : Inside 0 s s
  | parens {s t : Site} {first : Node} {depth : Nat} (hkind : s.node.kind = .parenthesized)
      (hfirst : s.node.properChildren.head? = some first)
      (hrest : Inside depth ⟨first, s.node :: s.above⟩ t) : Inside (depth + 1) s t

/-- The function that a declaration holds: a declared function is its own, and
a variable holds its value, inside a number of parentheses. -/
inductive HoldsFunction : Nat → Site → Site → Prop
  | declared {s : Site} (hkind : s.node.kind.isFunctionDeclaration = true) : HoldsFunction 0 s s
  | value {s fn : Site} {value : Node} {depth : Nat} (hkind : s.node.kind = .variableDeclarator)
      (hvalue : s.node.child? .value = some value)
      (hinside : Inside depth ⟨value, s.node :: s.above⟩ fn)
      (hfn : fn.node.kind.isFunctionValue = true) : HoldsFunction depth s fn

/-- The innermost function around a site: no ancestor nearer than it opens a
function. -/
structure InnermostIn (s fn : Site) : Prop where
  opens : fn.node.kind.isFunctionLike = true
  nearest : ∃ between, s.above = between ++ fn.node :: fn.above ∧
    ∀ n ∈ between, n.kind.isFunctionLike = false

theorem enclosing?_eq_some_of_innermostIn {s fn : Site} (h : s.InnermostIn fn) :
    s.enclosing? = some fn := by
  obtain ⟨hopens, between, habove, hbetween⟩ := h
  rw [enclosing?, habove]
  clear habove
  induction between with
  | nil => simp [enclosing?.go, hopens]
  | cons n between ih =>
      have hn : n.kind.isFunctionLike = false := hbetween n List.mem_cons_self
      rw [List.cons_append, enclosing?.go, hn]
      exact ih fun m hm => hbetween m (List.mem_cons_of_mem n hm)

theorem Inside.mem_preorder {root : Node} {above : List Node} {depth : Nat} {s t : Site}
    (h : Inside depth s t) (hs : s ∈ root.preorder above) : t ∈ root.preorder above := by
  induction h with
  | itself _ => exact hs
  | parens _ hfirst _ ih =>
      exact ih (Node.mem_preorder_of_mem_children hs (Node.mem_children_of_head? hfirst))

/-- The node right around what stands in parentheses is the innermost pair. -/
theorem Inside.parent? {depth : Nat} {s t : Site} (h : Inside depth s t) :
    depth = 0 ∧ t = s ∨ 0 < depth ∧ ∃ pair, t.parent? = some pair ∧ pair.kind = .parenthesized := by
  induction h with
  | itself _ => exact Or.inl ⟨rfl, rfl⟩
  | @parens s t first depth hkind _ _ ih =>
      refine Or.inr ⟨by omega, ?_⟩
      rcases ih with ⟨_, rfl⟩ | ⟨_, pair, hpair, hpairKind⟩
      · exact ⟨s.node, rfl, hkind⟩
      · exact ⟨pair, hpair, hpairKind⟩

theorem exists_inside_of_bare {n m : Node} (h : Node.Bare n m) (above : List Node) :
    ∃ depth t, Inside depth ⟨n, above⟩ t ∧ t.node = m := by
  induction h generalizing above with
  | @itself n hkind => exact ⟨0, ⟨n, above⟩, .itself hkind, rfl⟩
  | @inside n first m hkind hfirst _ ih =>
      obtain ⟨depth, t, hinside, hnode⟩ := ih (n :: above)
      exact ⟨depth + 1, t, .parens hkind hfirst hinside, hnode⟩

namespace HoldsFunction

variable {depth : Nat} {s fn : Site}

theorem mem_sites {root : Node} (h : HoldsFunction depth s fn) (hs : s ∈ root.sites) :
    fn ∈ root.sites := by
  cases h with
  | declared _ => exact hs
  | value _ hvalue hinside _ =>
      have hmem := List.mem_of_find?_eq_some hvalue
      exact hinside.mem_preorder (Node.mem_preorder_of_mem_children hs hmem)

/-- A function in parentheses goes by no name, and any other one by the name
of the entry. -/
theorem functionLabel_eq {unit : Piece} {src : Source} {e : SymbolEntry}
    (h : HoldsFunction depth s fn) (hentry : s.entry? unit src = some e) :
    fn.functionLabel src = if depth = 0 then e.name else anonymous := by
  obtain ⟨hname, hdeclares⟩ := declares_of_entry? hentry
  cases h with
  | declared hkind =>
      have hdeclared : s.node.declaredName src = e.name := by
        cases hdeclares with
        | ofFunction _ hdeclared => exact hdeclared
        | ofClass _ hdeclared => exact hdeclared
        | ofVariable hvariable _ _ _ =>
            rw [hvariable] at hkind
            cases hkind
      simp [functionLabel, hkind, hdeclared, Node.nameOrAnonymous_of_ne hname]
  | value hkind _ hinside hfn =>
      obtain ⟨hdeclaration, hmethod⟩ := Kind.of_isFunctionValue hfn
      rcases hinside.parent? with ⟨rfl, rfl⟩ | ⟨hdepth, pair, hpair, hpairKind⟩
      · have hbound : s.node.declaratorName src = e.name := by
          cases hdeclares with
          | ofFunction hother _ =>
              rw [hkind] at hother
              cases hother
          | ofClass hother _ =>
              rw [hkind] at hother
              cases hother
          | ofVariable _ hbound _ _ => exact hbound
        simp [functionLabel, parent?, hdeclaration, hmethod, hkind, hbound,
          Node.nameOrAnonymous_of_ne hname]
      · have hunnamed : depth ≠ 0 := by omega
        simp [functionLabel, hdeclaration, hmethod, hpair, hpairKind, hunnamed, Kind.isClassField]

end HoldsFunction

theorem kind_of_isClassDeclaration {unit : Piece} {src : Source} {s : Site} {e : SymbolEntry}
    (hentry : s.entry? unit src = some e) (hclass : s.node.kind.isClassDeclaration = true) :
    e.kind = .classDecl := by
  have hfunction := Kind.not_isFunctionDeclaration_of_isClassDeclaration hclass
  simp only [ entry?, hfunction, hclass, Bool.false_eq_true, if_false, if_true] at hentry
  split at hentry
  · cases hentry
  · cases hentry
    rfl

/-- Every entry but that of a class comes with its function. -/
theorem exists_holdsFunction {unit : Piece} {src : Source} {s : Site} {e : SymbolEntry}
    (hentry : s.entry? unit src = some e) (hkind : e.kind ≠ .classDecl) :
    ∃ depth fn, HoldsFunction depth s fn := by
  obtain ⟨_, hdeclares⟩ := declares_of_entry? hentry
  cases hdeclares with
  | ofFunction hfunction _ => exact ⟨0, s, .declared hfunction⟩
  | ofClass hclass _ => exact absurd (kind_of_isClassDeclaration hentry hclass) hkind
  | ofVariable hvariable _ hvalue hfn =>
      obtain ⟨value, hchild, hbare⟩ := hvalue
      obtain ⟨depth, fn, hinside, rfl⟩ := exists_inside_of_bare hbare (s.node :: s.above)
      exact ⟨depth, fn, .value hvariable hchild hinside hfn⟩

end Site

/-- Every symbol of the inventory that is no class has a function in the
document, and the calls that stand in it are named as the symbol, unless the
function stands in parentheses: then they come from an anonymous function. -/
theorem caller_named_as_listed (unit : Piece) (p : Parsed) {e : SymbolEntry}
    (hlisted : e ∈ collectSymbols unit p) (hkind : e.kind ≠ .classDecl) :
    (∃ s ∈ p.root.sites, s.entry? unit p.source = some e) ∧
    ∀ s ∈ p.root.sites, s.entry? unit p.source = some e →
      (∃ depth fn, s.HoldsFunction depth fn) ∧
      ∀ depth fn, s.HoldsFunction depth fn →
        fn ∈ p.root.sites ∧
        ∀ call ∈ p.root.sites, call.node.kind = .callExpression → call.InnermostIn fn →
          call.callerLabel p.source = if depth = 0 then e.name else anonymous := by
  rw [collectSymbols, Node.walk_eq_sites] at hlisted
  refine ⟨List.mem_filterMap.mp hlisted, ?_⟩
  intro s hs hentry
  refine ⟨Site.exists_holdsFunction hentry hkind, ?_⟩
  intro depth fn hholds
  refine ⟨hholds.mem_sites hs, ?_⟩
  intro call _ _ hinnermost
  rw [Site.callerLabel, Site.enclosing?_eq_some_of_innermostIn hinnermost]
  exact hholds.functionLabel_eq hentry

/-!
The document `const go = (() => stop()), run = () => go();`.
-/

namespace ParenthesizedGo

open Node

def stopCall : Node :=
  inLine .callExpression (some .body) 18 24
    [inLine .identifier (some .function) 18 22, emptyParens "arguments" .arguments 22]

def goFunction : Node :=
  inLine .arrowFunction none 12 24
    [emptyParens "formal_parameters" .parameters 12, inLine (.token "=>") none 15 17, stopCall]

def goValue : Node :=
  inLine .parenthesized (some .value) 11 25
    [inLine (.token "(") none 11 12, goFunction, inLine (.token ")") none 24 25]

def goDeclarator : Node :=
  inLine .variableDeclarator none 6 25
    [inLine .identifier (some .name) 6 8, inLine (.token "=") none 9 10, goValue]

def goCall : Node :=
  inLine .callExpression (some .body) 39 43
    [inLine .identifier (some .function) 39 41, emptyParens "arguments" .arguments 41]

def runFunction : Node :=
  inLine .arrowFunction (some .value) 33 43
    [emptyParens "formal_parameters" .parameters 33, inLine (.token "=>") none 36 38, goCall]

def runDeclarator : Node :=
  inLine .variableDeclarator none 27 43
    [inLine .identifier (some .name) 27 30, inLine (.token "=") none 31 32, runFunction]

def statement : Node :=
  inLine .lexicalDeclaration none 0 44
    [inLine (.token "const") (some .kind) 0 5, goDeclarator, inLine (.token ",") none 25 26,
      runDeclarator, inLine (.token ";") none 43 44]

def program : Node := inLine .program none 0 44 [statement]

def unit : Piece := ⟨"0", "0.js", "const go = (() => stop()), run = () => go();"⟩

def document : Parsed := ⟨program, .ofString unit.text⟩

def goEntry : SymbolEntry := ⟨"0", "0.js", "go", .variableFunction, 1, 1, [], "const go = () => ..."⟩

def runEntry : SymbolEntry :=
  ⟨"0", "0.js", "run", .variableFunction, 1, 1, [], "const run = () => ..."⟩

end ParenthesizedGo

open ParenthesizedGo in
/-- The value of `run` stands as it is, so the call in it comes from `run`. -/
theorem caller_named_as_listed_run :
    runEntry ∈ collectSymbols unit document ∧ runEntry.kind ≠ .classDecl ∧
    Site.callerLabel document.source ⟨goCall, [runFunction, runDeclarator, statement, program]⟩ =
      "run" := by
  have hlisted : runEntry ∈ collectSymbols unit document := by decide +kernel
  have hkind : runEntry.kind ≠ .classDecl := by decide
  have hsite : ⟨runDeclarator, [statement, program]⟩ ∈ document.root.sites :=
    List.mem_of_getElem? (i := 20) rfl
  have hcall : ⟨goCall, [runFunction, runDeclarator, statement, program]⟩ ∈ document.root.sites :=
    List.mem_of_getElem? (i := 28) rfl
  obtain ⟨_, hcalls⟩ := ((caller_named_as_listed unit document hlisted hkind).2 _ hsite rfl).2 0
    ⟨runFunction, [runDeclarator, statement, program]⟩ (.value rfl rfl (.itself (by decide)) rfl)
  exact ⟨hlisted, hkind, hcalls _ hcall rfl ⟨rfl, [], rfl, by simp⟩⟩

open ParenthesizedGo in
/-- The value of `go` stands in parentheses: `go` is listed and holds the
function around the call of `stop`, but the call does not come from `go`. -/
theorem parenthesized_function_unnamed :
    goEntry ∈ collectSymbols unit document ∧ goEntry.kind = .variableFunction ∧
    ∃ s ∈ document.root.sites, s.entry? unit document.source = some goEntry ∧
    ∃ fn, s.HoldsFunction 1 fn ∧
    ∃ call ∈ document.root.sites, call.node.kind = .callExpression ∧ call.InnermostIn fn ∧
      call.callerLabel document.source ≠ goEntry.name := by
  refine ⟨by decide +kernel, rfl, ⟨goDeclarator, [statement, program]⟩,
    List.mem_of_getElem? (i := 3) rfl, rfl,
    ⟨goFunction, [goValue, goDeclarator, statement, program]⟩,
    .value rfl rfl (.parens rfl rfl (.itself (by decide))) rfl,
    ⟨stopCall, [goFunction, goValue, goDeclarator, statement, program]⟩,
    List.mem_of_getElem? (i := 13) rfl, rfl, ⟨rfl, [], rfl, by simp⟩, by decide⟩

end BundleAtlas
