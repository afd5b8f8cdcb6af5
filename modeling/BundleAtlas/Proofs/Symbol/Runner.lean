import BundleAtlas.Proofs.Grammar.FunctionForm
import BundleAtlas.Proofs.Symbol.CallerName

/-!
The function that runs a call. Being called, a function runs what stands in its
parameters and in its body. The node of a method holds its key and decorators
as well, which run when the class is set up, in the function around it. A call
is named by the nearest function around it, whatever part of the function it
stands in; so the name is that of the function that runs the call, unless the
call stands in another part of the nearest one.
-/

namespace BundleAtlas

namespace Site

/-- A function runs a site: the site is one of its parameters or its body, or
stands below one. -/
inductive RunsIn : Site → Site → Prop
  | part {n fn : Node} {above : List Node} {f : Field} (hopens : fn.kind.isFunctionLike = true)
      (hpart : n.field = some f) (hrun : f.isRun = true) : RunsIn ⟨n, fn :: above⟩ ⟨fn, above⟩
  | deeper {n m : Node} {above : List Node} {fn : Site} (hruns : RunsIn ⟨m, above⟩ fn) :
      RunsIn ⟨n, m :: above⟩ fn

/-- The innermost function that runs a site, if there is one. -/
def IsRunner (s : Site) : Option Site → Prop
  | none => ∀ fn, ¬ s.RunsIn fn
  | some fn => s.RunsIn fn ∧ ∀ other, s.RunsIn other → other.above.length ≤ fn.above.length

/-- The label of a function, or that of code outside all functions. -/
def labelOf (src : Source) : Option Site → String
  | none => topLevel
  | some fn => fn.functionLabel src

theorem RunsIn.suffix {s fn : Site} (h : s.RunsIn fn) : fn.node :: fn.above <:+ s.above := by
  induction h with
  | part _ _ _ => exact List.suffix_refl _
  | deeper _ ih => exact ih.trans (List.suffix_cons _ _)

theorem RunsIn.length_lt {s fn : Site} (h : s.RunsIn fn) : fn.above.length < s.above.length := by
  have hle := h.suffix.length_le
  rw [List.length_cons] at hle
  omega

/-- Ancestors of a site are told apart by their depth. -/
theorem eq_of_suffix {s fn other : Site} (hfn : fn.node :: fn.above <:+ s.above)
    (hother : other.node :: other.above <:+ s.above)
    (hlength : fn.above.length = other.above.length) : fn = other := by
  have hsuffix : fn.node :: fn.above <:+ other.node :: other.above :=
    List.suffix_of_suffix_length_le hfn hother (by simp [hlength])
  have hsame := hsuffix.eq_of_length (by simp [hlength])
  obtain ⟨n, above⟩ := fn
  obtain ⟨m, otherAbove⟩ := other
  obtain ⟨rfl, rfl⟩ := List.cons.inj hsame
  rfl

theorem IsRunner.unique {s : Site} {runner other : Option Site} (h : s.IsRunner runner)
    (hother : s.IsRunner other) : other = runner := by
  cases runner with
  | none =>
      cases other with
      | none => rfl
      | some fn => exact absurd hother.1 (h fn)
  | some fn =>
      cases other with
      | none => exact absurd h.1 (hother fn)
      | some outer =>
          have hle := h.2 outer hother.1
          have hge := hother.2 fn h.1
          rw [eq_of_suffix hother.1.suffix h.1.suffix (by omega)]

theorem runsIn_parent_iff {n m : Node} {above : List Node} :
    RunsIn ⟨n, m :: above⟩ ⟨m, above⟩ ↔
      (m.kind.isFunctionLike && n.field.any Field.isRun) = true := by
  rw [Bool.and_eq_true, Option.any_eq_true]
  constructor
  · intro hruns
    cases hruns with
    | part hopens hpart hrun => exact ⟨hopens, _, hpart, hrun⟩
    | deeper hruns => exact absurd hruns.length_lt (Nat.lt_irrefl _)
  · rintro ⟨hopens, f, hpart, hrun⟩
    exact .part hopens hpart hrun

/-- A site that its parent does not run is run by the functions that run its
parent. -/
theorem runsIn_iff_of_not_parent {n m : Node} {above : List Node} {fn : Site}
    (hparent : ¬ RunsIn ⟨n, m :: above⟩ ⟨m, above⟩) :
    RunsIn ⟨n, m :: above⟩ fn ↔ RunsIn ⟨m, above⟩ fn := by
  constructor
  · intro hruns
    cases hruns with
    | part hopens hpart hrun => exact absurd (.part hopens hpart hrun) hparent
    | deeper hruns => exact hruns
  · exact .deeper

/-- The function that runs a site, found on the way up. -/
def runner? (n : Node) : List Node → Option Site
  | [] => none
  | m :: above =>
      if m.kind.isFunctionLike && n.field.any Field.isRun then some ⟨m, above⟩ else runner? m above

theorem isRunner_congr {s t : Site} (hsame : ∀ fn, s.RunsIn fn ↔ t.RunsIn fn)
    (runner : Option Site) : s.IsRunner runner ↔ t.IsRunner runner := by
  cases runner <;> simp only [IsRunner, hsame]

theorem isRunner_runner? (n : Node) (above : List Node) :
    IsRunner ⟨n, above⟩ (runner? n above) := by
  induction above generalizing n with
  | nil =>
      intro fn hruns
      cases hruns
  | cons m above ih =>
      rw [runner?]
      split
      · rename_i hhere
        refine ⟨runsIn_parent_iff.mpr hhere, ?_⟩
        intro other hother
        have hlt := hother.length_lt
        simp only [List.length_cons] at hlt ⊢
        omega
      · rename_i hhere
        have hparent : ¬ RunsIn ⟨n, m :: above⟩ ⟨m, above⟩ := mt runsIn_parent_iff.mp hhere
        exact (isRunner_congr (fun _ => runsIn_iff_of_not_parent hparent) _).mpr (ih m)

theorem RunsIn.opens {s fn : Site} (h : s.RunsIn fn) : fn.node.kind.isFunctionLike = true := by
  induction h with
  | part hopens _ _ => exact hopens
  | deeper _ ih => exact ih

/-- The search upwards stops at the innermost function, and ends without one
only where no ancestor opens a function. -/
theorem enclosing?_cases (s : Site) :
    (∃ fn, s.InnermostIn fn) ∨
      s.enclosing? = none ∧ ∀ n ∈ s.above, n.kind.isFunctionLike = false := by
  obtain ⟨n, above⟩ := s
  induction above generalizing n with
  | nil => exact Or.inr ⟨rfl, by simp⟩
  | cons m above ih =>
      cases hlike : m.kind.isFunctionLike with
      | true => exact Or.inl ⟨⟨m, above⟩, hlike, [], rfl, by simp⟩
      | false =>
          rcases ih m with ⟨fn, hopens, between, habove, hbetween⟩ | ⟨hnone, hall⟩
          · refine Or.inl ⟨fn, hopens, m :: between, by simpa using habove, ?_⟩
            exact List.forall_mem_cons.mpr ⟨hlike, hbetween⟩
          · refine Or.inr ⟨?_, List.forall_mem_cons.mpr ⟨hlike, hall⟩⟩
            rw [enclosing?, enclosing?.go, hlike]
            exact hnone

/-- No function that runs a site is nearer to it than the innermost one around
it. -/
theorem InnermostIn.length_le {s fn other : Site} (h : s.InnermostIn fn)
    (hruns : s.RunsIn other) : other.above.length ≤ fn.above.length := by
  obtain ⟨_, between, habove, hbetween⟩ := h
  by_contra hnearer
  obtain ⟨nearer, hnearerAbove⟩ := hruns.suffix
  have hfn : fn.node :: fn.above <:+ other.above := by
    refine List.suffix_of_suffix_length_le ⟨between, habove.symm⟩
      ((List.suffix_cons _ _).trans hruns.suffix) ?_
    rw [List.length_cons]
    omega
  obtain ⟨farther, hfarther⟩ := hfn
  -- Then it stands between the site and the innermost function.
  have hsplit : nearer ++ other.node :: farther ++ fn.node :: fn.above =
      between ++ fn.node :: fn.above := by
    rw [← habove, ← hnearerAbove, ← hfarther]
    simp
  have hmem : other.node ∈ between := by
    rw [← List.append_cancel_right hsplit]
    simp
  have hopens := hruns.opens
  rw [hbetween other.node hmem] at hopens
  cases hopens

theorem InnermostIn.length_lt {s fn other : Site} (h : s.InnermostIn fn)
    (hruns : s.RunsIn other) (hnot : ¬ s.RunsIn fn) : other.above.length < fn.above.length := by
  have hle := h.length_le hruns
  have hne : other.above.length ≠ fn.above.length := by
    intro hlength
    obtain ⟨between, habove, _⟩ := h.nearest
    have hsame := eq_of_suffix hruns.suffix ⟨between, habove.symm⟩ hlength
    exact hnot (hsame ▸ hruns)
  omega

theorem InnermostIn.isRunner {s fn : Site} (h : s.InnermostIn fn) (hruns : s.RunsIn fn) :
    s.IsRunner (some fn) :=
  ⟨hruns, fun _ => h.length_le⟩

theorem isRunner_none {s : Site} (hnone : ∀ n ∈ s.above, n.kind.isFunctionLike = false) :
    s.IsRunner none := by
  intro fn hruns
  have hopens := hruns.opens
  rw [hnone fn.node (hruns.suffix.subset List.mem_cons_self)] at hopens
  cases hopens

theorem callerLabel_of_innermostIn {src : Source} {s fn : Site} (h : s.InnermostIn fn) :
    s.callerLabel src = fn.functionLabel src := by
  rw [callerLabel, enclosing?_eq_some_of_innermostIn h]

theorem RunsIn.of_mem_preorder {n : Node} {above : List Node} {s fn : Site}
    (h : RunsIn ⟨n, above⟩ fn) (hmem : s ∈ n.preorder above) : s.RunsIn fn := by
  induction n using Node.tree_induction generalizing above with
  | step n ih =>
      rw [Node.preorder_eq] at hmem
      rcases List.mem_cons.mp hmem with rfl | hbelow
      · exact h
      · obtain ⟨child, hchild, hsite⟩ := List.mem_flatMap.mp hbelow
        exact ih child hchild (.deeper h) hsite

/-- A site with a function around it stands in a part of the function. -/
theorem exists_part {root : Node} {s fn : Site} {between : List Node} (hs : s ∈ root.sites)
    (habove : s.above = between ++ fn.node :: fn.above) :
    fn ∈ root.sites ∧ ∃ part ∈ fn.node.children, s ∈ part.preorder (fn.node :: fn.above) := by
  induction between generalizing s with
  | nil =>
      rcases Node.parent_of_mem_preorder hs with rfl | ⟨m, rest, hparent, hnode, hmem⟩
      · cases habove
      · obtain ⟨rfl, rfl⟩ := List.cons.inj (hparent.symm.trans habove)
        refine ⟨hmem, s.node, hnode, ?_⟩
        rw [Node.preorder_eq, ← hparent]
        exact List.mem_cons_self
  | cons m between ih =>
      rcases Node.parent_of_mem_preorder hs with rfl | ⟨n, rest, hparent, hnode, hmem⟩
      · cases habove
      · obtain ⟨rfl, rfl⟩ := List.cons.inj (hparent.symm.trans habove)
        obtain ⟨hfn, part, hpart, hin⟩ := ih hmem rfl
        refine ⟨hfn, part, hpart, ?_⟩
        have hbelow := Node.mem_preorder_of_mem_children hin hnode
        rwa [← hparent] at hbelow

end Site

/-- A call in a part of a function that the function does not run stands in the
key or in a decorator of a method, or in a type. -/
theorem Node.IsPartOf.of_call {fn part : Node} {call : Site} {above : List Node}
    (hpart : part.IsPartOf (fn.kind == .methodDefinition)) (hform : part.FollowsFunctionForm)
    (hcall : call.node.kind = .callExpression) (hmem : call ∈ part.preorder above)
    (hrun : ∀ f, part.field = some f → f.isRun = false) :
    fn.kind = .methodDefinition ∧ (part.field = some .name ∨ part.kind = .other "decorator") ∨
      part.kind.isSignatureType = true := by
  have hleaf : part.children = [] → part.kind = .callExpression := by
    intro hchildren
    rw [Node.preorder_eq, hchildren, List.flatMap_nil, List.mem_singleton] at hmem
    rw [← hcall, hmem]
  cases hpart with
  | run hfield hruns =>
      rw [hrun _ hfield] at hruns
      cases hruns
  | leaf hchildren hkind => exact absurd (hleaf hchildren) hkind
  | comment hkind =>
      have hcomment := hleaf (hform.comment hkind)
      rw [hkind] at hcomment
      cases hcomment
  | key hmethod hfield => exact Or.inl ⟨by simpa using hmethod, Or.inl hfield⟩
  | decorator hmethod hkind => exact Or.inl ⟨by simpa using hmethod, Or.inr hkind⟩
  | type hkind => exact Or.inr hkind

/-- A call that the nearest function does not run stands, in a text that can be
read, in the key or in a decorator of a method, or in a type. -/
theorem Site.InnermostIn.exists_part_of_call {dialect : Option String} {text : String} {p : Parsed}
    {call fn : Site} (h : call.InnermostIn fn) (hparse : parseSource dialect text = .ok p)
    (hcall : call ∈ p.root.sites) (hkind : call.node.kind = .callExpression)
    (hnot : ¬ call.RunsIn fn) :
    ∃ part ∈ fn.node.children, call ∈ part.preorder (fn.node :: fn.above) ∧
      (fn.node.kind = .methodDefinition ∧
          (part.field = some .name ∨ part.kind = .other "decorator") ∨
        part.kind.isSignatureType = true) := by
  obtain ⟨dialect, hparse⟩ := exists_parse_of_parseSource hparse
  obtain ⟨between, habove, _⟩ := h.nearest
  obtain ⟨hsite, part, hpart, hmem⟩ := Site.exists_part hcall habove
  have hform := (Dialect.parse_followsFunctionForm hparse).of_mem_preorder hsite
  refine ⟨part, hpart, hmem, ?_⟩
  refine (hform.here.parts h.opens part hpart).of_call (hform.of_mem_children hpart).here hkind
    hmem ?_
  intro f hfield
  cases hrun : f.isRun with
  | false => rfl
  | true =>
      have hruns : Site.RunsIn ⟨part, fn.node :: fn.above⟩ fn := .part h.opens hfield hrun
      exact absurd (hruns.of_mem_preorder hmem) hnot

/-- For every call there is one function that runs it, or none, and the call is
named by it, unless the call stands in another part of the nearest function
than its parameters and its body. Such a call is named by the nearest function
nevertheless, and the function that runs it, if there is one, is farther out.
If the document is a text that was read, the part is the key or a decorator of
a method, or a type. -/
theorem caller_runs_call (p : Parsed) :
    ∀ call ∈ p.root.sites, call.node.kind = .callExpression →
      ∃ runner, (∀ other, call.IsRunner other ↔ other = runner) ∧
        ((∀ fn, call.InnermostIn fn → call.RunsIn fn) →
          call.callerLabel p.source = Site.labelOf p.source runner) ∧
        ∀ fn, call.InnermostIn fn → ¬ call.RunsIn fn →
          call.callerLabel p.source = fn.functionLabel p.source ∧
          (∀ outer, runner = some outer → outer.above.length < fn.above.length) ∧
          ∀ dialect text, parseSource dialect text = .ok p →
            ∃ part ∈ fn.node.children, call ∈ part.preorder (fn.node :: fn.above) ∧
              (fn.node.kind = .methodDefinition ∧
                  (part.field = some .name ∨ part.kind = .other "decorator") ∨
                part.kind.isSignatureType = true) := by
  intro call hcall hkind
  have hrunner := Site.isRunner_runner? call.node call.above
  generalize Site.runner? call.node call.above = runner at hrunner
  have hunique : ∀ other, call.IsRunner other ↔ other = runner :=
    fun other => ⟨hrunner.unique, fun hsame => hsame ▸ hrunner⟩
  refine ⟨runner, hunique, ?_, ?_⟩
  · intro hnearest
    rcases call.enclosing?_cases with ⟨fn, hfn⟩ | ⟨hnone, hall⟩
    · rw [← (hunique _).mp (hfn.isRunner (hnearest fn hfn)), Site.callerLabel_of_innermostIn hfn]
      rfl
    · rw [← (hunique _).mp (Site.isRunner_none hall), Site.callerLabel, hnone]
      rfl
  · intro fn hfn hnot
    refine ⟨Site.callerLabel_of_innermostIn hfn, ?_, ?_⟩
    · rintro outer rfl
      exact hfn.length_lt hrunner.1 hnot
    · intro dialect text hparse
      exact hfn.exists_part_of_call hparse hcall hkind hnot

/-!
The document `function make() { class A { @dec() run(x = go()) {} } }`.
-/

namespace DecoratedMethod

open Node

def decCall : Node :=
  inLine .callExpression none 29 34
    [inLine .identifier (some .function) 29 32, emptyParens "arguments" .arguments 32]

def decorator : Node :=
  inLine (.other "decorator") none 28 34 [inLine (.token "@") none 28 29, decCall]

def goCall : Node :=
  inLine .callExpression none 43 47
    [inLine .identifier (some .function) 43 45, emptyParens "arguments" .arguments 45]

def parameter : Node :=
  inLine .assignmentPattern none 39 47
    [inLine .identifier (some .left) 39 40, inLine (.token "=") none 41 42, goCall]

def parameters : Node :=
  inLine (.other "formal_parameters") (some .parameters) 38 48
    [inLine (.token "(") none 38 39, parameter, inLine (.token ")") none 47 48]

def run : Node :=
  inLine .methodDefinition none 28 51
    [decorator, inLine .propertyIdentifier (some .name) 35 38, parameters,
      inLine .statementBlock (some .body) 49 51
        [inLine (.token "\x7b") none 49 50, inLine (.token "\x7d") none 50 51]]

def classBody : Node :=
  inLine .classBody (some .body) 26 53
    [inLine (.token "\x7b") none 26 27, run, inLine (.token "\x7d") none 52 53]

def classA : Node :=
  inLine .classDeclaration none 18 53
    [inLine (.token "class") none 18 23, inLine .identifier (some .name) 24 25, classBody]

def block : Node :=
  inLine .statementBlock (some .body) 16 55
    [inLine (.token "\x7b") none 16 17, classA, inLine (.token "\x7d") none 54 55]

def make : Node :=
  inLine .functionDeclaration none 0 55
    [inLine (.token "function") none 0 8, inLine .identifier (some .name) 9 13,
      emptyParens "formal_parameters" .parameters 13, block]

def program : Node := inLine .program none 0 55 [make]

def document : Parsed :=
  ⟨program, .ofString "function make() \x7b class A \x7b @dec() run(x = go()) \x7b\x7d \x7d \x7d"⟩

/-- The call that the method runs. -/
def goSite : Site :=
  ⟨goCall, [parameter, parameters, run, classBody, classA, block, make, program]⟩

/-- The call that `make` runs when it sets up the class. -/
def decSite : Site := ⟨decCall, [decorator, run, classBody, classA, block, make, program]⟩

def runSite : Site := ⟨run, [classBody, classA, block, make, program]⟩

def makeSite : Site := ⟨make, [program]⟩

end DecoratedMethod

open DecoratedMethod in
/-- The call in the parameters of `run` is run by `run`, and comes from it. -/
theorem caller_runs_call_goSite :
    goSite ∈ document.root.sites ∧ goSite.node.kind = .callExpression ∧
    goSite.IsRunner (some runSite) ∧ goSite.callerLabel document.source = "run" := by
  have hsite : goSite ∈ document.root.sites := List.mem_of_getElem? (i := 28) rfl
  have hnearest : goSite.InnermostIn runSite := ⟨rfl, [parameter, parameters], rfl, by decide⟩
  have hruns : goSite.RunsIn runSite := .deeper (.deeper (.part rfl rfl rfl))
  obtain ⟨runner, hunique, hlabel, _⟩ := caller_runs_call document goSite hsite rfl
  have hrunner : some runSite = runner := (hunique _).mp (hnearest.isRunner hruns)
  refine ⟨hsite, rfl, (hunique _).mpr hrunner, ?_⟩
  rw [hlabel, ← hrunner]
  · decide +kernel
  · intro fn hfn
    have hsame := Site.enclosing?_eq_some_of_innermostIn hfn
    rw [Site.enclosing?_eq_some_of_innermostIn hnearest] at hsame
    exact Option.some_inj.mp hsame ▸ hruns

open DecoratedMethod in
/-- The call in the decorator of `run` is run by `make`, but comes from
`run`. -/
theorem decorator_call_named_by_method :
    decSite ∈ document.root.sites ∧ decSite.node.kind = .callExpression ∧
    decSite.IsRunner (some makeSite) ∧ makeSite.functionLabel document.source = "make" ∧
    decSite.callerLabel document.source = "run" := by
  have hrunner : Site.runner? decSite.node decSite.above = some makeSite := rfl
  exact ⟨List.mem_of_getElem? (i := 17) rfl, rfl, hrunner ▸ Site.isRunner_runner? _ _,
    by decide +kernel, by decide +kernel⟩

end BundleAtlas
