import BundleAtlas.Proofs.Dialect.TypedForm
import BundleAtlas.Proofs.Grammar.Part

/-!
Parameters in both forms. In the dialect with types a parameter stands in a
node of its own, and a value to fall back on is a part of that node; the mark
for a parameter that may be left out then comes from there. A plain parameter is
shown the same in both forms.
-/

namespace BundleAtlas

namespace Node

theorem renderRest_eq (src : Source) (cs : List Node) :
    renderRest src cs = (cs.filter isProper).head?.elim "" (renderParameter src) := by
  induction cs with
  | nil => rw [renderRest]; rfl
  | cons c cs ih =>
      rw [renderRest, ih, List.filter_cons]
      by_cases hproper : c.isProper
      · have hboth : (c.isNamed && !c.isComment) = true := hproper
        simp [hproper, hboth]
      · have hboth : ¬ (c.isNamed && !c.isComment) = true := hproper
        simp only [hproper, hboth, if_false, Bool.false_eq_true]

theorem renderPattern_eq (src : Source) (cs : List Node) :
    renderPattern src cs = (cs.find? (·.field == some .pattern)).map (renderParameter src) := by
  induction cs with
  | nil => rw [renderPattern]; rfl
  | cons c cs ih =>
      rw [renderPattern, ih, List.find?_cons]
      by_cases hpattern : c.field == some .pattern
      · simp [hpattern]
      · simp [hpattern]

/-- How a parameter is shown, by its parts. -/
theorem renderParameter_def (src : Source) (n : Node) :
    n.renderParameter src =
      match n.kind with
      | .objectPattern | .arrayPattern => destructured
      | .assignmentPattern => match n.child? .left with
        | some left => if left.kind == .identifier then src.text left ++ "?" else destructured
        | none => destructured
      | .restPattern => "..." ++ n.properChildren.head?.elim "" (renderParameter src)
      | .requiredParameter => match (n.child? .pattern).map (renderParameter src) with
        | none => src.text n
        | some shown => if shown != destructured && (n.child? .value).isSome then shown ++ "?"
          else shown
      | .optionalParameter => match (n.child? .pattern).map (renderParameter src) with
        | none => src.text n
        | some shown => if shown != destructured then shown ++ "?" else shown
      | _ => src.text n := by
  obtain ⟨k, f, start, stop, cs⟩ := n
  cases k with
  | restPattern =>
      rw [renderParameter, renderRest_eq]
      dsimp only
      rw [properChildren_eq_filter]
  | requiredParameter | optionalParameter =>
      rw [renderParameter, renderPattern_eq]
      rfl
  | assignmentPattern =>
      cases hleft : child? ⟨.assignmentPattern, f, start, stop, cs⟩ .left with
      | none => simp [renderParameter, hleft]
      | some left => simp [renderParameter, hleft]
  | _ => simp [renderParameter]

end Node

namespace Node.Counterpart

variable {n n' : Node} {src : Source}

/-- The part of a parameter that is shown is shown the same. -/
theorem map_renderParameter_child? (h : Counterpart n n') (hk : n.kind.adapts = false)
    (f : Field)
    (hchildren : ∀ c ∈ n.children, c.typed.renderParameter src = c.renderParameter src) :
    (n'.child? f).map (renderParameter src) = (n.child? f).map (renderParameter src) := by
  rw [h.child?_eq_map_typed hk, Option.map_map]
  cases hchild : n.child? f with
  | none => rfl
  | some c => exact congrArg some (hchildren c (List.mem_of_find?_eq_some hchild))

theorem renderParameter_eq (h : Counterpart n n') :
    n'.renderParameter src = n.renderParameter src := by
  induction n using tree_induction generalizing n' with
  | step n ih =>
      have hchildren : ∀ c ∈ n.children, c.typed.renderParameter src = c.renderParameter src :=
        fun c hc => ih c hc c.counterpart_typed
      rw [renderParameter_def src n', renderParameter_def src n, h.kind]
      cases hkind : n.kind with
      | assignmentPattern =>
          have hplain : n.kind.adapts = false := by rw [hkind]; rfl
          simp only [Kind.typed]
          rw [h.child?_eq_map_typed hplain]
          cases n.child? .left with
          | none => rfl
          | some left =>
              have hleft := left.counterpart_typed
              simp only [Option.map_some, hleft.ask (· == .identifier) rfl, hleft.text_eq]
      | restPattern =>
          have hplain : n.kind.adapts = false := by rw [hkind]; rfl
          simp only [Kind.typed]
          rw [h.properChildren_eq_map, List.head?_map]
          cases hhead : n.properChildren.head? with
          | none => rfl
          | some c =>
              simp only [Option.map_some, adapted_of_not_adapts hplain, Option.elim_some,
                hchildren c (mem_children_of_head? hhead)]
      | requiredParameter =>
          have hplain : n.kind.adapts = false := by rw [hkind]; rfl
          simp only [Kind.typed]
          rw [h.map_renderParameter_child? hplain .pattern hchildren,
            h.child?_eq_map_typed hplain, Option.isSome_map, h.text_eq]
      | optionalParameter =>
          have hplain : n.kind.adapts = false := by rw [hkind]; rfl
          simp only [Kind.typed]
          rw [h.map_renderParameter_child? hplain .pattern hchildren, h.text_eq]
      | objectPattern | arrayPattern => rfl
      | _ => exact h.text_eq

end Node.Counterpart

namespace Node

/-- A plain parameter: a name or a pattern, one of these with a value to fall
back on, or what takes the remaining values. -/
inductive PlainParameter : Node → Prop
  | name {n : Node} (hkind : n.kind = .identifier) : PlainParameter n
  | pattern {n : Node} (hkind : n.kind.isDestructuring = true) : PlainParameter n
  | default {n left right : Node} (hkind : n.kind = .assignmentPattern)
      (hleft : n.child? .left = some left)
      (hbinds : left.kind = .identifier ∨ left.kind.isDestructuring = true)
      (hright : right ∈ n.properChildren) (hvalue : right.field ≠ some .left) : PlainParameter n
  | rest {n inner : Node} (hkind : n.kind = .restPattern)
      (hinner : n.properChildren.head? = some inner) (hplain : PlainParameter inner) :
      PlainParameter n

/-- If the node is a list of parameters, all of them are plain. -/
def HasPlainParameters (n : Node) : Prop :=
  n.kind = .formalParameters → ∀ c ∈ n.properChildren, c.PlainParameter

variable {src : Source} {n : Node}

theorem renderParameter_of_isDestructuring (hkind : n.kind.isDestructuring = true) :
    n.renderParameter src = destructured := by
  rw [renderParameter_def]
  cases hn : n.kind <;> simp_all [Kind.isDestructuring]

theorem renderParameter_of_identifier (hkind : n.kind = .identifier) :
    n.renderParameter src = src.text n := by
  rw [renderParameter_def, hkind]

theorem field_defaultPart (n : Node) :
    (n.defaultPart.field == some .pattern) = (n.field == some .left) := by
  unfold defaultPart
  dsimp only
  split_ifs with hleft hproper
  · simp [hleft]
  · simp [hleft]
  · simp [hleft]

theorem asParameter_typed_children (hkind : n.kind = .assignmentPattern) :
    n.typed.asParameter.children = n.children.map fun c => c.typed.defaultPart := by
  have hplain : n.kind.adapts = false := by
    rw [hkind]
    rfl
  have htyped : n.typed.kind = .assignmentPattern := by
    rw [typed_kind, hkind]
    rfl
  unfold asParameter
  rw [if_pos (by simpa using htyped)]
  dsimp only
  rw [n.counterpart_typed.children_eq_map_typed hplain, List.map_map]
  rfl

/-- The left side of a parameter with a value to fall back on is its pattern. -/
theorem child?_pattern_asParameter (hkind : n.kind = .assignmentPattern) :
    n.typed.asParameter.child? .pattern = (n.child? .left).map fun c => c.typed.defaultPart := by
  have hpart : ((fun c : Node => c.field == some .pattern) ∘ fun c : Node => c.typed.defaultPart) =
      fun c => c.field == some .left := by
    funext c
    simp only [Function.comp_apply, field_defaultPart, typed_field]
  unfold child?
  rw [asParameter_typed_children hkind, List.find?_map, hpart]

/-- The right side is the value. -/
theorem child?_value_asParameter (hkind : n.kind = .assignmentPattern) {right : Node}
    (hright : right ∈ n.properChildren) (hvalue : right.field ≠ some .left) :
    (n.typed.asParameter.child? .value).isSome = true := by
  rw [properChildren_eq_filter, List.mem_filter] at hright
  unfold child?
  rw [asParameter_typed_children hkind, List.find?_isSome]
  refine ⟨right.typed.defaultPart, List.mem_map_of_mem hright.1, ?_⟩
  unfold defaultPart
  simp [isProper_typed, hright.2, hvalue]

/-- A plain parameter is shown the same in a node of its own. If it has a value
to fall back on, its name must not look like that of a pattern, which gets no
mark. -/
theorem renderParameter_asParameter (hplain : n.PlainParameter)
    (hwords : n.Everywhere (FollowsPlainGrammar src)) :
    n.typed.asParameter.renderParameter src = n.renderParameter src := by
  by_cases hkind : n.kind = .assignmentPattern
  · cases hplain with
    | name hother | rest hother _ _ => simp [hkind] at hother
    | pattern hother => simp [hkind, Kind.isDestructuring] at hother
    | @default _ left right _ hleft hbinds hright hvalue =>
        have hrequired : n.typed.asParameter.kind = .requiredParameter := by
          unfold asParameter
          split_ifs <;> rfl
        have hsome := child?_value_asParameter hkind hright hvalue
        have hshown : left.typed.defaultPart.renderParameter src = left.renderParameter src :=
          (left.counterpart_typed.withField _).renderParameter_eq
        rw [renderParameter_def src n, renderParameter_def src n.typed.asParameter, hrequired,
          hkind]
        simp only [child?_pattern_asParameter hkind, hleft, Option.map_some, hshown, hsome]
        rcases hbinds with hname | hpattern
        · have hword := (hwords.of_child? hleft).here.word hname
          simp [renderParameter_of_identifier hname, hname, hword]
        · have hother : left.kind ≠ .identifier := by
            intro hname
            simp [hname, Kind.isDestructuring] at hpattern
          simp [renderParameter_of_isDestructuring hpattern, hother]
  · have htyped : (n.typed.kind == .assignmentPattern) = false := by
      rw [n.counterpart_typed.ask (· == .assignmentPattern) rfl]
      simpa using hkind
    have hshown : renderParameter src { n.typed with field := some .pattern } =
        n.renderParameter src := (n.counterpart_typed.withField _).renderParameter_eq
    unfold asParameter
    rw [htyped, renderParameter_def]
    simpa [child?] using hshown

theorem renderParameter_adapted {k : Kind}
    (hplain : k = .formalParameters → n.isProper = true → n.PlainParameter)
    (hwords : n.Everywhere (FollowsPlainGrammar src)) :
    (adapted k n.typed).renderParameter src = n.renderParameter src := by
  unfold adapted
  split_ifs with hparameter hkey hname
  · simp only [Bool.and_eq_true, beq_iff_eq, isProper_typed] at hparameter
    exact renderParameter_asParameter (hplain hparameter.1 hparameter.2) hwords
  · exact (n.counterpart_typed.withField _).renderParameter_eq
  · have hkind : n.kind = .identifier := by
      simp only [Bool.and_eq_true, n.counterpart_typed.ask (· == .identifier) rfl,
        beq_iff_eq] at hname
      exact hname.2
    rw [renderParameter_def, renderParameter_of_identifier hkind]
    exact n.counterpart_typed.text_eq
  · exact n.counterpart_typed.renderParameter_eq

/-- What is asked of a plain document: its nodes follow the plain grammar, and
its parameters are plain. -/
structure IsPlain (src : Source) (n : Node) : Prop where
  grammar : n.FollowsPlainGrammar src
  parameters : n.HasPlainParameters

end Node

/-- The parameters of a function are shown the same in both forms. -/
theorem Node.Counterpart.renderParameters_eq {fn fn' : Node} {src : Source}
    (h : Counterpart fn fn') (hk : fn.kind.adapts = false)
    (hplain : fn.Everywhere (IsPlain src)) :
    fn'.renderParameters src = fn.renderParameters src := by
  unfold renderParameters parameterNodes
  rw [h.child?_eq_map_typed hk, h.child?_eq_map_typed hk]
  cases fn.child? .parameter with
  | some single =>
      simp only [Option.map_some, List.map_cons, List.map_nil,
        single.counterpart_typed.renderParameter_eq]
  | none =>
      cases hlist : fn.child? .parameters with
      | none => rfl
      | some list =>
          have hlistPlain := hplain.of_child? hlist
          simp only [Option.map_some, Option.map_none, list.counterpart_typed.properChildren_eq_map,
            List.map_map]
          apply List.map_congr_left
          intro c hc
          have hmem : c ∈ list.children := by
            rw [properChildren_eq_filter] at hc
            exact (List.mem_filter.mp hc).1
          apply renderParameter_adapted
          · exact fun hkind _ => hlistPlain.here.parameters hkind c hc
          · exact (hlistPlain.of_mem_children hmem).imp fun _ hm => hm.grammar

end BundleAtlas
