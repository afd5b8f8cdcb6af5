import BundleAtlas.Proofs.Tree.Preorder
import BundleAtlas.Symbol.CallGraph

/-!
Shapes of declarations and calls, said as rules: what stands in parentheses,
which nodes declare a name, which calls call one, and how a callee is shown.
The functions that the analyses run decide these rules.
-/

namespace BundleAtlas

theorem Kind.not_isFunctionDeclaration_of_isClassDeclaration {k : Kind}
    (hclass : k.isClassDeclaration = true) : k.isFunctionDeclaration = false := by
  cases k <;> simp_all [isFunctionDeclaration, isClassDeclaration]

namespace Node

/-- What stands inside any number of parentheses. Each pair of them holds its
first construct that is no comment. -/
inductive Bare : Node → Node → Prop
  | itself {n : Node} (hkind : n.kind ≠ .parenthesized) : Bare n n
  | inside {n first m : Node} (hkind : n.kind = .parenthesized)
      (hfirst : n.properChildren.head? = some first) (hbare : Bare first m) : Bare n m

theorem bare?_eq_some_iff {n m : Node} : n.bare? = some m ↔ Bare n m := by
  constructor
  · intro hbare
    induction n using tree_induction with
    | step n ih =>
        rw [bare?_eq] at hbare
        split at hbare
        · rename_i hkind
          obtain ⟨first, hfirst, hrest⟩ := Option.bind_eq_some_iff.mp hbare
          exact .inside (by simpa using hkind) hfirst
            (ih first (mem_children_of_head? hfirst) hrest)
        · rename_i hkind
          cases hbare
          exact .itself (by simpa using hkind)
  · intro hbare
    induction hbare with
    | itself hkind => rw [bare?_eq, if_neg (by simpa using hkind)]
    | inside hkind hfirst _ ih =>
        rw [bare?_eq, if_pos (by simpa using hkind), hfirst]
        exact ih

/-- The part that a child plays in a node, seen through parentheses. -/
def BareChild (n : Node) (f : Field) (m : Node) : Prop :=
  ∃ child, n.child? f = some child ∧ Bare child m

theorem bareChild_iff {n m : Node} {f : Field} :
    (n.child? f).bind bare? = some m ↔ n.BareChild f m := by
  simp only [Option.bind_eq_some_iff, bare?_eq_some_iff, BareChild]

theorem callee?_eq_some_iff {call fn : Node} :
    call.callee? = some fn ↔ call.BareChild .function fn :=
  bareChild_iff

theorem BareChild.unique {n m o : Node} {f : Field} (hm : n.BareChild f m)
    (ho : n.BareChild f o) : m = o :=
  Option.some_inj.mp ((bareChild_iff.mpr hm).symm.trans (bareChild_iff.mpr ho))

/-- A node declares a name: as a function, as a class, or as a variable that
starts out as a function. -/
inductive Declares (src : Source) (name : String) (n : Node) : Prop
  | ofFunction (hkind : n.kind.isFunctionDeclaration = true) (hname : n.declaredName src = name)
  | ofClass (hkind : n.kind.isClassDeclaration = true) (hname : n.declaredName src = name)
  | ofVariable {fn : Node} (hkind : n.kind = .variableDeclarator)
      (hname : n.declaratorName src = name) (hvalue : n.BareChild .value fn)
      (hfn : fn.kind.isFunctionValue = true)

theorem declaratorFunction?_isSome_iff {n : Node} :
    n.declaratorFunction?.isSome = true ↔
      ∃ fn, n.BareChild .value fn ∧ fn.kind.isFunctionValue = true := by
  unfold declaratorFunction?
  simp only [← bareChild_iff]
  cases (n.child? .value).bind bare? with
  | none => simp
  | some value => by_cases hvalue : value.kind.isFunctionValue <;> simp [hvalue]

theorem declares_iff {src : Source} {name : String} {n : Node} :
    n.declares src name = true ↔ Declares src name n := by
  unfold declares
  constructor
  · intro h
    split at h
    · rename_i hkind
      rw [Bool.or_eq_true] at hkind
      rcases hkind with hfunction | hclass
      · exact .ofFunction hfunction (by simpa using h)
      · exact .ofClass hclass (by simpa using h)
    · simp only [Bool.and_eq_true, beq_iff_eq, declaratorFunction?_isSome_iff] at h
      obtain ⟨⟨hkind, hname⟩, fn, hvalue, hfn⟩ := h
      exact .ofVariable hkind hname hvalue hfn
  · intro h
    cases h with
    | ofFunction hkind hname => simp [hkind, hname]
    | ofClass hkind hname => simp [hkind, hname]
    | ofVariable hkind hname hvalue hfn =>
        have hsome := declaratorFunction?_isSome_iff.mpr ⟨_, hvalue, hfn⟩
        simp [hkind, hname, hsome, Kind.isFunctionDeclaration, Kind.isClassDeclaration]

/-- Through parentheses, the callee of a call is a member expression with a
property. -/
structure CallsMember (call fn property : Node) : Prop where
  callee : call.BareChild .function fn
  kind : fn.kind = .memberExpression
  child : fn.child? .property = some property
  propertyKind : property.kind = .propertyIdentifier

/-- A call calls a name: through parentheses, its callee is an identifier of
that text, or a member expression whose property has it. -/
inductive Calls (src : Source) (name : String) (call : Node) : Prop
  | function {fn : Node} (hcallee : call.BareChild .function fn) (hkind : fn.kind = .identifier)
      (htext : src.text fn = name)
  | member {fn property : Node} (hmember : CallsMember call fn property)
      (htext : src.text property = name)

theorem callsSymbol_iff {src : Source} {name : String} {call : Node} :
    call.callsSymbol src name = true ↔ Calls src name call := by
  unfold callsSymbol
  constructor
  · intro h
    split at h
    · cases h
    · rename_i fn hfn
      have hcallee := callee?_eq_some_iff.mp hfn
      split at h
      · rename_i hkind
        exact .function hcallee (by simpa using hkind) (by simpa using h)
      · split at h
        · rename_i hkind
          split at h
          · cases h
          · rename_i property hproperty
            simp only [Bool.and_eq_true, beq_iff_eq] at h
            exact .member ⟨hcallee, by simpa using hkind, hproperty, h.1⟩ h.2
        · cases h
  · intro h
    cases h with
    | function hcallee hkind htext =>
        rw [callee?_eq_some_iff.mpr hcallee]
        simp [hkind, htext]
    | member hmember htext =>
        rw [callee?_eq_some_iff.mpr hmember.callee]
        simp [hmember.kind, hmember.child, hmember.propertyKind, htext]

/-- How a callee is shown: an identifier as itself, and a member expression by
its property, behind the name of its object if that is an identifier. -/
inductive Shows (src : Source) (call : Node) : String → Prop
  | function {fn : Node} (hcallee : call.BareChild .function fn) (hkind : fn.kind = .identifier) :
      Shows src call (src.text fn)
  | memberOf {fn property object : Node} (hmember : CallsMember call fn property)
      (hobject : fn.BareChild .object object) (hobjectKind : object.kind = .identifier) :
      Shows src call (src.text object ++ "." ++ src.text property)
  | member {fn property : Node} (hmember : CallsMember call fn property)
      (hobject : ∀ object, fn.BareChild .object object → object.kind ≠ .identifier) :
      Shows src call ("." ++ src.text property)

theorem calleeName_of_shows {src : Source} {call : Node} {name : String}
    (h : Shows src call name) : call.calleeName src = name := by
  unfold calleeName
  cases h with
  | function hcallee hkind =>
      rw [callee?_eq_some_iff.mpr hcallee]
      simp [hkind]
  | memberOf hmember hobject hobjectKind =>
      rw [callee?_eq_some_iff.mpr hmember.callee]
      simp [hmember.kind, hmember.child, hmember.propertyKind, bareChild_iff.mpr hobject,
        hobjectKind]
  | @member fn property hmember hobject =>
      rw [callee?_eq_some_iff.mpr hmember.callee]
      simp only [hmember.kind, hmember.child, hmember.propertyKind]
      cases hfound : (fn.child? .object).bind bare? with
      | none => rfl
      | some object => simp [hobject object (bareChild_iff.mp hfound)]

theorem shows_of_calleeName {src : Source} {call : Node} {name : String}
    (hname : call.calleeName src = name) (hshown : name ≠ "") : Shows src call name := by
  unfold calleeName at hname
  split at hname
  · exact absurd hname.symm hshown
  · rename_i fn hfn
    have hcallee := callee?_eq_some_iff.mp hfn
    split at hname
    · rename_i hkind
      rw [← hname]
      exact .function hcallee (by simpa using hkind)
    · split at hname
      · rename_i hkind
        split at hname
        · exact absurd hname.symm hshown
        · rename_i property hproperty
          split at hname
          · exact absurd hname.symm hshown
          · rename_i hpropertyKind
            have hmember : CallsMember call fn property :=
              ⟨hcallee, by simpa using hkind, hproperty, by simpa using hpropertyKind⟩
            split at hname
            · rename_i object hobject
              have hobject := bareChild_iff.mp hobject
              split at hname
              · rename_i hobjectKind
                rw [← hname]
                exact .memberOf hmember hobject (by simpa using hobjectKind)
              · rename_i hobjectKind
                rw [← hname]
                refine .member hmember fun other hother => ?_
                rw [hother.unique hobject]
                simpa using hobjectKind
            · rename_i hobject
              rw [← hname]
              refine .member hmember fun other hother => ?_
              rw [bareChild_iff.mpr hother] at hobject
              cases hobject
      · exact absurd hname.symm hshown

/-- A callee that is shown at all is shown as the rules say. -/
theorem calleeName_eq_iff {src : Source} {call : Node} {name : String} (hshown : name ≠ "") :
    call.calleeName src = name ↔ Shows src call name :=
  ⟨fun hname => shows_of_calleeName hname hshown, calleeName_of_shows⟩

end Node

end BundleAtlas
