import BundleAtlas.Proofs.Grammar.Invariant

/-!
What functions are made of. A function runs its parameters and its body when
it is called. Besides them its node has tokens and its name; the node of a
method has its key and its decorators, which may hold any expression, and in
the dialect with types a function has types.
-/

namespace BundleAtlas

/-- The parts of a function that run when it is called. -/
def Field.isRun : Field → Bool
  | .parameter | .parameters | .body => true
  | _ => false

/-- The constructs that say something about the types of a function. -/
def Kind.isSignatureType (k : Kind) : Bool :=
  k == .other "type_parameters" || k == .other "type_annotation"

/-- What a child of a function can be. Methods have keys and decorators, which
may hold expressions as types may; no other function has. -/
inductive Node.IsPartOf (method : Bool) (part : Node) : Prop
  | run {f : Field} (hpart : part.field = some f) (hrun : f.isRun = true)
  | leaf (hleaf : part.children = []) (hkind : part.kind ≠ .callExpression)
  | comment (hkind : part.kind = .comment)
  | key (hmethod : method = true) (hpart : part.field = some .name)
  | decorator (hmethod : method = true) (hkind : part.kind = .other "decorator")
  | type (hkind : part.kind.isSignatureType = true)

/-- Rules whose nodes can stand in a function as they are. -/
def Rule.isFunctionPart (method : Bool) : Rule → Bool
  | .signature | .result | .typeParameters | .modifiers => true
  | .decorator => method
  | _ => false

namespace Phrase

/-- Whether a phrase reads a token that is no call. -/
def isLeaf : Phrase → Bool
  | .lex _ k => k != .callExpression
  | _ => false

/-- Whether all nodes that a phrase gives can stand in a function. -/
def isFunctionPart (method : Bool) : Phrase → Bool
  | .lex _ k | .raw _ k => k != .callExpression
  | .seq p q | .either p q => p.isFunctionPart method && q.isFunctionPart method
  | .many p | .within _ p => p.isFunctionPart method
  | .field f p => f.isRun || method && f == .name || p.isLeaf
  | .node k _ => k.isSignatureType || method && k == .other "decorator"
  | .call r => r.isFunctionPart method
  | .grow _ _ | .enclose _ _ _ => false
  | _ => true

/-- Functions have the parts of functions, and comments have no parts. -/
def functionTests : Tests where
  token _ := true
  around k p := k != .comment &&
    (!k.isFunctionLike || p.isFunctionPart (k == .methodDefinition))
  grown k := k != .comment && !k.isFunctionLike

end Phrase

theorem Grammar.dialect_functionTests (typed : Bool) (r : Rule) :
    ((Grammar.dialect typed).body r).makes Phrase.functionTests = true := by
  cases typed <;> cases r <;> decide

theorem Grammar.dialect_isFunctionPart (typed method : Bool) (r : Rule)
    (hr : r.isFunctionPart method = true) :
    ((Grammar.dialect typed).body r).isFunctionPart method = true := by
  revert hr
  cases typed <;> cases method <;> cases r <;> decide

namespace Node.IsPartOf

variable {method : Bool}

theorem of_mem_remarks {rs : List Remark} :
    ∀ n ∈ (rs.map (·.node)).reverse, n.IsPartOf method := by
  intro n hn
  obtain ⟨r, _, rfl⟩ := List.mem_map.mp (List.mem_reverse.mp hn)
  exact .comment rfl

theorem of_mem_around {k : Kind} {stop : Mark} {ms : List Node}
    (hk : (k.isSignatureType || method && k == .other "decorator") = true) :
    ∀ n ∈ Node.around k none stop ms, n.IsPartOf method := by
  obtain ⟨made, comments, haround, hcomments, hmade⟩ := Node.around_eq k none stop ms
  rw [haround]
  refine List.forall_mem_append.mpr ⟨?_, fun n hn => .comment (hcomments n hn).1⟩
  intro n hn
  rcases hmade with rfl | ⟨first, cs, _, rfl⟩
  · cases hn
  · rw [List.mem_singleton.mp hn]
    rcases Bool.or_eq_true_iff.mp hk with htype | hdecorator
    · exact .type htype
    · obtain ⟨hmethod, hkind⟩ := Bool.and_eq_true_iff.mp hdecorator
      exact .decorator hmethod (by simpa using hkind)

end Node.IsPartOf

theorem Reads.leaf {g : Grammar} {text : List Char} {p : Phrase} {s : Setting} {c d : Cursor}
    {ms : List Node} (hread : Reads g text p s c [] d ms) (hp : p.isLeaf = true) :
    ∀ n ∈ ms, n.children = [] ∧ n.kind ≠ .callExpression := by
  cases hread with
  | @lex _ k _ _ _ n _ =>
      have hk : k ≠ .callExpression := by simpa [Phrase.isLeaf] using hp
      rw [Cursor.take, List.append_nil]
      refine List.forall_mem_cons.mpr ⟨⟨rfl, hk⟩, ?_⟩
      intro m hm
      obtain ⟨r, _, rfl⟩ := List.mem_map.mp (List.mem_reverse.mp hm)
      exact ⟨rfl, fun hkind => by cases hkind⟩
  | _ => cases hp

/-- A phrase for the parts of functions gives such parts only. -/
theorem Reads.isPartOf {typed : Bool} {text : List Char} {p : Phrase} {s : Setting}
    {c d : Cursor} {ns ms : List Node}
    (hread : Reads (Grammar.dialect typed) text p s c ns d ms) {method : Bool}
    (hp : p.isFunctionPart method = true) (hns : ∀ n ∈ ns, n.IsPartOf method) :
    ∀ n ∈ ms, n.IsPartOf method := by
  induction hread with
  | done | stop | ahead | «unless» | shape | guard | unbroken => exact hns
  | lex _ =>
      refine List.forall_mem_append.mpr ⟨List.forall_mem_cons.mpr ⟨?_, .of_mem_remarks⟩, hns⟩
      exact .leaf rfl (by simpa [Phrase.isFunctionPart] using hp)
  | raw _ =>
      exact List.forall_mem_cons.mpr
        ⟨.leaf rfl (by simpa [Phrase.isFunctionPart] using hp), hns⟩
  | seq _ _ ihp ihq =>
      rw [Phrase.isFunctionPart, Bool.and_eq_true] at hp
      exact ihq hp.2 (ihp hp.1 hns)
  | left _ ih =>
      rw [Phrase.isFunctionPart, Bool.and_eq_true] at hp
      exact ih hp.1 hns
  | right _ ih =>
      rw [Phrase.isFunctionPart, Bool.and_eq_true] at hp
      exact ih hp.2 hns
  | more _ _ ihone ihrest => exact ihrest hp (ihone hp hns)
  | field hinner _ =>
      refine List.forall_mem_append.mpr ⟨?_, hns⟩
      intro n hn
      obtain ⟨m, hm, rfl⟩ := List.mem_map.mp hn
      simp only [Phrase.isFunctionPart, Bool.or_eq_true, Bool.and_eq_true, beq_iff_eq] at hp
      split
      -- A comment inside a part plays no part itself.
      · rename_i hcomment
        exact .comment (by simpa [Node.isComment] using hcomment)
      · rcases hp with (hrun | ⟨hmethod, rfl⟩) | hleaf
        · exact .run rfl hrun
        · exact .key hmethod rfl
        · obtain ⟨hchildren, hkind⟩ := hinner.leaf hleaf m hm
          exact .leaf hchildren hkind
  | node _ _ => exact List.forall_mem_append.mpr ⟨.of_mem_around hp, hns⟩
  | call _ _ _ ih =>
      have hbody := ih (Grammar.dialect_isFunctionPart typed method _ hp) (by simp)
      exact List.forall_mem_append.mpr ⟨hbody, hns⟩
  | within _ ih => exact ih hp hns
  | implied hclose =>
      obtain ⟨taken, rfl⟩ := Cursor.closeFrom_eq hclose
      exact List.forall_mem_append.mpr ⟨.of_mem_remarks, hns⟩
  | finish => exact List.forall_mem_append.mpr ⟨.of_mem_remarks, hns⟩
  | grow | enclose => cases hp

/-- What the grammar says of functions and comments: a function has the parts
of functions, and a comment has none. -/
structure Node.FollowsFunctionForm (n : Node) : Prop where
  comment : n.kind = .comment → n.children = []
  parts : n.kind.isFunctionLike = true →
    ∀ part ∈ n.children, part.IsPartOf (n.kind == .methodDefinition)

theorem Node.FollowsFunctionForm.of_leaf {n : Node} (hleaf : n.children = []) :
    n.FollowsFunctionForm := by
  refine ⟨fun _ => hleaf, fun _ part hpart => ?_⟩
  rw [hleaf] at hpart
  cases hpart

theorem Grammar.dialect_keeps_functions (typed : Bool) (text : List Char) :
    (Grammar.dialect typed).Keeps text (Phrase.makes Phrase.functionTests)
      Node.FollowsFunctionForm where
  rules := dialect_functionTests typed
  parts _ hp _ hq := Phrase.makes_of_mem_parts hp hq
  field _ _ h := ⟨h.comment, h.parts⟩
  comment _ := .of_leaf rfl
  token _ _ _ := .of_leaf rfl
  node {k p s c d ms cs first} hp hread hdrop := by
    simp only [Phrase.makes, Phrase.functionTests, Bool.and_eq_true, Bool.or_eq_true,
      bne_iff_ne, Bool.not_eq_true'] at hp
    obtain ⟨⟨hcomment, hfunction⟩, _⟩ := hp
    refine ⟨fun hk => absurd hk hcomment, ?_⟩
    intro hk part hpart
    have hparts := hfunction.resolve_left (by simp [hk])
    have hmem : part ∈ ms := by
      have hdropped : part ∈ ms.reverse.dropWhile Node.isComment := by rwa [hdrop]
      exact List.mem_reverse.mp ((List.dropWhile_suffix _).subset hdropped)
    exact hread.isPartOf hparts (by simp) part hmem
  enclose {k f p} _ _ _ hp := by
    simp only [Phrase.makes, Phrase.functionTests, Bool.and_eq_true, bne_iff_ne,
      Bool.not_eq_true'] at hp
    obtain ⟨⟨hcomment, hfunction⟩, _⟩ := hp
    refine ⟨fun hk => absurd hk hcomment, ?_⟩
    intro hk
    have hlike : k.isFunctionLike = true := hk
    rw [hfunction] at hlike
    cases hlike

/-- All functions of a document that can be read, of either dialect, have the
parts of functions. -/
theorem Dialect.parse_followsFunctionForm {dialect : Dialect} {text : String} {p : Parsed}
    (hparse : dialect.parse text = .ok p) : p.root.Everywhere Node.FollowsFunctionForm :=
  Dialect.everywhere_of_parse (Grammar.dialect_keeps_functions dialect.isTyped _) rfl
    (.of_leaf rfl) hparse

end BundleAtlas
