import BundleAtlas.Proofs.Grammar.DeclarationForm
import BundleAtlas.Proofs.Grammar.FunctionForm

/-!
How names are written. Words and tokens have nothing below them, and so has the
name of a function or a class, of whatever kind it is. Nothing can then be put
inside a name.
-/

namespace BundleAtlas

/-- The kinds of words and tokens. -/
def Kind.isAtom (k : Kind) : Bool := k.isWord || k == .privateIdentifier || !k.isNamed

/-- The kinds of declarations that have a name of their own. -/
def Kind.isNamedDeclaration (k : Kind) : Bool := k.isFunctionDeclaration || k.isClassDeclaration

/-- If the node is a word or a token, nothing stands below it. -/
def Node.KeepsWordsWhole (n : Node) : Prop := n.kind.isAtom = true → n.children = []

instance (n : Node) : Decidable n.KeepsWordsWhole :=
  decidable_of_iff (n.kind.isAtom = true → n.children.isEmpty = true) (by
    simp only [List.isEmpty_iff, Node.KeepsWordsWhole])

/-- If the node is a function or a class with a name, nothing stands below the
name. -/
def Node.KeepsNameWhole (n : Node) : Prop :=
  n.kind.isNamedDeclaration = true → ∀ c ∈ n.children, c.field = some .name → c.children = []

instance (n : Node) : Decidable n.KeepsNameWhole :=
  decidable_of_iff (n.kind.isNamedDeclaration = true →
      ∀ c ∈ n.children, c.field = some .name → c.children.isEmpty = true) (by
    simp only [List.isEmpty_iff, Node.KeepsNameWhole])

namespace Phrase

/-- Whether all nodes that a phrase gives a part are tokens. -/
def givesToTokens (f : Field) : Phrase → Bool
  | .seq p q | .either p q => p.givesToTokens f && q.givesToTokens f
  | .many p | .within _ p => p.givesToTokens f
  | .field other p => other != f || p.isLeaf
  | .grow _ _ | .enclose _ _ _ => false
  | _ => true

/-- Words are tokens, and the names of functions and classes are. -/
def nameTests : Tests where
  token _ := true
  around k p := !k.isAtom && (!k.isNamedDeclaration || p.givesToTokens .name)
  grown k := !k.isAtom && !k.isNamedDeclaration

end Phrase

theorem Grammar.dialect_nameTests (typed : Bool) (r : Rule) :
    ((Grammar.dialect typed).body r).makes Phrase.nameTests = true := by
  cases typed <;> cases r <;> decide

theorem Grammar.dialect_plays_name (typed : Bool) (r : Rule) :
    ((Grammar.dialect typed).body r).plays (· != .name) = true := by
  cases typed <;> cases r <;> decide

/-- A phrase that gives a part to tokens only gives it to nodes without
children. Nodes of other rules do not play it. -/
theorem Reads.leaf_of_part {g : Grammar} {text : List Char} {p : Phrase} {s : Setting}
    {c d : Cursor} {ns ms : List Node} (hread : Reads g text p s c ns d ms) {f : Field}
    (hrules : ∀ r, (g.body r).plays (· != f) = true) (hp : p.givesToTokens f = true)
    (hns : ∀ n ∈ ns, n.field = some f → n.children = []) :
    ∀ n ∈ ms, n.field = some f → n.children = [] := by
  have hremarks : ∀ {rs : List Remark}, ∀ n ∈ (rs.map (·.node)).reverse,
      n.field = some f → n.children = [] := by
    intro rs n hn _
    obtain ⟨r, _, rfl⟩ := List.mem_map.mp (List.mem_reverse.mp hn)
    rfl
  induction hread with
  | done | stop | ahead | «unless» | shape | guard | unbroken => exact hns
  | lex _ =>
      refine List.forall_mem_append.mpr ⟨?_, hns⟩
      exact List.forall_mem_cons.mpr ⟨fun _ => rfl, hremarks⟩
  | raw _ => exact List.forall_mem_cons.mpr ⟨fun _ => rfl, hns⟩
  | seq _ _ ihp ihq =>
      rw [Phrase.givesToTokens, Bool.and_eq_true] at hp
      exact ihq hp.2 (ihp hp.1 hns)
  | left _ ih =>
      rw [Phrase.givesToTokens, Bool.and_eq_true] at hp
      exact ih hp.1 hns
  | right _ ih =>
      rw [Phrase.givesToTokens, Bool.and_eq_true] at hp
      exact ih hp.2 hns
  | more _ _ ihone ihrest => exact ihrest hp (ihone hp hns)
  | @field other q s c d ns ms hinner _ =>
      refine List.forall_mem_append.mpr ⟨?_, hns⟩
      by_cases hother : other = f
      · have hleaf : q.isLeaf = true := by simpa [Phrase.givesToTokens, hother] using hp
        intro n hn _
        obtain ⟨m, hm, rfl⟩ := List.mem_map.mp hn
        have hchildren := (hinner.leaf hleaf m hm).1
        split <;> exact hchildren
      · have halone : Reads g text (.field other q) s c [] d (Node.mark other ms ++ []) :=
          .field hinner
        have hplays := halone.plays hrules (by simpa [Phrase.plays] using hother) (by simp)
        intro n hn hpart
        exact absurd hpart (hplays n (by simpa using hn)).field_ne
  | @node k q s c d ns ms hinner _ =>
      refine List.forall_mem_append.mpr ⟨?_, hns⟩
      have halone : Reads g text (.node k q) s c [] d (Node.around k none d.last.mark ms ++ []) :=
        .node hinner
      have hplays := halone.plays hrules rfl (by simp)
      intro n hn hpart
      exact absurd hpart (hplays n (by simpa using hn)).field_ne
  | call _ _ hbody _ =>
      refine List.forall_mem_append.mpr ⟨?_, hns⟩
      intro n hn hpart
      exact absurd hpart (hbody.plays hrules (hrules _) (by simp) n hn).field_ne
  | within _ ih => exact ih hp hns
  | implied hclose =>
      obtain ⟨taken, rfl⟩ := Cursor.closeFrom_eq hclose
      exact List.forall_mem_append.mpr ⟨hremarks, hns⟩
  | finish => exact List.forall_mem_append.mpr ⟨hremarks, hns⟩
  | grow | enclose => cases hp

/-- What the grammar says of names: words have nothing below them, nor have the
names of functions and classes, and a declaration of variables starts with its
keyword. -/
structure Node.FollowsNameForm (n : Node) : Prop where
  words : n.KeepsWordsWhole
  name : n.KeepsNameWhole
  keyword : n.StartsWithKeyword

theorem Grammar.dialect_keeps_names (typed : Bool) (text : List Char) :
    (Grammar.dialect typed).Keeps text (Phrase.makes Phrase.nameTests)
      fun n => n.KeepsWordsWhole ∧ n.KeepsNameWhole where
  rules := dialect_nameTests typed
  parts _ hp _ hq := Phrase.makes_of_mem_parts hp hq
  field _ _ h := h
  comment _ := ⟨fun _ => rfl, fun hk => by cases hk⟩
  token _ _ _ := ⟨fun _ => rfl, by simp [Node.KeepsNameWhole]⟩
  node {k p s c d ms cs first} hp hread hdrop := by
    simp only [Phrase.makes, Phrase.nameTests, Bool.and_eq_true, Bool.or_eq_true,
      Bool.not_eq_true'] at hp
    obtain ⟨⟨hatom, hdeclaration⟩, _⟩ := hp
    refine ⟨fun hk => absurd hk (by simp [hatom]), ?_⟩
    intro hk child hchild hpart
    have htokens := hdeclaration.resolve_left (by simpa using hk)
    have hmem : child ∈ ms := by
      have hdropped : child ∈ ms.reverse.dropWhile Node.isComment := by rwa [hdrop]
      exact List.mem_reverse.mp ((List.dropWhile_suffix _).subset hdropped)
    exact hread.leaf_of_part (dialect_plays_name typed) htokens (by simp) child hmem hpart
  enclose {k f p} _ _ _ hp := by
    simp only [Phrase.makes, Phrase.nameTests, Bool.and_eq_true, Bool.not_eq_true'] at hp
    obtain ⟨⟨hatom, hdeclaration⟩, _⟩ := hp
    exact ⟨fun hk => absurd hk (by simp [hatom]), fun hk => absurd hk (by simp [hdeclaration])⟩

/-- The names of a document that can be read, of either dialect, are written as
the grammar says. -/
theorem parseSource_followsNameForm {dialect : Option String} {text : String} {p : Parsed}
    (hparse : parseSource dialect text = .ok p) : p.root.Everywhere Node.FollowsNameForm := by
  obtain ⟨d, hd⟩ := exists_parse_of_parseSource hparse
  have hnames := Dialect.everywhere_of_parse (Grammar.dialect_keeps_names d.isTyped _) rfl
    ⟨fun _ => rfl, by simp [Node.KeepsNameWhole]⟩ hd
  have hkeywords := Dialect.parse_startsWithKeyword hd
  exact (hnames.and hkeywords).imp fun _ hn => ⟨hn.1.1, hn.1.2, hn.2⟩

end BundleAtlas
