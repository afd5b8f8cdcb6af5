import BundleAtlas.Proofs.Grammar.Part

/-!
How declarations are written. A token is written as its kind says, a
declaration of variables starts with its keyword, and in the head of a loop the
keyword stands before what is bound.
-/

namespace BundleAtlas

theorem Scan.eq_append_of_literal {ts cs rest : List Char} (h : literal ts cs = some rest) :
    cs = ts ++ rest := by
  fun_induction literal ts cs with
  | case1 cs => exact Option.some.inj h
  | case2 => cases h
  | case3 t ts c cs hsame ih =>
      obtain rfl : t = c := by simpa using hsame
      rw [ih h, List.cons_append]
  | case4 => cases h

namespace Lexeme

/-- Whether a token that is scanned so is always written like this. -/
def spells : Lexeme → String → Bool
  | .word t, s | .mark t _, s => t == s.toList
  | .question, s => s == "?"
  | .chain, s => s == "?."
  | _, _ => false

theorem take_of_spells {l : Lexeme} {s : String} {cs : List Char} {n : Nat}
    (hspells : l.spells s = true) (hscan : l.scan cs = some n) : cs.take n = s.toList := by
  cases l with
  | word t =>
      obtain rfl : t = s.toList := by simpa [spells] using hspells
      rw [scan] at hscan
      split at hscan
      · rename_i hword
        cases hscan
        have htake : cs.take (Scan.word cs) = s.toList := by simpa using hword
        have hprefix : s.toList <+: cs := htake ▸ List.take_prefix _ _
        exact (List.prefix_iff_eq_take.mp hprefix).symm
      · cases hscan
  | mark t barred =>
      obtain rfl : t = s.toList := by simpa [spells] using hspells
      have hlength : ∀ rest, Scan.literal s.toList cs = some rest →
          cs.take s.toList.length = s.toList := by
        intro rest hrest
        rw [Scan.eq_append_of_literal hrest, List.take_left]
      rw [scan] at hscan
      split at hscan
      · rename_i hrest
        cases hscan
        exact hlength _ hrest
      · rename_i hrest
        split at hscan
        · cases hscan
        · cases hscan
          exact hlength _ hrest
      · cases hscan
  | question =>
      obtain rfl : s = "?" := by simpa [spells] using hspells
      have hhead : ∃ rest, cs = '?' :: rest ∧ n = 1 := by
        unfold scan at hscan
        split at hscan <;> simp_all
      obtain ⟨rest, rfl, rfl⟩ := hhead
      rfl
  | chain =>
      obtain rfl : s = "?." := by simpa [spells] using hspells
      have hhead : ∃ rest, cs = '?' :: '.' :: rest ∧ n = 2 := by
        unfold scan at hscan
        split at hscan <;> simp_all
      obtain ⟨rest, rfl, rfl⟩ := hhead
      rfl
  | _ => cases hspells

end Lexeme

/-- If the node is a token of fixed text, that is its text. -/
def Node.SpellsToken (src : Source) (n : Node) : Prop :=
  ∀ word, n.kind = .token word → src.text n = word

theorem Node.spellsToken_iff {src : Source} {n : Node} :
    n.SpellsToken src ↔ n.kind.isNamed = true ∨ n.kind = .token (src.text n) := by
  cases hkind : n.kind with
  | token word => simp [SpellsToken, hkind, Kind.isNamed, eq_comm]
  | _ => simp [SpellsToken, hkind, Kind.isNamed]

instance (src : Source) (n : Node) : Decidable (n.SpellsToken src) :=
  decidable_of_iff' _ Node.spellsToken_iff

/-- Whether a scan gives a node of this kind the text that the kind says. -/
def Kind.spelledBy (k : Kind) (l : Lexeme) : Bool :=
  match k with
  | .token word => l.spells word
  | _ => true

namespace Phrase

/-- Whether every token that a phrase can make is written as its kind says. -/
def spellsTokens : Phrase → Bool
  | .lex l k | .raw l k => k.spelledBy l
  | .seq p q | .either p q | .grow p q => p.spellsTokens && q.spellsTokens
  | .many p | .field _ p | .within _ p => p.spellsTokens
  | .node k p | .enclose k _ p => k.isNamed && p.spellsTokens
  | _ => true

theorem spellsTokens_of_mem_parts {p q : Phrase} (hp : p.spellsTokens = true)
    (hq : q ∈ p.parts) : q.spellsTokens = true := by
  cases p <;> simp_all [parts, spellsTokens]
  all_goals rcases hq with rfl | rfl <;> simp_all [spellsTokens]

end Phrase

theorem Grammar.dialect_spellsTokens (typed : Bool) (r : Rule) :
    ((Grammar.dialect typed).body r).spellsTokens = true := by
  cases typed <;> cases r <;> decide

theorem Grammar.dialect_keeps_tokens (typed : Bool) (text : String) :
    (Grammar.dialect typed).Keeps text.toList Phrase.spellsTokens
      (Node.SpellsToken (.ofString text)) where
  rules := dialect_spellsTokens typed
  parts _ hp _ hq := Phrase.spellsTokens_of_mem_parts hp hq
  field _ _ h := h
  comment _ _ hk := by cases hk
  token {l k place n} hp hplace hscan word hk := by
    obtain rfl : k = .token word := hk
    have hspells : l.spells word = true := by
      simpa [Phrase.spellsTokens, Kind.spelledBy] using hp
    rw [Source.text_token hplace, Lexeme.take_of_spells hspells hscan, String.ofList_toList]
  node {k p s c d ms cs first} hp _ _ word hk := by
    obtain rfl : k = .token word := hk
    simp [Phrase.spellsTokens, Kind.isNamed] at hp
  enclose {k f p} _ _ _ hp word hk := by
    obtain rfl : k = .token word := hk
    simp [Phrase.spellsTokens, Kind.isNamed] at hp

/-- The tokens of a document that can be read are written as their kinds say. -/
theorem Dialect.parse_spellsToken {dialect : Dialect} {text : String} {p : Parsed}
    (hparse : dialect.parse text = .ok p) :
    p.root.Everywhere (Node.SpellsToken (.ofString text)) :=
  Dialect.everywhere_of_parse (Grammar.dialect_keeps_tokens dialect.isTyped text) rfl
    (fun _ hk => by cases hk) hparse

namespace Phrase

/-- Whether a phrase leaves the nodes before it as they are. -/
def adds : Phrase → Bool
  | .seq p q | .either p q => p.adds && q.adds
  | .many p | .within _ p => p.adds
  | .enclose _ _ _ => false
  | _ => true

/-- Whether the first node that a phrase gives, comments aside, is a token of an
allowed kind. -/
def opensWith (allowed : Kind → Bool) : Phrase → Bool
  | .lex _ k => allowed k && k != .comment
  | .seq p q => p.opensWith allowed && q.adds
  | .either p q => p.opensWith allowed && q.opensWith allowed
  | .field _ p => p.opensWith allowed
  | _ => false

end Phrase

namespace Node

theorem kind_mark (f : Field) (n : Node) :
    (if n.isComment then n else { n with field := some f }).kind = n.kind := by
  split <;> rfl

/-- A part to play makes no comment of a node. -/
theorem dropWhile_mark (f : Field) (ms : List Node) :
    (mark f ms).reverse.dropWhile isComment = mark f (ms.reverse.dropWhile isComment) := by
  have hsame : (isComment ∘ fun n : Node =>
      if n.isComment then n else { n with field := some f }) = isComment := by
    funext n
    change ((if n.isComment then n else { n with field := some f }).kind == Kind.comment) = _
    rw [kind_mark]
    rfl
  rw [mark, ← List.map_reverse, List.dropWhile_map, hsame]
  rfl

end Node

namespace Reads

variable {g : Grammar} {text : List Char} {p : Phrase} {s : Setting} {c d : Cursor}
  {ns ms : List Node}

theorem exists_append (hread : Reads g text p s c ns d ms) (hp : p.adds = true) :
    ∃ added, ms = added ++ ns := by
  induction hread with
  | done | stop | ahead | «unless» | shape | guard | unbroken => exact ⟨[], rfl⟩
  | lex _ => exact ⟨_, rfl⟩
  | raw _ => exact ⟨[_], rfl⟩
  | seq _ _ ihp ihq =>
      rw [Phrase.adds, Bool.and_eq_true] at hp
      obtain ⟨front, rfl⟩ := ihp hp.1
      obtain ⟨more, rfl⟩ := ihq hp.2
      exact ⟨more ++ front, by rw [List.append_assoc]⟩
  | left _ ih =>
      rw [Phrase.adds, Bool.and_eq_true] at hp
      exact ih hp.1
  | right _ ih =>
      rw [Phrase.adds, Bool.and_eq_true] at hp
      exact ih hp.2
  | more _ _ ihone ihrest =>
      obtain ⟨front, rfl⟩ := ihone hp
      obtain ⟨more, rfl⟩ := ihrest hp
      exact ⟨more ++ front, by rw [List.append_assoc]⟩
  | field _ _ | node _ _ | call _ _ _ _ | grow _ _ _ _ => exact ⟨_, rfl⟩
  | within _ ih => exact ih hp
  | implied hclose =>
      obtain ⟨taken, rfl⟩ := Cursor.closeFrom_eq hclose
      exact ⟨_, rfl⟩
  | finish => exact ⟨_, rfl⟩
  | enclose => cases hp

/-- The first node that was read is one that the phrase opens with. -/
theorem exists_opening (hread : Reads g text p s c ns d ms) (hns : ns = [])
    {allowed : Kind → Bool} (hp : p.opensWith allowed = true) :
    ∃ first rest, ms.reverse.dropWhile Node.isComment = first :: rest ∧
      allowed first.kind = true := by
  induction hread with
  | @lex _ k _ c _ n _ =>
      subst hns
      rw [Phrase.opensWith, Bool.and_eq_true, bne_iff_ne] at hp
      have hremarks : ∀ m ∈ c.remarks.map (·.node), Node.isComment m = true := by
        intro m hm
        obtain ⟨r, _, rfl⟩ := List.mem_map.mp hm
        rfl
      refine ⟨⟨k, none, c.next.mark, (c.next.skip n).mark, []⟩, [], ?_, hp.1⟩
      rw [Cursor.take]
      simp only [List.append_nil, List.reverse_cons, List.reverse_reverse]
      rw [List.dropWhile_append_of_pos hremarks, List.dropWhile_cons_of_neg]
      simpa [Node.isComment] using hp.2
  | seq _ hsecond ihp _ =>
      rw [Phrase.opensWith, Bool.and_eq_true] at hp
      obtain ⟨first, rest, hdrop, hfirst⟩ := ihp hns hp.1
      obtain ⟨added, rfl⟩ := hsecond.exists_append hp.2
      refine ⟨first, rest ++ added.reverse, ?_, hfirst⟩
      rw [List.reverse_append, List.dropWhile_append, hdrop]
      rfl
  | left _ ih =>
      rw [Phrase.opensWith, Bool.and_eq_true] at hp
      exact ih hns hp.1
  | right _ ih =>
      rw [Phrase.opensWith, Bool.and_eq_true] at hp
      exact ih hns hp.2
  | @field f _ _ _ _ _ ms _ ih =>
      subst hns
      obtain ⟨first, rest, hdrop, hfirst⟩ := ih rfl hp
      rw [List.append_nil, Node.dropWhile_mark, hdrop]
      refine ⟨_, _, List.map_cons, ?_⟩
      rw [Node.kind_mark]
      exact hfirst
  | _ => cases hp

end Reads

/-- The keywords of declarations of variables. -/
def Kind.isDeclarationKeyword (k : Kind) : Bool :=
  k == .token "let" || k == .token "const" || k == .token "var"

/-- If the node is a declaration of variables, it starts with its keyword. -/
def Node.StartsWithKeyword (n : Node) : Prop :=
  n.kind.isVariableDeclaration = true →
    ∃ first rest, n.children = first :: rest ∧ first.kind.isDeclarationKeyword = true

instance (n : Node) : Decidable n.StartsWithKeyword :=
  decidable_of_iff (n.kind.isVariableDeclaration = true →
      ∃ first ∈ n.children.head?, first.kind.isDeclarationKeyword = true) (by
    simp only [Node.StartsWithKeyword, Option.mem_def, List.head?_eq_some_iff]
    exact forall_congr' fun _ => ⟨fun ⟨first, ⟨rest, hrest⟩, hk⟩ => ⟨first, rest, hrest, hk⟩,
      fun ⟨first, rest, hrest, hk⟩ => ⟨first, ⟨rest, hrest⟩, hk⟩⟩)

/-- Declarations of variables open with their keywords. -/
def Phrase.keywordTests : Phrase.Tests where
  token k := !k.isVariableDeclaration
  around k p := !k.isVariableDeclaration || p.opensWith Kind.isDeclarationKeyword
  grown k := !k.isVariableDeclaration

theorem Grammar.dialect_keywordTests (typed : Bool) (r : Rule) :
    ((Grammar.dialect typed).body r).makes Phrase.keywordTests = true := by
  cases typed <;> cases r <;> decide

theorem Grammar.dialect_keeps_keywords (typed : Bool) (text : List Char) :
    (Grammar.dialect typed).Keeps text (Phrase.makes Phrase.keywordTests)
      Node.StartsWithKeyword where
  rules := dialect_keywordTests typed
  parts _ hp _ hq := Phrase.makes_of_mem_parts hp hq
  field _ _ h := h
  comment _ hk := by cases hk
  token {l k place n} hp _ _ hk := by
    simp only [Phrase.makes, Phrase.keywordTests, or_self, Bool.not_eq_true'] at hp
    exact absurd hk (by simp [hp])
  node {k p s c d ms cs first} hp hread hdrop hk := by
    simp only [Phrase.makes, Phrase.keywordTests, Bool.and_eq_true, Bool.or_eq_true,
      Bool.not_eq_true'] at hp
    have hopens := hp.1.resolve_left (by simpa using hk)
    obtain ⟨opening, rest, hopening, hkeyword⟩ := hread.exists_opening rfl hopens
    rw [hdrop] at hopening
    exact ⟨opening, rest, hopening, hkeyword⟩
  enclose {k f p} _ _ _ hp hk := by
    simp only [Phrase.makes, Phrase.keywordTests, Bool.and_eq_true, Bool.not_eq_true'] at hp
    exact absurd hk (by simp [hp.1])

/-- The declarations of variables of a document that can be read start with
their keywords. -/
theorem Dialect.parse_startsWithKeyword {dialect : Dialect} {text : String} {p : Parsed}
    (hparse : dialect.parse text = .ok p) : p.root.Everywhere Node.StartsWithKeyword :=
  Dialect.everywhere_of_parse (Grammar.dialect_keeps_keywords dialect.isTyped _) rfl
    (fun hk => by cases hk) hparse

/-- Among nodes, the last one first, none that plays the early part follows one
that plays the late part. -/
def Node.InOrder (early late : Field) (ns : List Node) : Prop :=
  ns.Pairwise fun b a => a.field = some late → b.field ≠ some early

/-- More nodes that do not play the early part can follow any others. -/
theorem Node.InOrder.append {early late : Field} {added ns : List Node}
    (hns : Node.InOrder early late ns) (hadded : ∀ n ∈ added, n.field ≠ some early) :
    Node.InOrder early late (added ++ ns) := by
  refine List.pairwise_append.mpr ⟨?_, hns, fun b hb a _ _ => hadded b hb⟩
  exact List.Pairwise.imp_of_mem (fun hb _ _ _ => hadded _ hb)
    (List.pairwise_of_forall fun _ _ => trivial)

/-- Whether a phrase never gives the early part behind the late one. -/
def Phrase.ordered (early late : Field) : Phrase → Bool
  | .seq p q => p.ordered early late && q.ordered early late &&
      (p.plays (· != late) || q.plays (· != early))
  | .either p q => p.ordered early late && q.ordered early late
  | .many p => p.ordered early late && (p.plays (· != late) || p.plays (· != early))
  | .within _ p => p.ordered early late
  | .raw _ _ | .grow _ _ | .enclose _ _ _ | .implied _ | .finish => false
  | _ => true

theorem Node.Plays.field_ne {f : Field} {n : Node} (h : n.Plays (· != f)) :
    n.field ≠ some f := by
  intro hf
  have hother := h.part f hf
  simp at hother

/-- A phrase that keeps the order gives its nodes in order. Where it may give
the early part, none of the nodes before it may play the late one. -/
theorem Reads.inOrder {g : Grammar} {text : List Char} {p : Phrase} {s : Setting} {c d : Cursor}
    {ns ms : List Node} (hread : Reads g text p s c ns d ms) {early late : Field}
    (hne : early ≠ late) (hearly : ∀ r, (g.body r).plays (· != early) = true)
    (hlate : ∀ r, (g.body r).plays (· != late) = true) (hp : p.ordered early late = true)
    (hns : Node.InOrder early late ns)
    (hfree : p.plays (· != early) = true ∨ ∀ n ∈ ns, n.Plays (· != late)) :
    Node.InOrder early late ms := by
  have hnil : ∀ {a : Field → Bool}, ∀ n ∈ ([] : List Node), n.Plays a := by simp
  induction hread with
  | done | stop | ahead | «unless» | shape | guard | unbroken => exact hns
  | lex _ =>
      refine hns.append (List.forall_mem_cons.mpr ⟨by simp, ?_⟩)
      exact fun n hn => (Node.Plays.of_mem_remarks n hn).field_ne
  | seq hfirst _ ihp ihq =>
      simp only [Phrase.ordered, Bool.and_eq_true, Bool.or_eq_true] at hp
      simp only [Phrase.plays, Bool.and_eq_true] at hfree
      obtain ⟨⟨hleft, hright⟩, hbetween⟩ := hp
      refine ihq hright (ihp hleft hns (hfree.imp_left And.left)) ?_
      rcases hfree with hfree | hfree
      · exact Or.inl hfree.2
      · exact hbetween.symm.imp_right fun hplays => hfirst.plays hlate hplays hfree
  | left _ ih =>
      simp only [Phrase.ordered, Phrase.plays, Bool.and_eq_true] at hp hfree
      exact ih hp.1 hns (hfree.imp_left And.left)
  | right _ ih =>
      simp only [Phrase.ordered, Phrase.plays, Bool.and_eq_true] at hp hfree
      exact ih hp.2 hns (hfree.imp_left And.right)
  | more hone _ ihone ihrest =>
      have hparts := hp
      simp only [Phrase.ordered, Bool.and_eq_true, Bool.or_eq_true] at hparts
      refine ihrest hp (ihone hparts.1 hns hfree) ?_
      rcases hfree with hfree | hfree
      · exact Or.inl hfree
      · exact hparts.2.symm.imp_right fun hplays => hone.plays hlate hplays hfree
  | @field f _ s c d ns ms hinner _ =>
      by_cases hf : f = early
      · -- The part is the early one, so none of the nodes plays the late one.
        subst hf
        have hbefore := hfree.resolve_left (by simp [Phrase.plays])
        have hnone := (Reads.field (f := f) hinner).plays hlate (by simpa [Phrase.plays]) hbefore
        exact List.Pairwise.imp_of_mem
          (fun _ ha _ hfield => absurd hfield (hnone _ ha).field_ne)
          (List.pairwise_of_forall fun _ _ => trivial)
      · refine hns.append fun n hn => ?_
        have halone : Reads g text (.field f _) s c [] d (Node.mark f ms ++ []) := .field hinner
        have hnone := halone.plays hearly (by simpa [Phrase.plays]) hnil
        exact (hnone n (by simpa using hn)).field_ne
  | @node k _ s c d _ ms hinner _ =>
      refine hns.append fun n hn => ?_
      have halone : Reads g text (.node k _) s c [] d (Node.around k none d.last.mark ms ++ []) :=
        .node hinner
      exact (halone.plays hearly rfl hnil n (by simpa using hn)).field_ne
  | call _ _ hbody _ =>
      exact hns.append fun n hn => (hbody.plays hearly (hearly _) hnil n hn).field_ne
  | within _ ih => exact ih hp hns hfree
  | raw | grow | enclose | implied | finish => cases hp

/-- If the node is a loop over the members of a value, no keyword stands behind
what it binds. -/
def Node.KeywordBeforeBinding (n : Node) : Prop :=
  n.kind = .forIn → n.children.Pairwise fun a b => a.field = some .left → b.field ≠ some .kind

instance (n : Node) : Decidable n.KeywordBeforeBinding := inferInstanceAs (Decidable (_ → _))

/-- Loops have their keywords before what they bind. -/
def Phrase.loopTests : Phrase.Tests where
  token k := k != .forIn
  around k p := k != .forIn || p.ordered .kind .left
  grown k := k != .forIn

theorem Grammar.dialect_loopTests (typed : Bool) (r : Rule) :
    ((Grammar.dialect typed).body r).makes Phrase.loopTests = true := by
  cases typed <;> cases r <;> decide

theorem Grammar.dialect_plays_kind (typed : Bool) (r : Rule) :
    ((Grammar.dialect typed).body r).plays (· != .kind) = true := by
  cases typed <;> cases r <;> decide

theorem Grammar.dialect_plays_left (typed : Bool) (r : Rule) :
    ((Grammar.dialect typed).body r).plays (· != .left) = true := by
  cases typed <;> cases r <;> decide

theorem Grammar.dialect_keeps_loops (typed : Bool) (text : List Char) :
    (Grammar.dialect typed).Keeps text (Phrase.makes Phrase.loopTests)
      Node.KeywordBeforeBinding where
  rules := dialect_loopTests typed
  parts _ hp _ hq := Phrase.makes_of_mem_parts hp hq
  field _ _ h := h
  comment _ _ := .nil
  token _ _ _ _ := .nil
  node {k p s c d ms cs first} hp hread hdrop hk := by
    simp only [Phrase.makes, Phrase.loopTests, Bool.and_eq_true, Bool.or_eq_true, bne_iff_ne] at hp
    have hordered := hp.1.resolve_left fun hne => hne hk
    have hms : Node.InOrder .kind .left ms := hread.inOrder (by decide) (dialect_plays_kind typed)
      (dialect_plays_left typed) hordered .nil (Or.inr (by simp))
    have hrow := List.pairwise_reverse.mpr hms
    have hsuffix : first :: cs <:+ ms.reverse := hdrop ▸ List.dropWhile_suffix _
    exact hrow.sublist hsuffix.sublist
  enclose _ _ _ hp hk := by
    simp only [Phrase.makes, Phrase.loopTests, Bool.and_eq_true, bne_iff_ne] at hp
    exact absurd hk hp.1

/-- The loops of a document that can be read have their keywords before what
they bind. -/
theorem Dialect.parse_keywordBeforeBinding {dialect : Dialect} {text : String} {p : Parsed}
    (hparse : dialect.parse text = .ok p) : p.root.Everywhere Node.KeywordBeforeBinding :=
  Dialect.everywhere_of_parse (Grammar.dialect_keeps_loops dialect.isTyped _) rfl
    (fun _ => .nil) hparse

end BundleAtlas
