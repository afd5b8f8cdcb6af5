import BundleAtlas.Proofs.Grammar.Naming
import BundleAtlas.Symbol.Inventory

/-!
The parts that nodes play in plain documents. A phrase says which parts it gives
to its nodes, and comments play none. In the plain dialect no rule gives out a
name by itself, so a class field has its key as its property and nothing as its
name. A name cannot start with a brace, so it is never shown like a parameter
that takes a value apart.
-/

namespace BundleAtlas

/-- A node plays one of the allowed parts or none, and a comment plays none. -/
structure Node.Plays (allowed : Field → Bool) (n : Node) : Prop where
  comment : n.kind = .comment → n.field = none
  part : ∀ f, n.field = some f → allowed f = true

namespace Node.Plays

variable {allowed : Field → Bool}

theorem of_none {n : Node} (hnone : n.field = none) : n.Plays allowed := by
  refine ⟨fun _ => hnone, ?_⟩
  intro f hf
  rw [hnone] at hf
  cases hf

theorem of_mem_append {ns ms : List Node} (hns : ∀ n ∈ ns, n.Plays allowed)
    (hms : ∀ n ∈ ms, n.Plays allowed) : ∀ n ∈ ns ++ ms, n.Plays allowed := by
  intro n hn
  rcases List.mem_append.mp hn with hn | hn
  · exact hns n hn
  · exact hms n hn

theorem of_mem_remarks {rs : List Remark} :
    ∀ n ∈ (rs.map (·.node)).reverse, n.Plays allowed := by
  intro n hn
  obtain ⟨r, _, rfl⟩ := List.mem_map.mp (List.mem_reverse.mp hn)
  exact of_none rfl

/-- A node that is put around others plays no part yet. -/
theorem of_mem_around {k : Kind} {f : Option Field} {stop : Mark} {ms : List Node}
    {any : Field → Bool} (hms : ∀ n ∈ ms, n.Plays any) :
    ∀ n ∈ Node.around k f stop ms, n.Plays allowed := by
  obtain ⟨made, comments, haround, hcomments, hmade⟩ := Node.around_eq k f stop ms
  rw [haround]
  apply of_mem_append
  · intro n hn
    rcases hmade with rfl | ⟨first, cs, _, rfl⟩
    · cases hn
    · rw [List.mem_singleton.mp hn]
      exact of_none rfl
  · intro n hn
    obtain ⟨hkind, hmem⟩ := hcomments n hn
    exact of_none ((hms n hmem).comment hkind)

end Node.Plays

namespace Phrase

/-- Whether all parts that a phrase gives to its nodes are allowed. -/
def plays (allowed : Field → Bool) : Phrase → Bool
  | .seq p q | .either p q | .grow p q => p.plays allowed && q.plays allowed
  | .many p | .within _ p => p.plays allowed
  | .field f _ => allowed f
  | _ => true

theorem plays_any (p : Phrase) : p.plays (fun _ => true) = true := by
  induction p <;> simp_all [plays]

end Phrase

/-- A phrase gives its nodes no part that it is not allowed to. Inside a phrase
that gives a part or makes a node, any part is allowed. -/
theorem Reads.plays {g : Grammar} {text : List Char} {p : Phrase} {s : Setting} {c d : Cursor}
    {ns ms : List Node} (hread : Reads g text p s c ns d ms) {allowed : Field → Bool}
    (hrules : ∀ r, (g.body r).plays allowed = true) (hp : p.plays allowed = true)
    (hns : ∀ n ∈ ns, n.Plays allowed) : ∀ n ∈ ms, n.Plays allowed := by
  have hany : ∀ r, (g.body r).plays (fun _ => true) = true := fun r => (g.body r).plays_any
  have hnil : ∀ {a : Field → Bool}, ∀ n ∈ ([] : List Node), n.Plays a := by simp
  induction hread generalizing allowed with
  | done | stop | ahead | «unless» | shape | guard | unbroken => exact hns
  | lex _ =>
      refine .of_mem_append ?_ hns
      intro m hm
      rcases List.mem_cons.mp hm with rfl | hm
      · exact .of_none rfl
      · exact .of_mem_remarks m hm
  | raw _ =>
      intro m hm
      rcases List.mem_cons.mp hm with rfl | hm
      · exact .of_none rfl
      · exact hns m hm
  | seq _ _ ihp ihq =>
      rw [Phrase.plays, Bool.and_eq_true] at hp
      exact ihq hrules hp.2 (ihp hrules hp.1 hns)
  | left _ ih =>
      rw [Phrase.plays, Bool.and_eq_true] at hp
      exact ih hrules hp.1 hns
  | right _ ih =>
      rw [Phrase.plays, Bool.and_eq_true] at hp
      exact ih hrules hp.2 hns
  | more _ _ ihone ihrest => exact ihrest hrules hp (ihone hrules hp hns)
  | @field f _ _ _ _ _ ms _ ih =>
      refine .of_mem_append ?_ hns
      intro n hn
      obtain ⟨m, hm, rfl⟩ := List.mem_map.mp hn
      have hinner := ih hany (Phrase.plays_any _) hnil m hm
      split
      · rename_i hcomment
        exact .of_none (hinner.comment (by simpa [Node.isComment] using hcomment))
      · rename_i hcomment
        refine ⟨fun hkind => absurd hkind (by simpa [Node.isComment] using hcomment), ?_⟩
        intro other hother
        cases hother
        exact hp
  | node _ ih =>
      exact .of_mem_append (.of_mem_around (ih hany (Phrase.plays_any _) hnil)) hns
  | call _ _ _ ih => exact .of_mem_append (ih hrules (hrules _) hnil) hns
  | grow _ _ ihbase ihsuffix =>
      rw [Phrase.plays, Bool.and_eq_true] at hp
      exact .of_mem_append (ihsuffix hrules hp.2 (ihbase hrules hp.1 hnil)) hns
  | enclose _ ih =>
      refine .of_mem_around (ih hany (Phrase.plays_any _) ?_)
      exact fun n hn => ⟨(hns n hn).comment, fun _ _ => rfl⟩
  | within _ ih => exact ih hrules hp hns
  | implied hclose =>
      obtain ⟨taken, rfl⟩ := Cursor.closeFrom_eq hclose
      exact .of_mem_append .of_mem_remarks hns
  | finish => exact .of_mem_append .of_mem_remarks hns

/-- If the node is a class field, no child of it is its name. -/
def Node.KeepsNameFree (n : Node) : Prop :=
  n.kind = .fieldDefinition → ∀ c ∈ n.children, c.field ≠ some .name

namespace Phrase

/-- Whether no class field that a phrase can make has a name. -/
def keepsNamesFree : Phrase → Bool
  | .seq p q | .either p q | .grow p q => p.keepsNamesFree && q.keepsNamesFree
  | .many p | .ahead p | .unless p | .field _ p | .within _ p => p.keepsNamesFree
  | .node k p => (k != .fieldDefinition || p.plays (· != .name)) && p.keepsNamesFree
  | .enclose k _ p => k != .fieldDefinition && p.keepsNamesFree
  | _ => true

theorem keepsNamesFree_of_mem_parts {p q : Phrase} (hp : p.keepsNamesFree = true)
    (hq : q ∈ p.parts) : q.keepsNamesFree = true := by
  cases p <;> simp_all [parts, keepsNamesFree]
  all_goals rcases hq with rfl | rfl <;> simp_all [keepsNamesFree]

end Phrase

theorem Grammar.plain_plays (r : Rule) :
    ((Grammar.dialect false).body r).plays (· != .name) = true := by
  cases r <;> decide

theorem Grammar.plain_keepsNamesFree (r : Rule) :
    ((Grammar.dialect false).body r).keepsNamesFree = true := by
  cases r <;> decide

/-- Reading by the plain dialect makes class fields without a name. -/
theorem Grammar.plain_keeps (text : List Char) :
    (Grammar.dialect false).Keeps text Phrase.keepsNamesFree Node.KeepsNameFree where
  rules := plain_keepsNamesFree
  parts _ hp _ hq := Phrase.keepsNamesFree_of_mem_parts hp hq
  field _ _ h := h
  comment _ hk := by cases hk
  token _ _ _ _ := by simp
  node {k p s c d ms cs first} hp hread hdrop := by
    intro hk child hchild hname
    simp only [Phrase.keepsNamesFree, Bool.and_eq_true, Bool.or_eq_true, bne_iff_ne] at hp
    have hinner := hp.1.resolve_left fun hne => hne hk
    have hmem : child ∈ ms := by
      have hdropped : child ∈ ms.reverse.dropWhile Node.isComment := by
        rw [hdrop]
        exact hchild
      exact List.mem_reverse.mp ((List.dropWhile_suffix _).subset hdropped)
    have hplays := hread.plays plain_plays hinner (by simp) child hmem
    exact absurd (hplays.part .name hname) (by decide)
  enclose _ _ _ hp := by
    intro hk
    simp only [Phrase.keepsNamesFree, Bool.and_eq_true, bne_iff_ne] at hp
    exact absurd hk hp.1

namespace Scan

theorem word_brace (cs : List Char) : word ('\x7b' :: cs) = 0 := by
  have hword : Letter.isWordPart '\x7b' = false := by decide
  rw [word, wordTail]
  simp [hword, unicodeEscape]

theorem elementName_brace (cs : List Char) : elementName ('\x7b' :: cs) = 0 := by
  have hstart : ('\x7b'.isAlpha || '\x7b' == '_' || '\x7b' == '$') = false := by decide
  simp only [elementName, hstart, word_brace, Bool.false_eq_true, if_false, Nat.max_self]

end Scan

/-- A name does not start with a brace. -/
theorem Lexeme.head?_take_of_isName {l : Lexeme} {cs : List Char} {n : Nat}
    (hname : l.isName = true) (hscan : l.scan cs = some n) :
    (cs.take n).head? ≠ some '\x7b' := by
  intro hhead
  obtain ⟨rest, hrest⟩ := List.head?_eq_some_iff.mp hhead
  obtain ⟨behind, rfl⟩ : ∃ behind, cs = '\x7b' :: behind := by
    cases cs with
    | nil => simp at hrest
    | cons c behind =>
        cases n with
        | zero => simp at hrest
        | succ n =>
            rw [List.take_succ_cons] at hrest
            exact ⟨behind, by rw [(List.cons.inj hrest).1]⟩
  cases l with
  | name barred => simp [scan, Scan.word_brace, positive] at hscan
  | elementName => simp [scan, Scan.elementName_brace, positive] at hscan
  | _ => cases hname

/-- What the plain grammar says of a node: a name is not shown like a parameter
that takes a value apart, and a class field has no name beside its key. -/
structure Node.FollowsPlainGrammar (src : Source) (n : Node) : Prop where
  word : n.kind = .identifier → src.text n ≠ destructured
  key : n.KeepsNameFree

/-- Every node of a plain document follows the plain grammar. -/
theorem Dialect.parse_followsPlainGrammar {text : String} {p : Parsed}
    (hparse : Dialect.javascript.parse text = .ok p) :
    p.root.Everywhere (Node.FollowsPlainGrammar p.source) := by
  have hwords := Dialect.parse_words (Q := fun cs => cs.head? ≠ some '\x7b')
    Lexeme.head?_take_of_isName hparse
  have hkeeps : (Grammar.dialect Dialect.javascript.isTyped).Keeps text.toList
      Phrase.keepsNamesFree Node.KeepsNameFree := Grammar.plain_keeps text.toList
  have hkeys := Dialect.everywhere_of_parse hkeeps rfl (fun hk => by cases hk) hparse
  refine (hwords.and hkeys).imp ?_
  rintro n ⟨hword, hkey⟩
  refine ⟨?_, hkey⟩
  intro hkind htext
  have hfirst := hword (by rw [hkind]; rfl)
  rw [htext] at hfirst
  exact hfirst (by decide)

end BundleAtlas
