import BundleAtlas.Parsed
import BundleAtlas.Proofs.Grammar.Reading
import BundleAtlas.Proofs.Tree.Preorder
import Mathlib.Data.List.TakeWhile

/-!
Properties of all nodes of a document. A reader makes nodes in three ways: out
of a comment, out of a token, and around nodes that it has read before. A
property that each of them gives, for the phrases of a grammar, holds at every
node of every document that is read by the grammar.
-/

namespace BundleAtlas

namespace Node

/-- The node that is put around some nodes has them as its children, in order
and without the comments before the first; the first of them plays the given
part, if there is one. Beside it stand comments. -/
theorem around_eq (k : Kind) (f : Option Field) (stop : Mark) (ms : List Node) :
    ∃ made comments : List Node, around k f stop ms = made ++ comments ∧
      (∀ n ∈ comments, n.kind = .comment ∧ n ∈ ms) ∧
      (made = [] ∨ ∃ c cs, ms.reverse.dropWhile isComment = c :: cs ∧
        made = [⟨k, none, c.start, stop, { c with field := f.or c.field } :: cs⟩]) := by
  have hcomments : ∀ n ∈ (ms.reverse.takeWhile isComment).reverse,
      n.kind = .comment ∧ n ∈ ms := by
    intro n hn
    have htake := List.mem_reverse.mp hn
    have hkind : n.isComment = true := List.mem_takeWhile_imp htake
    refine ⟨by simpa [isComment] using hkind, ?_⟩
    exact List.mem_reverse.mp ((List.takeWhile_prefix isComment).subset htake)
  unfold around splitRemarks
  dsimp only
  cases hdrop : ms.reverse.dropWhile isComment with
  | nil => exact ⟨[], _, rfl, hcomments, Or.inl rfl⟩
  | cons c cs =>
      cases f with
      | none =>
          have hsame : { c with field := none.or c.field } = c := by
            cases c
            rw [Option.none_or]
          exact ⟨[_], _, rfl, hcomments, Or.inr ⟨c, cs, rfl, by rw [hsame]⟩⟩
      | some part => exact ⟨[_], _, rfl, hcomments, Or.inr ⟨c, cs, rfl, rfl⟩⟩

end Node

/-- The nodes that a closing statement takes in are comments. -/
theorem Cursor.closeFrom_eq {e : Semicolon.Ending} {next here : Place} {rs : List Remark}
    {ns ms : List Node} {d : Cursor} (hclose : closeFrom e next here rs ns = some (d, ms)) :
    ∃ taken : List Remark, ms = (taken.map (·.node)).reverse ++ ns := by
  induction rs generalizing here ns with
  | nil =>
      rw [closeFrom] at hclose
      split at hclose
      · cases hclose
        exact ⟨[], rfl⟩
      · cases hclose
  | cons r rs ih =>
      rw [closeFrom] at hclose
      split at hclose
      · cases hclose
        exact ⟨[], rfl⟩
      · obtain ⟨taken, rfl⟩ := ih hclose
        exact ⟨r :: taken, by simp⟩

/-- The phrases that the nodes of a phrase come from. -/
def Phrase.parts : Phrase → List Phrase
  | .seq p q | .either p q => [p, q]
  | .grow base suffix => [base, .many suffix]
  | .many p | .field _ p | .node _ p | .enclose _ _ p | .within _ p => [p]
  | _ => []

/-- Tests of the nodes that a phrase can make: a token by its kind, a node that
is put around what a phrase reads by its kind and that phrase, and a node that
is put around an operand by its kind. -/
structure Phrase.Tests where
  token : Kind → Bool
  around : Kind → Phrase → Bool
  grown : Kind → Bool

/-- Whether every node that a phrase can make passes the tests. -/
def Phrase.makes (tests : Phrase.Tests) : Phrase → Bool
  | .lex _ k | .raw _ k => tests.token k
  | .seq p q | .either p q | .grow p q => p.makes tests && q.makes tests
  | .many p | .field _ p | .within _ p => p.makes tests
  | .node k p => tests.around k p && p.makes tests
  | .enclose k _ p => tests.grown k && p.makes tests
  | _ => true

theorem Phrase.makes_of_mem_parts {tests : Phrase.Tests} {p q : Phrase}
    (hp : p.makes tests = true) (hq : q ∈ p.parts) : q.makes tests = true := by
  cases p <;> simp_all [parts, makes]
  all_goals rcases hq with rfl | rfl <;> simp_all [makes]

/-- What has to be known of a property of nodes and of a check of phrases, so
that reading a text by phrases that pass the check gives nodes with the
property: all rules of the grammar pass it, with all their parts, and the
property holds of comments, of the tokens that are scanned in the text, and of
every node that is put around others. It does not ask for the part that a node
plays. -/
structure Grammar.Keeps (g : Grammar) (text : List Char) (check : Phrase → Bool)
    (P : Node → Prop) : Prop where
  rules : ∀ r, check (g.body r) = true
  parts : ∀ p, check p = true → ∀ q ∈ p.parts, check q = true
  field : ∀ (n : Node) (f : Option Field), P n → P { n with field := f }
  comment : ∀ r : Remark, P r.node
  token : ∀ {l : Lexeme} {k : Kind} {place : Place} {n : Nat},
    check (.lex l k) = true ∨ check (.raw l k) = true → place.Of text →
    l.scan place.rest = some n → P ⟨k, none, place.mark, (place.skip n).mark, []⟩
  node : ∀ {k : Kind} {p : Phrase} {s : Setting} {c d : Cursor} {ms cs : List Node} {first : Node},
    check (.node k p) = true → Reads g text p s c [] d ms →
    ms.reverse.dropWhile Node.isComment = first :: cs →
    P ⟨k, none, first.start, d.last.mark, first :: cs⟩
  enclose : ∀ {k : Kind} {f : Option Field} {p : Phrase} (start stop : Mark) (cs : List Node),
    check (.enclose k f p) = true → P ⟨k, none, start, stop, cs⟩

namespace Grammar.Keeps

variable {g : Grammar} {text : List Char} {check : Phrase → Bool} {P : Node → Prop}

theorem everywhere_leaf {n : Node} (hn : P n) (hleaf : n.children = []) : n.Everywhere P := by
  refine .intro hn fun c hc => ?_
  rw [hleaf] at hc
  cases hc

theorem everywhere_field (h : g.Keeps text check P) {n : Node} (hn : n.Everywhere P)
    (f : Option Field) : Node.Everywhere P { n with field := f } :=
  .intro (h.field n f hn.here) fun _ hc => hn.of_mem_children hc

theorem everywhere_remarks (h : g.Keeps text check P) {rs : List Remark} {n : Node}
    (hn : n ∈ (rs.map (·.node)).reverse) : n.Everywhere P := by
  obtain ⟨r, _, rfl⟩ := List.mem_map.mp (List.mem_reverse.mp hn)
  exact everywhere_leaf (h.comment r) rfl

theorem everywhere_around (h : g.Keeps text check P) {k : Kind} {f : Option Field} {stop : Mark}
    {ms : List Node} (hms : ∀ n ∈ ms, n.Everywhere P)
    (hmade : ∀ (first : Node) (cs : List Node),
      ms.reverse.dropWhile Node.isComment = first :: cs →
      P ⟨k, none, first.start, stop, { first with field := f.or first.field } :: cs⟩) :
    ∀ n ∈ Node.around k f stop ms, n.Everywhere P := by
  obtain ⟨made, comments, haround, hcomments, hcases⟩ := Node.around_eq k f stop ms
  intro n hn
  rw [haround] at hn
  rcases List.mem_append.mp hn with hn | hn
  · rcases hcases with rfl | ⟨first, cs, hdrop, rfl⟩
    · cases hn
    · have hchildren : ∀ m ∈ first :: cs, m ∈ ms := by
        intro m hm
        rw [← hdrop] at hm
        exact List.mem_reverse.mp ((List.dropWhile_suffix _).subset hm)
      rw [List.mem_singleton.mp hn]
      refine .intro (hmade first cs hdrop) ?_
      intro m hm
      rcases List.mem_cons.mp hm with rfl | hrest
      · exact h.everywhere_field (hms first (hchildren first List.mem_cons_self)) _
      · exact hms m (hchildren m (List.mem_cons_of_mem first hrest))
  · exact hms n (hcomments n hn).2

/-- Reading by a phrase that passes the check makes nodes with the property. -/
theorem everywhere_of_reads (h : g.Keeps text check P) {p : Phrase} {s : Setting} {c d : Cursor}
    {ns ms : List Node} (hread : Reads g text p s c ns d ms) (hp : check p = true)
    (hc : c.Of text) (hns : ∀ n ∈ ns, n.Everywhere P) : ∀ n ∈ ms, n.Everywhere P := by
  have hnil : ∀ n ∈ ([] : List Node), n.Everywhere P := by simp
  have happend : ∀ {xs ys : List Node}, (∀ n ∈ xs, n.Everywhere P) → (∀ n ∈ ys, n.Everywhere P) →
      ∀ n ∈ xs ++ ys, n.Everywhere P := by
    intro xs ys hxs hys n hn
    rcases List.mem_append.mp hn with hn | hn
    · exact hxs n hn
    · exact hys n hn
  induction hread with
  | done | stop | ahead | «unless» | shape | guard | unbroken => exact hns
  | @lex _ k _ c _ n hscan =>
      refine happend ?_ hns
      intro m hm
      rcases List.mem_cons.mp hm with rfl | hm
      · exact everywhere_leaf (h.token (Or.inl hp) hc.next hscan) rfl
      · exact h.everywhere_remarks hm
  | @raw _ k _ c _ n hscan =>
      intro m hm
      rcases List.mem_cons.mp hm with rfl | hm
      · exact everywhere_leaf (h.token (Or.inr hp) hc.last hscan) rfl
      · exact hns m hm
  | seq hfirst _ ihp ihq =>
      have hparts := h.parts _ hp
      exact ihq (hparts _ (by simp [Phrase.parts])) (hfirst.of hc)
        (ihp (hparts _ (by simp [Phrase.parts])) hc hns)
  | left _ ih => exact ih (h.parts _ hp _ (by simp [Phrase.parts])) hc hns
  | right _ ih => exact ih (h.parts _ hp _ (by simp [Phrase.parts])) hc hns
  | more hone _ ihone ihrest =>
      exact ihrest hp (hone.of hc) (ihone (h.parts _ hp _ (by simp [Phrase.parts])) hc hns)
  | @field f _ _ _ _ _ ms _ ih =>
      refine happend ?_ hns
      intro n hn
      obtain ⟨m, hm, rfl⟩ := List.mem_map.mp hn
      have hread := ih (h.parts _ hp _ (by simp [Phrase.parts])) hc hnil m hm
      split
      · exact hread
      · exact h.everywhere_field hread (some f)
  | node hinner ih =>
      refine happend (h.everywhere_around ?_ ?_) hns
      · exact ih (h.parts _ hp _ (by simp [Phrase.parts])) hc hnil
      · intro first cs hdrop
        cases first
        rw [Option.none_or]
        exact h.node hp hinner hdrop
  | call hplace _ _ ih => exact happend (ih (h.rules _) hplace hnil) hns
  | grow hoperand _ ihbase ihsuffix =>
      have hparts := h.parts _ hp
      have hbase := ihbase (hparts _ (by simp [Phrase.parts])) hc hnil
      exact happend (ihsuffix (hparts _ (by simp [Phrase.parts])) (hoperand.of hc) hbase) hns
  | enclose _ ih =>
      refine h.everywhere_around ?_ fun _ _ _ => h.enclose _ _ _ hp
      exact ih (h.parts _ hp _ (by simp [Phrase.parts])) hc hns
  | within _ ih => exact ih (h.parts _ hp _ (by simp [Phrase.parts])) hc hns
  | implied hclose =>
      obtain ⟨taken, rfl⟩ := Cursor.closeFrom_eq hclose
      exact happend (fun n hn => h.everywhere_remarks hn) hns
  | finish => exact happend (fun n hn => h.everywhere_remarks hn) hns

end Grammar.Keeps

/-- A document that has been read has the text that was read as its source. -/
theorem Dialect.source_of_parse {dialect : Dialect} {text : String} {p : Parsed}
    (hparse : dialect.parse text = .ok p) : p.source = .ofString text := by
  unfold Dialect.parse at hparse
  split at hparse
  · cases hparse
    rfl
  · cases hparse

theorem exists_parse_of_parseSource {name : Option String} {text : String} {p : Parsed}
    (hparse : parseSource name text = .ok p) : ∃ dialect : Dialect, dialect.parse text = .ok p := by
  unfold parseSource at hparse
  cases hdialect : Dialect.ofName name with
  | error e =>
      rw [hdialect] at hparse
      cases hparse
  | ok dialect =>
      rw [hdialect] at hparse
      exact ⟨dialect, hparse⟩

/-- The tree of a document is what was read by the rule for whole documents,
or an empty one. -/
theorem Dialect.reads_of_parse {dialect : Dialect} {text : String} {p : Parsed}
    (hparse : dialect.parse text = .ok p) :
    (∃ d nodes, Reads (Grammar.dialect dialect.isTyped) text.toList (.call .program) {}
        (.behind (.first text.toList)) [] d nodes ∧ p.root ∈ nodes) ∨
      p.root = ⟨.program, none, {}, {}, []⟩ := by
  have hfirst := Cursor.of_behind (Place.of_first text.toList)
  have hanswer := Reader.read_answers (Grammar.dialect dialect.isTyped)
    (Reader.depth text.toList.length) (.call .program) {} (.behind (.first text.toList)) [] {}
    hfirst Scratch.Sound.empty
  unfold Dialect.parse readDocument at hparse
  split at hparse
  · rename_i root hroot
    cases hparse
    split at hroot
    · rename_i d nodes after hread
      rw [hread] at hanswer
      split at hroot
      · rename_i found hfind
        cases hroot
        exact Or.inl ⟨d, nodes, hanswer.2 d nodes rfl, List.mem_of_find?_eq_some hfind⟩
      · cases hroot
        exact Or.inr rfl
    · cases hroot
  · cases hparse

/-- Every node of a document has a property that its grammar keeps. -/
theorem Dialect.everywhere_of_parse {dialect : Dialect} {text : String} {p : Parsed}
    {check : Phrase → Bool} {P : Node → Prop}
    (hkeeps : (Grammar.dialect dialect.isTyped).Keeps text.toList check P)
    (hprogram : check (.call .program) = true) (hempty : P ⟨.program, none, {}, {}, []⟩)
    (hparse : dialect.parse text = .ok p) : p.root.Everywhere P := by
  rcases Dialect.reads_of_parse hparse with ⟨d, nodes, hread, hroot⟩ | hroot
  · have hfirst := Cursor.of_behind (Place.of_first text.toList)
    exact hkeeps.everywhere_of_reads hread hprogram hfirst (by simp) p.root hroot
  · rw [hroot]
    exact Grammar.Keeps.everywhere_leaf hempty rfl

end BundleAtlas
