import BundleAtlas.Proofs.Grammar.Spacing

/-!
How arrays are written. A list of optional elements is written between
brackets, with commas between the elements; a hole writes nothing, one more
comma may stand behind the last element, and comments may stand anywhere. All
arrays of a document that can be read are written so, in both dialects.
-/

namespace BundleAtlas

/-- Optional elements written in a row. A comma behind the last one adds no
element. -/
inductive Separated : List (Option Node) → List Node → Prop
  | empty : Separated [] []
  | last (x : Option Node) : Separated [x] x.toList
  | next (x : Option Node) {comma : Node} {xs : List (Option Node)} {cs : List Node}
      (hcomma : comma.kind = .token ",") (hrest : Separated xs cs) :
      Separated (x :: xs) (x.toList ++ comma :: cs)

/-- What can be an element of an array: neither a bracket nor a comma nor a
comment. -/
def Node.IsElement (n : Node) : Prop :=
  n.kind ≠ .token "[" ∧ n.kind ≠ .token "]" ∧ n.kind ≠ .token "," ∧ n.kind ≠ .comment

/-- Optional elements are written as an array with these children. -/
structure WritesArray (xs : List (Option Node)) (cs : List Node) : Prop where
  elements : ∀ e, some e ∈ xs → e.IsElement
  row : ∃ (opening closing : Node) (body : List Node),
    opening.kind = .token "[" ∧ closing.kind = .token "]" ∧ Separated xs body ∧
      cs.filter (!·.isComment) = opening :: body ++ [closing]

namespace Node

theorem isElement_of_isNamed {n : Node} (hnamed : n.isNamed = true)
    (hcomment : n.isComment = false) : n.IsElement := by
  have htoken : ∀ text, n.kind ≠ .token text := by
    intro text hkind
    rw [isNamed, hkind] at hnamed
    cases hnamed
  refine ⟨htoken "[", htoken "]", htoken ",", ?_⟩
  intro hkind
  rw [isComment, hkind] at hcomment
  cases hcomment

/-- The nodes that have been read, in their order and without the comments. -/
def written (ns : List Node) : List Node := ns.reverse.filter (!·.isComment)

theorem written_append (ms ns : List Node) : written (ms ++ ns) = written ns ++ written ms := by
  rw [written, List.reverse_append, List.filter_append]
  rfl

theorem written_remarks (rs : List Remark) : written (rs.map (·.node)).reverse = [] := by
  rw [written, List.reverse_reverse, List.filter_eq_nil_iff]
  intro n hn
  obtain ⟨r, _, rfl⟩ := List.mem_map.mp hn
  simp [isComment, Remark.node]

end Node

/-- A row with room for one item at most has one node at most, comments
aside. -/
theorem Spacing.length_filter_le {l : Spacing} {ns : List Node}
    (hrow : along .items l ns ≤ .single) : (ns.filter (!·.isComment)).length + l.rank ≤ 1 := by
  induction ns generalizing l with
  | nil =>
      have hroom : l.rank ≤ 1 := hrow
      simpa using hroom
  | cons n ns ih =>
      change along .items (l.step (RowView.items.role n.kind)) ns ≤ .single at hrow
      by_cases hcomment : n.kind = .comment
      · rw [hcomment, RowView.items.comment] at hrow
        have hrest : (ns.filter (!·.isComment)).length + l.rank ≤ 1 := ih hrow
        simpa [Node.isComment, hcomment] using hrest
      · have hitem : RowView.items.role n.kind = .item := if_neg hcomment
        rw [hitem] at hrow
        have hrest := ih hrow
        have hkept : ((n :: ns).filter (!·.isComment)).length =
            (ns.filter (!·.isComment)).length + 1 := by
          simp [Node.isComment, hcomment]
        rw [hkept]
        cases l with
        | vacant => exact hrest
        | single | crowded =>
            have hfull : (ns.filter (!·.isComment)).length + 2 ≤ 1 := hrest
            omega

/-- Rules for values: they give constructs only. -/
def Rule.givesConstructs : Rule → Bool
  | .expression | .primary | .parenthesized | .arrow | .functionExpression | .classExpression
  | .construction | .template | .array | .object | .element => true
  | _ => false

namespace Phrase

/-- Whether all nodes that a phrase gives are constructs. -/
def givesConstructs : Phrase → Bool
  | .lex _ k | .raw _ k | .node k _ | .enclose k _ _ => k.isNamed
  | .seq p q | .either p q | .grow p q => p.givesConstructs && q.givesConstructs
  | .many p | .field _ p | .within _ p => p.givesConstructs
  | .call r => r.givesConstructs
  | _ => true

/-- Whether a phrase is read apart from what was read before. -/
def standsAlone : Phrase → Bool
  | .either p q => p.standsAlone && q.standsAlone
  | .done | .node _ _ | .call _ => true
  | _ => false

/-- Whether a phrase gives a construct or nothing. -/
def isOptionalConstruct (p : Phrase) : Bool :=
  p.standsAlone && p.givesConstructs && decide (p.spacing .items .vacant ≤ .single)

/-- Whether a phrase is a row of optional constructs between brackets, with
commas between them. -/
def isArrayRow : Phrase → Bool
  | .seq (.lex _ opening) (.seq (.within _ (.seq p (.many (.seq (.lex _ comma) q))))
      (.lex _ closing)) =>
    opening == .token "[" && comma == .token "," && closing == .token "]" &&
      p.isOptionalConstruct && q.isOptionalConstruct
  | _ => false

end Phrase

theorem Grammar.dialect_givesConstructs (typed : Bool) (r : Rule)
    (hr : r.givesConstructs = true) : ((Grammar.dialect typed).body r).givesConstructs = true := by
  revert hr
  cases typed <;> cases r <;> decide

/-- Only rows of optional constructs make arrays. -/
def Phrase.arrayTests : Phrase.Tests where
  token k := k != .array
  around k p := k != .array || p.isArrayRow
  grown k := k != .array

theorem Grammar.dialect_arrayTests (typed : Bool) (r : Rule) :
    ((Grammar.dialect typed).body r).makes Phrase.arrayTests = true := by
  cases typed <;> cases r <;> decide

theorem Node.isNamed_of_mem_around {k : Kind} {f : Option Field} {stop : Mark} {ms : List Node}
    (hk : k.isNamed = true) : ∀ n ∈ around k f stop ms, n.isNamed = true := by
  obtain ⟨made, comments, haround, hcomments, hmade⟩ := around_eq k f stop ms
  rw [haround]
  intro n hn
  rcases List.mem_append.mp hn with hn | hn
  · rcases hmade with rfl | ⟨c, cs, _, rfl⟩
    · cases hn
    · rw [List.mem_singleton.mp hn]
      exact hk
  · rw [isNamed, (hcomments n hn).1]
    rfl

theorem Node.isNamed_of_mem_remarks {rs : List Remark} :
    ∀ n ∈ (rs.map (·.node)).reverse, n.isNamed = true := by
  intro n hn
  obtain ⟨r, _, rfl⟩ := List.mem_map.mp (List.mem_reverse.mp hn)
  rfl

namespace Reads

variable {typed : Bool} {text : List Char} {p : Phrase} {s : Setting} {c d : Cursor}
  {ns ms : List Node}

theorem seq_iff {g : Grammar} {q : Phrase} :
    Reads g text (.seq p q) s c ns d ms ↔
      ∃ middle os, Reads g text p s c ns middle os ∧ Reads g text q s middle os d ms := by
  constructor
  · intro hread
    cases hread with
    | seq hfirst hsecond => exact ⟨_, _, hfirst, hsecond⟩
  · rintro ⟨_, _, hfirst, hsecond⟩
    exact .seq hfirst hsecond

theorem within_iff {g : Grammar} {a : Change} :
    Reads g text (.within a p) s c ns d ms ↔ Reads g text p (s.change a) c ns d ms := by
  constructor
  · intro hread
    cases hread with
    | within hinner => exact hinner
  · exact .within

theorem isNamed (hread : Reads (Grammar.dialect typed) text p s c ns d ms)
    (hp : p.givesConstructs = true) (hns : ∀ n ∈ ns, n.isNamed = true) :
    ∀ n ∈ ms, n.isNamed = true := by
  have hnil : ∀ n ∈ ([] : List Node), n.isNamed = true := by simp
  induction hread with
  | done | stop | ahead | «unless» | shape | guard | unbroken => exact hns
  | lex _ =>
      refine List.forall_mem_append.mpr ⟨List.forall_mem_cons.mpr ⟨hp, ?_⟩, hns⟩
      exact Node.isNamed_of_mem_remarks
  | raw _ => exact List.forall_mem_cons.mpr ⟨hp, hns⟩
  | seq _ _ ihp ihq =>
      rw [Phrase.givesConstructs, Bool.and_eq_true] at hp
      exact ihq hp.2 (ihp hp.1 hns)
  | left _ ih =>
      rw [Phrase.givesConstructs, Bool.and_eq_true] at hp
      exact ih hp.1 hns
  | right _ ih =>
      rw [Phrase.givesConstructs, Bool.and_eq_true] at hp
      exact ih hp.2 hns
  | more _ _ ihone ihrest => exact ihrest hp (ihone hp hns)
  | field _ ih =>
      refine List.forall_mem_append.mpr ⟨?_, hns⟩
      intro n hn
      obtain ⟨m, hm, rfl⟩ := List.mem_map.mp hn
      have hnamed := ih hp hnil m hm
      split <;> exact hnamed
  | node _ _ => exact List.forall_mem_append.mpr ⟨Node.isNamed_of_mem_around hp, hns⟩
  | call _ _ _ ih =>
      have hbody := ih (Grammar.dialect_givesConstructs typed _ hp) hnil
      exact List.forall_mem_append.mpr ⟨hbody, hns⟩
  | grow _ _ ihbase ihsuffix =>
      rw [Phrase.givesConstructs, Bool.and_eq_true] at hp
      exact List.forall_mem_append.mpr ⟨ihsuffix hp.2 (ihbase hp.1 hnil), hns⟩
  -- What a suffix reads goes into the node that it makes, tokens and all.
  | enclose _ _ => exact Node.isNamed_of_mem_around hp
  | within _ ih => exact ih hp hns
  | implied hclose =>
      obtain ⟨taken, rfl⟩ := Cursor.closeFrom_eq hclose
      exact List.forall_mem_append.mpr ⟨Node.isNamed_of_mem_remarks, hns⟩
  | finish => exact List.forall_mem_append.mpr ⟨Node.isNamed_of_mem_remarks, hns⟩

/-- A phrase that is read apart adds what it would give by itself. -/
theorem exists_added (hp : p.standsAlone = true)
    (hread : Reads (Grammar.dialect typed) text p s c ns d ms) :
    ∃ added, ms = added ++ ns ∧ Reads (Grammar.dialect typed) text p s c [] d added := by
  induction hread with
  | done => exact ⟨[], rfl, .done⟩
  | left _ ih =>
      rw [Phrase.standsAlone, Bool.and_eq_true] at hp
      obtain ⟨added, hadded, hread⟩ := ih hp.1
      exact ⟨added, hadded, .left hread⟩
  | right _ ih =>
      rw [Phrase.standsAlone, Bool.and_eq_true] at hp
      obtain ⟨added, hadded, hread⟩ := ih hp.2
      exact ⟨added, hadded, .right hread⟩
  | @node k _ _ _ d _ ms hinner _ =>
      refine ⟨Node.around k none d.last.mark ms, rfl, ?_⟩
      rw [← List.append_nil (Node.around k none d.last.mark ms)]
      exact .node hinner
  | @call _ _ _ _ _ _ ms hplace hsame hbody _ =>
      refine ⟨ms, rfl, ?_⟩
      rw [← List.append_nil ms]
      exact .call hplace hsame hbody
  | _ => cases hp

/-- A phrase for an optional construct writes an element or nothing. -/
theorem exists_element (hp : p.isOptionalConstruct = true)
    (hread : Reads (Grammar.dialect typed) text p s c ns d ms) :
    ∃ x : Option Node, Node.written ms = Node.written ns ++ x.toList ∧
      ∀ e, x = some e → e.IsElement := by
  simp only [Phrase.isOptionalConstruct, Bool.and_eq_true, decide_eq_true_eq] at hp
  obtain ⟨added, rfl, halone⟩ := hread.exists_added hp.1.1
  have hnamed := halone.isNamed hp.1.2 (by simp)
  have hrow := (halone.spacing_le (Grammar.dialect_spaced typed) .items (le_refl _)).trans hp.2
  have hlength : (Node.written added).length ≤ 1 := Spacing.length_filter_le hrow
  have helement : ∀ e ∈ Node.written added, e.IsElement := by
    intro e he
    obtain ⟨hmem, hcomment⟩ := List.mem_filter.mp he
    exact Node.isElement_of_isNamed (hnamed e (List.mem_reverse.mp hmem)) (by simpa using hcomment)
  rw [Node.written_append]
  match hadded : Node.written added, hlength, helement with
  | [], _, _ => exact ⟨none, rfl, by simp⟩
  | [e], _, helement =>
      exact ⟨some e, rfl, fun other hother => helement other (by simp [Option.some.inj hother])⟩

theorem exists_token {l : Lexeme} {k : Kind} (hk : k ≠ .comment)
    (hread : Reads (Grammar.dialect typed) text (.lex l k) s c ns d ms) :
    ∃ token, token.kind = k ∧ Node.written ms = Node.written ns ++ [token] := by
  cases hread with
  | @lex _ _ _ _ _ n _ =>
      have htoken : ((⟨k, none, c.next.mark, (c.next.skip n).mark, []⟩ : Node) ::
          (c.remarks.map (·.node)).reverse ++ ns) =
          [⟨k, none, c.next.mark, (c.next.skip n).mark, []⟩] ++
            ((c.remarks.map (·.node)).reverse ++ ns) := rfl
      refine ⟨⟨k, none, c.next.mark, (c.next.skip n).mark, []⟩, rfl, ?_⟩
      rw [Cursor.take, htoken, Node.written_append, Node.written_append, Node.written_remarks]
      simp [Node.written, Node.isComment, hk]

/-- What commas and optional constructs write behind an element goes on with
its row. The induction is on the number of commas. -/
theorem exists_separated {l : Lexeme} {q : Phrase} (hq : q.isOptionalConstruct = true)
    (hread : Reads (Grammar.dialect typed) text (.many (.seq (.lex l (.token ",")) q)) s c ns d ms)
    (x : Option Node) (hx : ∀ e, x = some e → e.IsElement) :
    ∃ xs added, (∀ e, some e ∈ x :: xs → e.IsElement) ∧
      Separated (x :: xs) (x.toList ++ added) ∧ Node.written ms = Node.written ns ++ added := by
  generalize hp : Phrase.many (.seq (.lex l (.token ",")) q) = p at hread
  induction hread generalizing x with
  | stop =>
      refine ⟨[], [], ?_, by simpa using Separated.last x, by simp⟩
      intro e he
      exact hx e (List.mem_singleton.mp he).symm
  | more hone _ _ ihrest =>
      cases hp
      obtain ⟨_, _, hcomma, hconstruct⟩ := seq_iff.mp hone
      obtain ⟨comma, hkind, hcomma⟩ := hcomma.exists_token (by decide)
      obtain ⟨y, hy, helement⟩ := hconstruct.exists_element hq
      obtain ⟨ys, added, helements, hrow, hrest⟩ := ihrest y helement rfl
      refine ⟨y :: ys, comma :: (y.toList ++ added), ?_, .next x hkind hrow, ?_⟩
      · intro e he
        rcases List.mem_cons.mp he with hfirst | hlater
        · exact hx e hfirst.symm
        · exact helements e hlater
      · rw [hrest, hy, hcomma]
        simp
  | _ => cases hp

/-- What the phrase of an array reads is written from optional elements. -/
theorem exists_writesArray (hp : p.isArrayRow = true)
    (hread : Reads (Grammar.dialect typed) text p s c [] d ms) :
    ∃ xs, WritesArray xs ms.reverse := by
  unfold Phrase.isArrayRow at hp
  split at hp
  · simp only [Bool.and_eq_true, beq_iff_eq] at hp
    obtain ⟨⟨⟨⟨rfl, rfl⟩, rfl⟩, hfirst⟩, hq⟩ := hp
    obtain ⟨_, _, hopening, hread⟩ := seq_iff.mp hread
    obtain ⟨_, _, hinside, hclosing⟩ := seq_iff.mp hread
    obtain ⟨_, _, hconstruct, hmore⟩ := seq_iff.mp (within_iff.mp hinside)
    obtain ⟨opening, hopeningKind, hopening⟩ := hopening.exists_token (by decide)
    obtain ⟨x, hx, helement⟩ := hconstruct.exists_element hfirst
    obtain ⟨xs, added, helements, hrow, hmore⟩ := hmore.exists_separated hq x helement
    obtain ⟨closing, hclosingKind, hclosing⟩ := hclosing.exists_token (by decide)
    refine ⟨x :: xs, helements, opening, closing, x.toList ++ added, hopeningKind, hclosingKind,
      hrow, ?_⟩
    change Node.written ms = opening :: (x.toList ++ added) ++ [closing]
    rw [hclosing, hmore, hx, hopening]
    simp [Node.written]
  · cases hp

end Reads

/-- If the node is an array, it is written from optional elements. -/
def Node.IsWrittenArray (n : Node) : Prop :=
  n.kind = .array → ∃ xs, WritesArray xs n.children

theorem WritesArray.dropWhile {xs : List (Option Node)} {cs : List Node}
    (h : WritesArray xs cs) : WritesArray xs (cs.dropWhile Node.isComment) := by
  have hsame : (cs.dropWhile Node.isComment).filter (!·.isComment) =
      cs.filter (!·.isComment) := by
    have htaken : (cs.takeWhile Node.isComment).filter (!·.isComment) = [] := by
      rw [List.filter_eq_nil_iff]
      intro n hn
      simp [List.mem_takeWhile_imp hn]
    have hsplit : cs.filter (!·.isComment) =
        (cs.takeWhile Node.isComment).filter (!·.isComment) ++
          (cs.dropWhile Node.isComment).filter (!·.isComment) := by
      rw [← List.filter_append, List.takeWhile_append_dropWhile]
    rw [hsplit, htaken, List.nil_append]
  refine ⟨h.elements, ?_⟩
  rw [hsame]
  exact h.row

theorem Grammar.dialect_keeps_arrays (typed : Bool) (text : List Char) :
    (Grammar.dialect typed).Keeps text (Phrase.makes Phrase.arrayTests) Node.IsWrittenArray where
  rules := dialect_arrayTests typed
  parts _ hp _ hq := Phrase.makes_of_mem_parts hp hq
  field _ _ h := h
  comment _ hk := by cases hk
  token hp _ _ hk := by
    simp only [Phrase.makes, Phrase.arrayTests, or_self, bne_iff_ne] at hp
    exact absurd hk hp
  node {k p s c d ms cs first} hp hread hdrop hk := by
    simp only [Phrase.makes, Phrase.arrayTests, Bool.and_eq_true, Bool.or_eq_true,
      bne_iff_ne] at hp
    obtain ⟨xs, hxs⟩ := hread.exists_writesArray (hp.1.resolve_left fun hne => hne hk)
    exact ⟨xs, hdrop ▸ hxs.dropWhile⟩
  enclose _ _ _ hp hk := by
    simp only [Phrase.makes, Phrase.arrayTests, Bool.and_eq_true, bne_iff_ne] at hp
    exact absurd hk hp.1

/-- All arrays of a document that can be read, of either dialect, are written
from optional elements. -/
theorem Dialect.parse_isWrittenArray {dialect : Dialect} {text : String} {p : Parsed}
    (hparse : dialect.parse text = .ok p) : p.root.Everywhere Node.IsWrittenArray :=
  Dialect.everywhere_of_parse (Grammar.dialect_keeps_arrays dialect.isTyped _) rfl
    (fun hk => by cases hk) hparse

end BundleAtlas
