import BundleAtlas.Proofs.Grammar.Position

/-!
What a reader can have read, as a relation. `Reads` has one rule for each way
to follow a phrase; it knows nothing of the depth of the recursion and of what
was remembered. Every answer of `Reader.read` is one of the relation, so that
a property of all trees is proved once for each rule.
-/

namespace BundleAtlas

/-- `Reads g text p s c ns d ms`: in the setting `s`, from the cursor `c` with
the nodes `ns`, the phrase `p` can be followed to the cursor `d` with the nodes
`ms`. A call may stand for what was read from another cursor of the text at its
offset. -/
inductive Reads (g : Grammar) (text : List Char) :
    Phrase → Setting → Cursor → List Node → Cursor → List Node → Prop
  | done {s : Setting} {c : Cursor} {ns : List Node} : Reads g text .done s c ns c ns
  | lex {l : Lexeme} {k : Kind} {s : Setting} {c : Cursor} {ns : List Node} {n : Nat}
      (hscan : l.scan c.next.rest = some n) :
      Reads g text (.lex l k) s c ns (c.take k n ns).1 (c.take k n ns).2
  | raw {l : Lexeme} {k : Kind} {s : Setting} {c : Cursor} {ns : List Node} {n : Nat}
      (hscan : l.scan c.last.rest = some n) :
      Reads g text (.raw l k) s c ns (c.takeRaw k n ns).1 (c.takeRaw k n ns).2
  | seq {p q : Phrase} {s : Setting} {c d e : Cursor} {ns ms os : List Node}
      (first : Reads g text p s c ns d ms) (second : Reads g text q s d ms e os) :
      Reads g text (.seq p q) s c ns e os
  | left {p q : Phrase} {s : Setting} {c d : Cursor} {ns ms : List Node}
      (chosen : Reads g text p s c ns d ms) : Reads g text (.either p q) s c ns d ms
  | right {p q : Phrase} {s : Setting} {c d : Cursor} {ns ms : List Node}
      (chosen : Reads g text q s c ns d ms) : Reads g text (.either p q) s c ns d ms
  | stop {p : Phrase} {s : Setting} {c : Cursor} {ns : List Node} :
      Reads g text (.many p) s c ns c ns
  | more {p : Phrase} {s : Setting} {c d e : Cursor} {ns ms os : List Node}
      (one : Reads g text p s c ns d ms) (rest : Reads g text (.many p) s d ms e os) :
      Reads g text (.many p) s c ns e os
  | ahead {p : Phrase} {s : Setting} {c d : Cursor} {ns ms : List Node}
      (seen : Reads g text p s c ns d ms) : Reads g text (.ahead p) s c ns c ns
  | unless {p : Phrase} {s : Setting} {c : Cursor} {ns : List Node} :
      Reads g text (.unless p) s c ns c ns
  | field {f : Field} {p : Phrase} {s : Setting} {c d : Cursor} {ns ms : List Node}
      (inner : Reads g text p s c [] d ms) :
      Reads g text (.field f p) s c ns d (Node.mark f ms ++ ns)
  | node {k : Kind} {p : Phrase} {s : Setting} {c d : Cursor} {ns ms : List Node}
      (inner : Reads g text p s c [] d ms) :
      Reads g text (.node k p) s c ns d (Node.around k none d.last.mark ms ++ ns)
  | call {r : Rule} {s : Setting} {b c d : Cursor} {ns ms : List Node}
      (hplace : b.Of text) (hsame : b.last.mark.offset = c.last.mark.offset)
      (body : Reads g text (g.body r) s b [] d ms) : Reads g text (.call r) s c ns d (ms ++ ns)
  | grow {base suffix : Phrase} {s : Setting} {c d e : Cursor} {ns ms os : List Node}
      (operand : Reads g text base s c [] d ms)
      (suffixes : Reads g text (.many suffix) s d ms e os) :
      Reads g text (.grow base suffix) s c ns e (os ++ ns)
  | enclose {k : Kind} {f : Option Field} {p : Phrase} {s : Setting} {c d : Cursor}
      {ns ms : List Node} (inner : Reads g text p s c ns d ms) :
      Reads g text (.enclose k f p) s c ns d (Node.around k f d.last.mark ms)
  | shape {ks : List Kind} {s : Setting} {c : Cursor} {ns : List Node}
      (hkind : (ns.head?.any fun n => ks.contains n.kind) = true) :
      Reads g text (.shape ks) s c ns c ns
  | guard {a : Guard} {s : Setting} {c : Cursor} {ns : List Node} (hallows : s.allows a = true) :
      Reads g text (.guard a) s c ns c ns
  | within {a : Change} {p : Phrase} {s : Setting} {c d : Cursor} {ns ms : List Node}
      (inner : Reads g text p (s.change a) c ns d ms) : Reads g text (.within a p) s c ns d ms
  | implied {a : Closing} {s : Setting} {c d : Cursor} {ns ms : List Node}
      (hclose : c.close (Reader.ending g ns a) ns = some (d, ms)) :
      Reads g text (.implied a) s c ns d ms
  | unbroken {s : Setting} {c : Cursor} {ns : List Node}
      (hunbroken : Reader.unbroken g s c = true) : Reads g text .unbroken s c ns c ns
  | finish {s : Setting} {c : Cursor} {ns : List Node} (hend : c.next.rest.isEmpty = true) :
      Reads g text .finish s c ns c ((c.remarks.map (·.node)).reverse ++ ns)

/-- Whatever is read from a cursor of a text, the reader stays in the text. -/
theorem Reads.of {g : Grammar} {text : List Char} {p : Phrase} {s : Setting} {c d : Cursor}
    {ns ms : List Node} (hread : Reads g text p s c ns d ms) (hc : c.Of text) : d.Of text := by
  induction hread with
  | done | stop | ahead | «unless» | shape | guard | unbroken | finish => exact hc
  | @lex _ _ _ c _ n _ => exact Cursor.of_behind (hc.next.skip n)
  | @raw _ _ _ c _ n _ => exact Cursor.of_behind (hc.last.skip n)
  | seq _ _ ihp ihq => exact ihq (ihp hc)
  | left _ ih | right _ ih | field _ ih | node _ ih | enclose _ ih | within _ ih => exact ih hc
  | more _ _ ihone ihrest => exact ihrest (ihone hc)
  | call hplace _ _ ih => exact ih hplace
  | grow _ _ ihbase ihsuffix => exact ihsuffix (ihbase hc)
  | implied hclose => exact Cursor.of_closeFrom hclose hc

/-- All that a reader remembers of successful calls has been read. -/
def Scratch.Sound (g : Grammar) (text : List Char) (m : Scratch) : Prop :=
  ∀ (q : Query) (d : Cursor) (ms : List Node), m.known[q]? = some (some (d, ms)) →
    ∃ c : Cursor, c.Of text ∧ c.last.mark.offset = q.offset ∧
      Reads g text (g.body q.rule) q.setting c [] d ms

namespace Scratch.Sound

variable {g : Grammar} {text : List Char} {m : Scratch}

theorem empty : Scratch.Sound g text {} := by
  intro q d ms hknown
  simp at hknown

theorem withFarthest (h : m.Sound g text) (far : Option Mark) :
    Scratch.Sound g text { m with farthest := far } := h

theorem miss (h : m.Sound g text) (mark : Mark) : (m.miss mark).Sound g text := by
  unfold Scratch.miss
  split
  · split
    · exact h
    · exact h
  · exact h

theorem remember (h : m.Sound g text) (q : Query) (r : Reading)
    (hread : ∀ d ms, r = some (d, ms) →
      ∃ c : Cursor, c.Of text ∧ c.last.mark.offset = q.offset ∧
        Reads g text (g.body q.rule) q.setting c [] d ms) :
    Scratch.Sound g text { m with known := m.known.insert q r } := by
  intro other d ms hknown
  simp only [Std.HashMap.getElem?_insert] at hknown
  split at hknown
  · rename_i hsame
    obtain rfl : q = other := by simpa using hsame
    exact hread d ms (Option.some.inj hknown)
  · exact h other d ms hknown

end Scratch.Sound

/-- An answer of a reader: what it remembers has been read, and if it gives a
cursor and nodes, the phrase can be followed to them. -/
def Answers (g : Grammar) (text : List Char) (p : Phrase) (s : Setting) (c : Cursor)
    (ns : List Node) (answer : Reading × Scratch) : Prop :=
  answer.2.Sound g text ∧ ∀ d ms, answer.1 = some (d, ms) → Reads g text p s c ns d ms

namespace Answers

variable {g : Grammar} {text : List Char} {p : Phrase} {s : Setting} {c d : Cursor}
  {ns ms : List Node} {m : Scratch}

theorem failure (hm : m.Sound g text) : Answers g text p s c ns (none, m) := by
  refine ⟨hm, ?_⟩
  intro d ms hnone
  cases hnone

theorem success (hm : m.Sound g text) (hread : Reads g text p s c ns d ms) :
    Answers g text p s c ns (some (d, ms), m) := by
  refine ⟨hm, ?_⟩
  intro e os hsome
  cases hsome
  exact hread

end Answers

/-- From a cursor of the text the reader answers by the relation, however deep
it may go and whatever it remembers from before. The induction is on the depth; a call adds what it
has read to what is remembered. -/
theorem Reader.read_answers (g : Grammar) {text : List Char} (fuel : Nat) (p : Phrase)
    (s : Setting) (c : Cursor) (ns : List Node) (m : Scratch) (hc : c.Of text)
    (hm : m.Sound g text) :
    Answers g text p s c ns (read g fuel p s c ns m) := by
  induction fuel generalizing p s c ns m with
  | zero =>
      rw [read]
      exact .failure hm
  | succ fuel ih =>
      cases p with
      | done =>
          rw [read]
          exact .success hm .done
      | lex l k =>
          rw [read]
          split
          · rename_i n hscan
            exact .success hm (.lex hscan)
          · exact .failure (hm.miss _)
      | raw l k =>
          rw [read]
          split
          · rename_i n hscan
            exact .success hm (.raw hscan)
          · exact .failure (hm.miss _)
      | seq p q =>
          have hp := ih p s c ns m hc hm
          rw [read]
          split
          · rename_i d ms after hread
            rw [hread] at hp
            have hfirst := hp.2 d ms rfl
            have hq := ih q s d ms after (hfirst.of hc) hp.1
            exact ⟨hq.1, fun e os hsome => .seq hfirst (hq.2 e os hsome)⟩
          · rename_i after hread
            rw [hread] at hp
            exact .failure hp.1
      | either p q =>
          have hp := ih p s c ns m hc hm
          rw [read]
          split
          · rename_i result after hread
            rw [hread] at hp
            exact ⟨hp.1, fun d ms hsome => .left (hp.2 d ms hsome)⟩
          · rename_i after hread
            rw [hread] at hp
            have hq := ih q s c ns after hc hp.1
            exact ⟨hq.1, fun d ms hsome => .right (hq.2 d ms hsome)⟩
      | many p =>
          have hp := ih p s c ns m hc hm
          rw [read]
          split
          · rename_i d ms after hread
            rw [hread] at hp
            have hone := hp.2 d ms rfl
            split
            · have hrest := ih (.many p) s d ms after (hone.of hc) hp.1
              exact ⟨hrest.1, fun e os hsome => .more hone (hrest.2 e os hsome)⟩
            · exact .success hp.1 (.more hone .stop)
          · rename_i after hread
            rw [hread] at hp
            exact .success hp.1 .stop
      | ahead p =>
          have hp := ih p s c ns m hc hm
          rw [read]
          split
          · rename_i result after hread
            rw [hread] at hp
            obtain ⟨d, ms⟩ := result
            exact .success (hp.1.withFarthest _) (.ahead (hp.2 d ms rfl))
          · rename_i after hread
            rw [hread] at hp
            exact .failure ((hp.1.withFarthest _).miss _)
      | «unless» p =>
          have hp := ih p s c ns m hc hm
          rw [read]
          split
          · rename_i result after hread
            rw [hread] at hp
            exact .failure ((hp.1.withFarthest _).miss _)
          · rename_i after hread
            rw [hread] at hp
            exact .success (hp.1.withFarthest _) .unless
      | field f p =>
          have hp := ih p s c [] m hc hm
          rw [read]
          split
          · rename_i d ms after hread
            rw [hread] at hp
            exact .success hp.1 (.field (hp.2 d ms rfl))
          · rename_i after hread
            rw [hread] at hp
            exact .failure hp.1
      | node k p =>
          have hp := ih p s c [] m hc hm
          rw [read]
          split
          · rename_i d ms after hread
            rw [hread] at hp
            exact .success hp.1 (.node (hp.2 d ms rfl))
          · rename_i after hread
            rw [hread] at hp
            exact .failure hp.1
      | call r =>
          rw [read]
          split
          · rename_i known hknown
            split
            · rename_i d ms
              obtain ⟨b, hplace, hsame, hbody⟩ := hm _ d ms hknown
              exact .success hm (.call hplace hsame hbody)
            · exact .failure hm
          · have hbody := ih (g.body r) s c [] m hc hm
            split
            · rename_i d ms after hread
              rw [hread] at hbody
              have hread := hbody.2 d ms rfl
              refine .success (hbody.1.remember _ _ ?_) (.call hc rfl hread)
              intro e os hsome
              cases hsome
              exact ⟨c, hc, rfl, hread⟩
            · rename_i after hread
              rw [hread] at hbody
              refine .failure (hbody.1.remember _ _ ?_)
              intro e os hnone
              cases hnone
      | grow base suffix =>
          have hbase := ih base s c [] m hc hm
          rw [read]
          split
          · rename_i d ms after hread
            rw [hread] at hbase
            have hoperand := hbase.2 d ms rfl
            have hmany := ih (.many suffix) s d ms after (hoperand.of hc) hbase.1
            split
            · rename_i e os last hlast
              rw [hlast] at hmany
              exact .success hmany.1 (.grow hoperand (hmany.2 e os rfl))
            · rename_i last hlast
              rw [hlast] at hmany
              exact .failure hmany.1
          · rename_i after hread
            rw [hread] at hbase
            exact .failure hbase.1
      | enclose k f p =>
          have hp := ih p s c ns m hc hm
          rw [read]
          split
          · rename_i d ms after hread
            rw [hread] at hp
            exact .success hp.1 (.enclose (hp.2 d ms rfl))
          · rename_i after hread
            rw [hread] at hp
            exact .failure hp.1
      | shape ks =>
          rw [read]
          split
          · rename_i hkind
            exact .success hm (.shape hkind)
          · exact .failure hm
      | guard a =>
          rw [read]
          split
          · rename_i hallows
            exact .success hm (.guard hallows)
          · exact .failure hm
      | within a p =>
          have hp := ih p (s.change a) c ns m hc hm
          rw [read]
          exact ⟨hp.1, fun d ms hsome => .within (hp.2 d ms hsome)⟩
      | implied a =>
          rw [read]
          split
          · rename_i result hclose
            obtain ⟨d, ms⟩ := result
            exact .success hm (.implied hclose)
          · exact .failure (hm.miss _)
      | unbroken =>
          rw [read]
          split
          · rename_i hunbroken
            exact .success hm (.unbroken hunbroken)
          · exact .failure (hm.miss _)
      | finish =>
          rw [read]
          split
          · rename_i hend
            exact .success hm (.finish hend)
          · exact .failure (hm.miss _)

end BundleAtlas
