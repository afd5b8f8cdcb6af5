import BundleAtlas.Proofs.Grammar.Invariant

/-!
Names in a document. A name ends before punctuation, so it has no dot in it,
and a token takes at least one character. Both dialects pass the check
`Phrase.namesWords`: a node that stands for a name is always such a token, and
so every name of a document that can be read is a word without a dot.
-/

namespace BundleAtlas

open Letter

namespace Scan

theorem of_mem_take_run {p : Char → Bool} {cs : List Char} {c : Char}
    (hc : c ∈ cs.take (run p cs)) : p c = true := by
  induction cs with
  | nil => simp at hc
  | cons d cs ih =>
      rw [run] at hc
      split at hc
      · rename_i hd
        rw [List.take_succ_cons] at hc
        rcases List.mem_cons.mp hc with rfl | hc
        · exact hd
        · exact ih hc
      · simp at hc

theorem dot_notMem_take_run {p : Char → Bool} (hp : p '.' = false) (cs : List Char) :
    '.' ∉ cs.take (run p cs) := by
  intro hdot
  rw [of_mem_take_run hdot] at hp
  cases hp

theorem dot_notMem_take_add {cs : List Char} {m n : Nat} (hm : '.' ∉ cs.take m)
    (hn : '.' ∉ (cs.drop m).take n) : '.' ∉ cs.take (m + n) := by
  rw [List.take_add, List.mem_append, not_or]
  exact ⟨hm, hn⟩

theorem dot_notMem_take_max {cs : List Char} {m n : Nat} (hm : '.' ∉ cs.take m)
    (hn : '.' ∉ cs.take n) : '.' ∉ cs.take (max m n) := by
  rw [Nat.max_def]
  split
  · exact hn
  · exact hm

theorem dot_notMem_take_unicodeEscape {cs : List Char} {n : Nat}
    (hescape : unicodeEscape cs = some n) : '.' ∉ cs.take n := by
  have hhex : isHex '.' = false := by decide
  unfold unicodeEscape at hescape
  split at hescape
  · rename_i cs
    dsimp only at hescape
    split at hescape
    · rename_i hbrace
      cases hescape
      rw [Bool.and_eq_true, beq_iff_eq] at hbrace
      -- three characters, the digits, and the brace behind them
      have hclose : '.' ∉ (cs.drop (run isHex cs)).take 1 := by
        rw [List.take_one, hbrace.2]
        decide
      have hinside := dot_notMem_take_add (dot_notMem_take_run hhex cs) hclose
      simpa using hinside
    · cases hescape
  · rename_i a b c d _ _
    split at hescape
    · rename_i hdigits
      cases hescape
      have hdigit : '.' ∉ [a, b, c, d] := by
        intro hdot
        simp only [List.mem_cons, List.not_mem_nil, or_false] at hdot
        rcases hdot with rfl | rfl | rfl | rfl <;> simp [hhex] at hdigits
      simpa using hdigit
    · cases hescape
  · cases hescape

theorem dot_notMem_take_wordTail (cs : List Char) : '.' ∉ cs.take (wordTail cs) := by
  fun_induction wordTail cs with
  | case1 => simp
  | case2 c rest hc ih =>
      rw [List.take_succ_cons, List.mem_cons, not_or]
      refine ⟨?_, ih⟩
      rintro rfl
      exact absurd hc (by decide)
  | case3 c rest hc n hescape ih =>
      rw [Nat.add_comm]
      exact dot_notMem_take_add (dot_notMem_take_unicodeEscape hescape) ih
  | case4 => simp

theorem dot_notMem_take_word (cs : List Char) : '.' ∉ cs.take (word cs) := by
  unfold word
  split
  · split
    · simp
    · exact dot_notMem_take_wordTail _
  · simp

theorem dot_notMem_take_elementName (cs : List Char) : '.' ∉ cs.take (elementName cs) := by
  unfold elementName
  dsimp only
  refine dot_notMem_take_max ?_ (dot_notMem_take_word cs)
  split
  · split
    · exact dot_notMem_take_run (by decide) _
    · simp
  · simp

end Scan

/-- The tokens that are names. -/
def Lexeme.isName : Lexeme → Bool
  | .name _ | .elementName => true
  | _ => false

/-- What a scan that needs at least one character takes. -/
theorem Lexeme.take_of_positive {width : List Char → Nat} (hnil : width [] = 0)
    (hdot : ∀ cs : List Char, '.' ∉ cs.take (width cs)) {cs : List Char} {n : Nat}
    (hn : positive (width cs) = some n) : cs.take n ≠ [] ∧ '.' ∉ cs.take n := by
  unfold positive at hn
  split at hn
  · cases hn
  · rename_i hzero
    cases hn
    refine ⟨?_, hdot cs⟩
    rw [ne_eq, List.take_eq_nil_iff, not_or]
    refine ⟨by simpa using hzero, ?_⟩
    rintro rfl
    simp [hnil] at hzero

/-- A name takes at least one character and no dot. -/
theorem Lexeme.take_of_isName {l : Lexeme} {cs : List Char} {n : Nat} (hname : l.isName = true)
    (hscan : l.scan cs = some n) : cs.take n ≠ [] ∧ '.' ∉ cs.take n := by
  cases l with
  | name barred =>
      rw [scan] at hscan
      split at hscan
      · rename_i m hm
        split at hscan
        · cases hscan
        · cases hscan
          exact take_of_positive rfl Scan.dot_notMem_take_word hm
      · cases hscan
  | elementName => exact take_of_positive rfl Scan.dot_notMem_take_elementName hscan
  | _ => cases hname

/-- The kinds of nodes that stand for a name. -/
def Kind.isWord (k : Kind) : Bool := k == .identifier || k == .propertyIdentifier

/-- If the node stands for a name, its text is a word without a dot. -/
def Node.NamesWord (src : Source) (n : Node) : Prop :=
  n.kind.isWord = true → src.text n ≠ "" ∧ '.' ∉ (src.text n).toList

instance (src : Source) (n : Node) : Decidable (n.NamesWord src) :=
  inferInstanceAs (Decidable (_ → _))

namespace Phrase

/-- Whether every node for a name that a phrase can make is a name. -/
def namesWords : Phrase → Bool
  | .lex l k | .raw l k => !k.isWord || l.isName
  | .seq p q | .either p q | .grow p q => p.namesWords && q.namesWords
  | .many p | .ahead p | .unless p | .field _ p | .within _ p => p.namesWords
  | .node k p | .enclose k _ p => !k.isWord && p.namesWords
  | _ => true

theorem namesWords_of_mem_parts {p q : Phrase} (hp : p.namesWords = true) (hq : q ∈ p.parts) :
    q.namesWords = true := by
  cases p <;> simp_all [parts, namesWords]
  all_goals rcases hq with rfl | rfl <;> simp_all [namesWords]

end Phrase

/-- Both dialects pass the check, rule by rule. -/
theorem Grammar.dialect_namesWords (typed : Bool) (r : Rule) :
    ((Grammar.dialect typed).body r).namesWords = true := by
  cases typed <;> cases r <;> decide

/-- What every scan for a name takes, every name of a document has as its text. -/
theorem Grammar.dialect_keeps_words (typed : Bool) (text : String) {Q : List Char → Prop}
    (htake : ∀ {l : Lexeme} {cs : List Char} {n : Nat}, l.isName = true → l.scan cs = some n →
      Q (cs.take n)) :
    (Grammar.dialect typed).Keeps text.toList Phrase.namesWords
      fun n => n.kind.isWord = true → Q ((Source.ofString text).text n).toList where
  rules := dialect_namesWords typed
  parts _ hp _ hq := Phrase.namesWords_of_mem_parts hp hq
  field _ _ h := h
  comment _ hk := by cases hk
  token {l k place n} hp hplace hscan := by
    intro hk
    have hname : l.isName = true := by
      change k.isWord = true at hk
      simpa [Phrase.namesWords, hk] using hp
    rw [Source.text_token hplace, String.toList_ofList]
    exact htake hname hscan
  node hp _ _ := by
    intro hk
    simp only [Phrase.namesWords, Bool.and_eq_true, Bool.not_eq_true'] at hp
    exact absurd hk (by simp [hp.1])
  enclose _ _ _ hp := by
    intro hk
    simp only [Phrase.namesWords, Bool.and_eq_true, Bool.not_eq_true'] at hp
    exact absurd hk (by simp [hp.1])

/-- Of every text that a dialect can read, the names have what every scan for a
name takes. -/
theorem Dialect.parse_words {dialect : Dialect} {text : String} {p : Parsed}
    {Q : List Char → Prop}
    (htake : ∀ {l : Lexeme} {cs : List Char} {n : Nat}, l.isName = true → l.scan cs = some n →
      Q (cs.take n))
    (hparse : dialect.parse text = .ok p) :
    p.root.Everywhere fun n => n.kind.isWord = true → Q (p.source.text n).toList := by
  rw [dialect.source_of_parse hparse]
  exact Dialect.everywhere_of_parse (Grammar.dialect_keeps_words dialect.isTyped text htake) rfl
    (fun hk => by cases hk) hparse

/-- In every document that can be read, of either dialect, names are words
without a dot. -/
theorem parseSource_namesWord {dialect : Option String} {text : String} {p : Parsed}
    (hparse : parseSource dialect text = .ok p) :
    p.root.Everywhere (Node.NamesWord p.source) := by
  obtain ⟨d, hd⟩ := exists_parse_of_parseSource hparse
  have hwords := Dialect.parse_words (Q := fun cs => cs ≠ [] ∧ '.' ∉ cs) Lexeme.take_of_isName hd
  exact hwords.imp fun n hn hk => by simpa using hn hk

end BundleAtlas
