import BundleAtlas.Proofs.Bundle.ArrayIndices
import BundleAtlas.Proofs.Grammar.NameForm
import BundleAtlas.Proofs.Tree.Commented

/-!
Bundles with more comments. Comments beside parameters, arguments, elements and
members, and in parentheses, are passed over when a table is looked for and
read, so a document with more of them is split in the same way. What must stay
as it is written are the bodies and the keys of the modules, which are their
texts and ids. One place reads comments: a list of parameters with nothing but
a comment in it counts as one with a parameter.
-/

namespace BundleAtlas

theorem rel_mapM {α β γ δ : Type} {R : α → β → Prop} {S : γ → δ → Prop} {f : α → Option γ}
    {g : β → Option δ} {xs : List α} {ys : List β} (h : List.Forall₂ R xs ys)
    (hfg : ∀ x ∈ xs, ∀ y, R x y → Option.Rel S (f x) (g y)) :
    Option.Rel (List.Forall₂ S) (xs.mapM f) (ys.mapM g) := by
  induction h with
  | nil => exact .some .nil
  | cons hxy _ ih =>
      obtain ⟨hone, hrest⟩ := List.forall_mem_cons.mp hfg
      rw [List.mapM_cons, List.mapM_cons]
      refine rel_bind (hone _ hxy) fun z w hzw => ?_
      exact rel_bind (ih hrest) fun zs ws hzws => .some (.cons hzw hzws)

/-- The first result is the same if results are found at the same items and the
first one of them is the same. -/
theorem Interleaved.findSome?_eq {α β γ : Type} {R : α → β → Prop} {Other : β → Prop}
    {as : List α} {bs : List β} {f : α → Option γ} {g : β → Option γ}
    (h : Interleaved R Other as bs) (hother : ∀ b, Other b → g b = none)
    (hsome : ∀ a ∈ as, ∀ b, R a b → Option.Rel (fun _ _ => True) (f a) (g b))
    (hfirst : ∀ before a, IsFirst (fun a => ∃ y, f a = some y) as before a →
      ∀ b, R a b → g b = f a) :
    bs.findSome? g = as.findSome? f := by
  induction h with
  | nil => rfl
  | @found a b as bs hab _ ih =>
      obtain ⟨hone, hrest⟩ := List.forall_mem_cons.mp hsome
      rw [List.findSome?_cons, List.findSome?_cons]
      rcases rel_cases (hone b hab) with ⟨ha, hb⟩ | ⟨y, z, ha, hb, _⟩
      · rw [ha, hb]
        refine ih hrest fun before x hx => ?_
        obtain ⟨⟨behind, horder⟩, hholds, hbefore⟩ := hx
        refine hfirst (a :: before) x ⟨⟨behind, by rw [horder, List.cons_append]⟩, hholds, ?_⟩
        refine List.forall_mem_cons.mpr ⟨?_, hbefore⟩
        rintro ⟨y, hy⟩
        rw [ha] at hy
        cases hy
      · have hsame := hfirst [] a ⟨⟨as, rfl⟩, ⟨y, ha⟩, by simp⟩ b hab
        rw [hsame, ha]
  | @other b _ _ hb _ ih =>
      rw [List.findSome?_cons, hother b hb]
      exact ih hsome hfirst

namespace Split

/-- Two entries under the same key, with related values. -/
structure Alike (R : Node → Node → Prop) (e e' : String × Node) : Prop where
  key : e'.1 = e.1
  value : R e.2 e'.2

section

variable {R : Node → Node → Prop} {src src' : Source} {n m : Node}

theorem forall₂_put {entries entries' : List (String × Node)} {value value' : Node}
    (h : List.Forall₂ (Alike R) entries entries') (hvalue : R value value') (key : String) :
    List.Forall₂ (Alike R) (put key value entries) (put key value' entries') := by
  induction h with
  | nil => exact .cons ⟨rfl, hvalue⟩ .nil
  | @cons e e' _ _ he hrest ih =>
      rw [put, put, he.key]
      split
      · exact .cons ⟨rfl, hvalue⟩ hrest
      · exact .cons ⟨rfl, he.value⟩ ih

theorem forall₂_foldl_put {pairs pairs' entries entries' : List (String × Node)}
    (hpairs : List.Forall₂ (Alike R) pairs pairs')
    (hentries : List.Forall₂ (Alike R) entries entries') :
    List.Forall₂ (Alike R) (pairs.foldl (fun entries p => put p.1 p.2 entries) entries)
      (pairs'.foldl (fun entries p => put p.1 p.2 entries) entries') := by
  induction hpairs generalizing entries entries' with
  | nil => exact hentries
  | @cons e e' _ _ he _ ih =>
      rw [List.foldl_cons, List.foldl_cons, he.key]
      exact ih (forall₂_put hentries he.value e.1)

/-- The elements of an array keep their indices, whatever comments are put among
them. -/
theorem forall₂_arrayEntries {cs cs' : List Node} (h : Interleaved R Node.IsRemark cs cs')
    (hkind : ∀ n m, R n m → m.kind = n.kind) (i : Nat) :
    List.Forall₂ (Alike R) (arrayEntries i cs) (arrayEntries i cs') := by
  induction h generalizing i with
  | nil => exact .nil
  | @found c c' _ _ hc _ ih =>
      rw [arrayEntries, arrayEntries, Node.isComment, Node.isComment, hkind c c' hc]
      split
      · exact ih i
      · split
        · exact ih (i + 1)
        · exact .cons ⟨rfl, hc⟩ (ih i)
  | @other c _ _ hc _ ih =>
      rw [arrayEntries, Node.isComment, hc.kind]
      exact ih i

/-- The key of a pair is written as it was. -/
def KeepsKey (R : Node → Node → Prop) (src src' : Source) (member : Node) : Prop :=
  ∀ key key', member.child? .key = some key → R key key' → src'.text key' = src.text key

theorem rel_pair? (hR : Node.Transparent R) (h : R n m) (hkey : KeepsKey R src src' n) :
    Option.Rel (Alike R) (pair? src n) (pair? src' m) := by
  unfold pair?
  rw [hR.kind h]
  split
  · rcases rel_cases (hR.child? h .key) with ⟨hk, hk'⟩ | ⟨key, key', hk, hk', hkeys⟩
    · rw [hk, hk']
      exact .none
    · rcases rel_cases (hR.child? h .value) with ⟨hv, hv'⟩ | ⟨value, value', hv, hv', hvalues⟩
      · rw [hk, hk', hv, hv']
        exact .none
      · rw [hk, hk', hv, hv']
        refine .some ⟨?_, hvalues⟩
        unfold keyText
        rw [hR.kind hkeys, hkey key key' hk hkeys]
  · exact .none

/-- The entries of a table are found again under the same keys. -/
theorem rel_entries? (hR : Node.Transparent R) (h : R n m)
    (hkeys : n.kind = .array ∨ n.kind = .object →
      ∀ member ∈ n.properChildren, KeepsKey R src src' member) :
    Option.Rel (List.Forall₂ (Alike R)) (entries? src n) (entries? src' m) := by
  unfold entries? objectEntries?
  rw [hR.kind h]
  split
  · exact .some (forall₂_arrayEntries (hR.children h) (fun _ _ => hR.kind) 0)
  · split
    · rename_i hkind
      have hobject : n.kind = .object := by simpa using hkind
      have hpairs := rel_mapM (hR.properChildren h) fun member hmember member' hc =>
        rel_pair? hR hc (hkeys (Or.inr hobject) member hmember)
      exact rel_bind hpairs fun _ _ hall => .some (forall₂_foldl_put hall .nil)
    · exact .none

theorem rel_unit? {S : Piece → Piece → Prop} {e e' : String × Node} (hR : Node.Transparent R)
    (h : Alike R e e')
    (hS : ∀ factory factory', IsFactory e.2 factory → R factory factory' →
      S ⟨e.1, path e.1, factoryBody src factory⟩ ⟨e.1, path e.1, factoryBody src' factory'⟩) :
    Option.Rel S (unit? src e) (unit? src' e') := by
  unfold unit?
  rw [h.key]
  rcases rel_cases (hR.bare? h.value) with ⟨hb, hb'⟩ | ⟨factory, factory', hb, hb', hfactory⟩
  · rw [hb, hb']
    exact .none
  · rw [hb, hb']
    simp only [Option.bind_eq_bind, Option.bind_some, hR.kind hfactory]
    cases hfn : factory.kind.isFunctionValue with
    | false => exact .none
    | true => exact .some (hS factory factory' ⟨Node.bare?_eq_some_iff.mp hb, hfn⟩ hfactory)

/-- The units of a table are related as those of its entries are. -/
theorem rel_units? {S : Piece → Piece → Prop} (hR : Node.Transparent R) (h : R n m)
    (hkeys : n.kind = .array ∨ n.kind = .object →
      ∀ member ∈ n.properChildren, KeepsKey R src src' member)
    (hS : ∀ entries, Retains src n entries → ∀ e ∈ entries, ∀ factory factory',
      IsFactory e.2 factory → R factory factory' →
      S ⟨e.1, path e.1, factoryBody src factory⟩ ⟨e.1, path e.1, factoryBody src' factory'⟩) :
    Option.Rel (List.Forall₂ S) (units? src n) (units? src' m) := by
  unfold units?
  rcases rel_cases (rel_entries? hR h hkeys) with ⟨he, he'⟩ | ⟨entries, entries', he, he', hall⟩
  · rw [he, he']
    exact .none
  · rw [he, he']
    have hretains := entries?_eq_some_iff.mp he
    have hunits := rel_mapM hall fun e hmem e' halike =>
      rel_unit? hR halike (hS entries hretains e hmem)
    cases hall with
    | nil => exact .none
    | cons _ _ => exact hunits

end

section

variable {Same Open : Node → Node → Prop} {n m : Node}

/-- Whether there is a construct below a node stays the same, unless a node
without one is opened. -/
theorem namedChildren_eq_nil_iff (h : n.Commented Same Open m)
    (hopen : Open n m → n.namedChildren ≠ []) : m.namedChildren = [] ↔ n.namedChildren = [] := by
  have hkinds : ∀ c c' : Node, c'.kind = c.kind → c.isNamed = c'.isNamed := by
    intro c c' hkind
    rw [Node.isNamed, Node.isNamed, hkind]
  have hrow := h.children
  cases h with
  | copied hcopy =>
      have hcopies : Interleaved (Node.Copied Same) (fun _ => False) n.children m.children :=
        .of_forall₂ hcopy.children
      have hnamed := hcopies.filter (fun c c' hc => hkinds c c' hc.kind) fun _ hnone => hnone.elim
      unfold Node.namedChildren
      rw [← List.length_eq_zero_iff, ← List.length_eq_zero_iff, hnamed.length_eq]
  | opened _ _ hnode =>
      have hne := hopen hnode
      obtain ⟨c, hc⟩ := List.exists_mem_of_ne_nil _ hne
      obtain ⟨hchild, hnamed⟩ := List.mem_filter.mp hc
      obtain ⟨c', hchild', hcc'⟩ := hrow.exists_of_mem hchild
      rw [hkinds c c' hcc'.kind] at hnamed
      exact iff_of_false (List.ne_nil_of_mem (List.mem_filter.mpr ⟨hchild', hnamed⟩)) hne

/-- A function takes a parameter as before, if a list that is opened has
something in it already. -/
theorem takesParameter_eq (h : n.Commented Same Open m)
    (hlist : ∀ list list', n.child? .parameters = some list → Open list list' →
      list.namedChildren ≠ []) :
    takesParameter m = takesParameter n := by
  have hR : Node.Transparent (Node.Commented Same Open) := Node.Commented.transparent
  unfold takesParameter
  rw [rel_isSome (hR.child? h .parameter)]
  rcases rel_cases (hR.child? h .parameters) with ⟨hn, hm⟩ | ⟨list, list', hn, hm, hlists⟩
  · rw [hn, hm]
  · have hsame : list'.namedChildren.isEmpty = list.namedChildren.isEmpty := by
      rw [Bool.eq_iff_iff, List.isEmpty_iff, List.isEmpty_iff]
      exact namedChildren_eq_nil_iff hlists (hlist list list' hn)
    rw [hn, hm]
    dsimp only
    rw [hsame]

theorem rel_bootstrapTable? (h : n.Commented Same Open m)
    (hlist : ∀ fn, n.BareChild .function fn → ∀ list list', fn.child? .parameters = some list →
      Open list list' → list.namedChildren ≠ []) :
    Option.Rel (Node.Commented Same Open) (bootstrapTable? n) (bootstrapTable? m) := by
  have hR : Node.Transparent (Node.Commented Same Open) := Node.Commented.transparent
  have hguard : ∀ b : Bool, Option.Rel (fun _ _ => True) (guard b : Option Unit) (guard b) := by
    intro b
    cases b with
    | false => exact .none
    | true => exact .some trivial
  unfold bootstrapTable?
  rcases rel_cases (hR.bareChild h .function) with ⟨hn, hm⟩ | ⟨fn, fn', hn, hm, hfn⟩
  · rw [hn, hm]
    exact .none
  · have htakes := takesParameter_eq hfn (hlist fn (Node.bareChild_iff.mp hn))
    rw [hn, hm]
    simp only [Option.bind_eq_bind, Option.bind_some, hfn.kind, htakes]
    refine rel_bind (hguard _) fun _ _ _ => rel_bind (hR.child? h .arguments) ?_
    intro arguments arguments' harguments
    refine rel_bind (rel_head? (hR.properChildren harguments)) fun value value' hvalue => ?_
    refine rel_bind (hR.bare? hvalue) fun first first' hfirst => ?_
    rw [hfirst.kind]
    exact rel_bind (hguard _) fun _ _ _ => .some hfirst

end

/-- A node is kept as it is written: the key of a member of a table, or the body
of a module, that is of a function that the first good table retains. -/
inductive IsWritten (p : Parsed) (n : Node) : Prop
  | key {site : Site} {table member : Node} (hsite : site ∈ p.root.sites)
      (hbrings : BringsTable p.source site.node table) (hmember : member ∈ table.properChildren)
      (hkey : member.child? .key = some n)
  | body {before : List Site} {site : Site} {table factory : Node}
      {entries : List (String × Node)} {entry : String × Node}
      (hfirst : IsFirst (fun s : Site => ∃ entries, GoodSite p.source s.node entries)
        p.root.sites before site)
      (hbrings : BringsTable p.source site.node table) (hretains : Retains p.source table entries)
      (hentry : entry ∈ entries) (hfactory : IsFactory entry.2 factory)
      (hbody : factory.child? .body = some n)

/-- The list of parameters, without a construct in it, of a function that is
called on the spot. -/
def IsBareList (p : Parsed) (list : Node) : Prop :=
  ∃ site ∈ p.root.sites, ∃ fn, site.node.BareChild .function fn ∧
    fn.child? .parameters = some list ∧ list.namedChildren = []

/-- Nodes of two documents with the same text. -/
def SameText (p p' : Parsed) (n m : Node) : Prop := p'.source.text m = p.source.text n

section

variable {p p' : Parsed} {n m : Node}

/-- Comments may be put into this node of a document. -/
def IsFree (p : Parsed) (n _ : Node) : Prop := ¬ IsWritten p n ∧ ¬ IsBareList p n

theorem rel_table? {site : Site} (hsite : site ∈ p.root.sites)
    (hwords : site.node.Everywhere Node.KeepsWordsWhole)
    (h : site.node.Commented (SameText p p') (IsFree p) m) :
    Option.Rel (Node.Commented (SameText p p') (IsFree p)) (table? p.source site.node)
      (table? p'.source m) := by
  have hname : m.declaratorName p'.source = site.node.declaratorName p.source := by
    apply h.declaratorName_eq fun _ _ hsame => hsame
    intro c hc hkind
    exact (hwords.of_mem_children hc).here (by rw [hkind]; rfl)
  unfold table?
  rw [h.kind, hname]
  split
  · apply rel_bootstrapTable? h
    intro fn hfn list list' hlist hfree hnone
    exact hfree.2 ⟨site, hsite, fn, hfn, hlist, hnone⟩
  · split
    · exact Node.Commented.transparent.bareChild h .value
    · exact .none

/-- Nodes that are kept as they are written have the same text. -/
theorem text_eq_of_isWritten (h : n.Commented (SameText p p') (IsFree p) m)
    (hwritten : IsWritten p n) : p'.source.text m = p.source.text n := by
  cases h with
  | copied h => exact h.same
  | opened _ _ hfree => exact absurd hwritten hfree.1

/-- The units of a site are related as those of its entries are. -/
theorem rel_site {S : Piece → Piece → Prop} {site : Site} (hsite : site ∈ p.root.sites)
    (hwords : site.node.Everywhere Node.KeepsWordsWhole)
    (h : site.node.Commented (SameText p p') (IsFree p) m)
    (hS : ∀ table entries, BringsTable p.source site.node table → Retains p.source table entries →
      ∀ e ∈ entries, ∀ factory factory', IsFactory e.2 factory →
      factory.Commented (SameText p p') (IsFree p) factory' →
      S ⟨e.1, path e.1, factoryBody p.source factory⟩
        ⟨e.1, path e.1, factoryBody p'.source factory'⟩) :
    Option.Rel (List.Forall₂ S) ((table? p.source site.node).bind (units? p.source))
      ((table? p'.source m).bind (units? p'.source)) := by
  rcases rel_cases (rel_table? hsite hwords h) with ⟨hn, hm⟩ | ⟨table, table', hn, hm, htables⟩
  · rw [hn, hm]
    exact .none
  · rw [hn, hm]
    apply rel_units? Node.Commented.transparent htables
    · intro hkind member hmember key key' hkey hkeys
      exact text_eq_of_isWritten hkeys
        (.key hsite (bringsTable_of_kind hn hkind) hmember hkey)
    · intro entries hretains
      exact hS table entries (bringsTable_of_table? hn hretains) hretains

theorem factoryBody_eq {factory factory' : Node}
    (h : factory.Commented (SameText p p') (IsFree p) factory')
    (hwritten : ∀ body, factory.child? .body = some body → IsWritten p body) :
    factoryBody p'.source factory' = factoryBody p.source factory := by
  unfold factoryBody
  rcases rel_cases (Node.Commented.transparent.child? h .body) with
    ⟨hn, hm⟩ | ⟨body, body', hn, hm, hbodies⟩
  · rw [hn, hm]
  · rw [hn, hm]
    dsimp only
    rw [hbodies.kind, text_eq_of_isWritten hbodies (hwritten body hn)]

/-- A document with more comments is split as before. -/
theorem ofParsed_eq (hwords : p.root.Everywhere Node.KeepsWordsWhole)
    (h : p.root.Commented (SameText p p') (IsFree p) p'.root) : ofParsed p' = ofParsed p := by
  unfold ofParsed
  rw [Node.walk_eq_sites, Node.walk_eq_sites]
  have hsites : Interleaved (Site.Pairs (Node.Commented (SameText p p') (IsFree p)))
      (fun t => t.node.IsRemark) p.root.sites p'.root.sites :=
    Node.interleaved_preorder (fun _ _ hc => hc.children) h .nil
  apply hsites.findSome?_eq
  · intro t ht
    simp [table?, ht.kind]
  · intro s hs t hst
    have hrel := rel_site (S := fun _ _ => True) hs (hwords.of_mem_preorder hs) hst.node
      (fun _ _ _ _ _ _ _ _ _ _ => trivial)
    rcases rel_cases hrel with ⟨hn, hm⟩ | ⟨_, _, hn, hm, _⟩
    · rw [hn, hm]
      exact .none
    · rw [hn, hm]
      exact .some trivial
  · intro before s hfirst t hst
    simp only [exists_bind_units?_iff] at hfirst
    obtain ⟨behind, horder⟩ := hfirst.order
    have hs : s ∈ p.root.sites := by
      rw [horder]
      simp
    have hrel := rel_site (S := (· = ·)) hs (hwords.of_mem_preorder hs) hst.node ?_
    · rw [List.forall₂_eq_eq_eq] at hrel
      rcases rel_cases hrel with ⟨hn, hm⟩ | ⟨units, units', hn, hm, hsame⟩
      · rw [hn, hm]
      · rw [hn, hm, hsame]
    · intro table entries hbrings hretains e he factory factory' hfactory hfactories
      rw [factoryBody_eq hfactories fun body hbody =>
        .body hfirst hbrings hretains he hfactory hbody]

/-- A comment counts as something that a function takes. -/
theorem takesParameter_of_comment {fn list c : Node} (hlist : fn.child? .parameters = some list)
    (hc : c ∈ list.children) (hkind : c.kind = .comment) : takesParameter fn = true := by
  refine takesParameter_iff.mpr (.list hlist (List.mem_filter.mpr ⟨hc, ?_⟩))
  rw [Node.isNamed, hkind]
  rfl

/-- Keys and bodies play parts of these names. -/
theorem isWritten_field (h : IsWritten p n) : n.field = some .key ∨ n.field = some .body := by
  cases h with
  | key _ _ _ hkey => exact Or.inl (by simpa using List.find?_some hkey)
  | body _ _ _ _ _ hbody => exact Or.inr (by simpa using List.find?_some hbody)

theorem isBareList_field (h : IsBareList p n) :
    n.field = some .parameters ∧ n.namedChildren = [] := by
  obtain ⟨_, _, fn, _, hlist, hnone⟩ := h
  exact ⟨by simpa using List.find?_some hlist, hnone⟩

end

end Split

/-- Comments do not change how a bundle is split, with one exception. In every
document that can be read, words have nothing below them. If a document has more
comments than another such one, at any places behind a first child, but none in
the keys of its tables and the bodies of its modules, and none in an empty list
of parameters of a function that is called on the spot, both give the same
units or both give none, and so do texts that are read as them. In a list of
parameters a comment counts as a parameter. -/
theorem comments_keep_splitting (p p' : Parsed) :
    (∀ dialect text, parseSource dialect text = .ok p →
      p.root.Everywhere Node.KeepsWordsWhole) ∧
    (p.root.Everywhere Node.KeepsWordsWhole →
      p.root.Commented (Split.SameText p p') (Split.IsFree p) p'.root →
      Split.ofParsed p' = Split.ofParsed p ∧
      ∀ dialect text text', parseSource dialect text = .ok p →
        parseSource dialect text' = .ok p' →
        splitBundle dialect text' = splitBundle dialect text) ∧
    ∀ fn list c, fn.child? .parameters = some list → c ∈ list.children → c.kind = .comment →
      Split.takesParameter fn = true := by
  refine ⟨?_, ?_, fun _ _ _ => Split.takesParameter_of_comment⟩
  · intro dialect text hparse
    exact (parseSource_followsNameForm hparse).imp fun _ hn => hn.words
  · intro hwords h
    have hsame := Split.ofParsed_eq hwords h
    refine ⟨hsame, ?_⟩
    intro dialect text text' hparse hparse'
    unfold splitBundle split
    rw [hparse, hparse']
    dsimp only
    rw [hsame]

/-!
A function that is called on a table of one module, with and without comments.
-/

namespace CommentedCall

open Node

/-- A list of parameters behind the word `function`. -/
def parameters (stop : Nat) (inside : List Node) : Node :=
  inLine (.other "formal_parameters") (some .parameters) 9 stop
    (sign "(" 9 :: inside ++ [sign ")" (stop - 1)])

/-- The arguments `([() => a()])`. -/
def arguments (start : Nat) : Node :=
  inLine (.other "arguments") (some .arguments) start (start + 13)
    [sign "(" start,
      inLine .array none (start + 1) (start + 12)
        [sign "[" (start + 1), SparseModules.factory (start + 2), sign "]" (start + 11)],
      sign ")" (start + 12)]

/-- The arguments `(/**/[/**/() => a()])`. -/
def commentedArguments (start : Nat) : Node :=
  inLine (.other "arguments") (some .arguments) start (start + 21)
    [sign "(" start, emptyComment (start + 1),
      inLine .array none (start + 5) (start + 20)
        [sign "[" (start + 5), emptyComment (start + 6), SparseModules.factory (start + 10),
          sign "]" (start + 19)],
      sign ")" (start + 20)]

/-- A function with a list of parameters and an empty body is called. -/
def call (list arguments : Node) : Node :=
  let behind := list.stop.offset
  inLine .callExpression none 0 arguments.stop.offset
    [inLine .parenthesized (some .function) 0 (behind + 3)
        [sign "(" 0,
          inLine .functionExpression none 1 (behind + 2)
            [inLine (.token "function") none 1 9, list,
              inLine .statementBlock (some .body) behind (behind + 2)
                [sign "\x7b" behind, sign "\x7d" (behind + 1)]],
          sign ")" (behind + 2)],
      arguments]

/-- A text that consists of one call. -/
def document (text : String) (call : Node) : Parsed where
  source := .ofString text
  root := inLine .program none 0 call.stop.offset
    [inLine (.other "expression_statement") none 0 call.stop.offset [call]]

def name : Node := inLine .identifier none 10 11

def plain : Parsed :=
  document "(function(m)\x7b\x7d)([() => a()])" (call (parameters 12 [name]) (arguments 15))

def commented : Parsed :=
  document "(function(m/**/)\x7b\x7d)(/**/[/**/() => a()])"
    (call (parameters 16 [name, emptyComment 11]) (commentedArguments 19))

def plainBare : Parsed :=
  document "(function()\x7b\x7d)([() => a()])" (call (parameters 11 []) (arguments 14))

def commentedBare : Parsed :=
  document "(function(/**/)\x7b\x7d)([() => a()])"
    (call (parameters 15 [emptyComment 10]) (arguments 18))

/-- Nodes that are opened by the comments: no keys, no bodies. -/
def isOutside (n : Node) : Bool := n.field != some .key && n.field != some .body

theorem not_isWritten {p : Parsed} {n : Node} (h : isOutside n = true) :
    ¬ Split.IsWritten p n := by
  simp only [isOutside, Bool.and_eq_true, bne_iff_ne] at h
  intro hwritten
  rcases Split.isWritten_field hwritten with hkey | hbody
  · exact h.1 hkey
  · exact h.2 hbody

theorem plain_commented :
    plain.root.Commented (Split.SameText plain commented) (Split.IsFree plain) commented.root := by
  apply commented_of_isCommented
    (fun n m => commented.source.text m == plain.source.text n)
    (fun n _ => isOutside n && !(n.field == some .parameters && n.namedChildren.isEmpty))
  · intro n m h
    exact eq_of_beq h
  · intro n m h
    rw [Bool.and_eq_true] at h
    refine ⟨not_isWritten h.1, fun hlist => ?_⟩
    obtain ⟨hfield, hnone⟩ := Split.isBareList_field hlist
    simp [hfield, hnone] at h
  · decide +kernel

theorem plain_keepsWordsWhole : plain.root.Everywhere KeepsWordsWhole := by
  have hsites : ∀ s ∈ plain.root.preorder [], s.node.KeepsWordsWhole := by decide +kernel
  exact .of_forall_mem_preorder hsites

end CommentedCall

open CommentedCall in
/-- Comments among parameters, arguments and elements. -/
theorem comments_keep_splitting_call :
    plain.root.Everywhere Node.KeepsWordsWhole ∧
    plain.root.Commented (Split.SameText plain commented) (Split.IsFree plain) commented.root ∧
    Split.ofParsed commented = some [⟨"0", "./0.js", "a()"⟩] := by
  refine ⟨plain_keepsWordsWhole, plain_commented, ?_⟩
  rw [((comments_keep_splitting plain commented).2.1 plain_keepsWordsWhole plain_commented).1]
  unfold Split.ofParsed
  rw [Node.walk_eq_sites]
  decide +kernel

open CommentedCall in
/-- A comment in an empty list of parameters makes a bundle of a document that
is none without it. -/
theorem lone_comment_read_as_parameter :
    plainBare.root.Commented (Split.SameText plainBare commentedBare)
      (fun n _ => ¬ Split.IsWritten plainBare n) commentedBare.root ∧
    Split.ofParsed plainBare = none ∧
    Split.ofParsed commentedBare = some [⟨"0", "./0.js", "a()"⟩] := by
  refine ⟨?_, ?_, ?_⟩
  · apply Node.commented_of_isCommented
      (fun n m => commentedBare.source.text m == plainBare.source.text n)
      (fun n _ => isOutside n)
    · intro n m h
      exact eq_of_beq h
    · intro n m h
      exact not_isWritten h
    · decide +kernel
  · unfold Split.ofParsed
    rw [Node.walk_eq_sites]
    decide +kernel
  · unfold Split.ofParsed
    rw [Node.walk_eq_sites]
    decide +kernel

end BundleAtlas
