import CommitLens.Proofs.Script.Binding

/-!
# Clauses of imports and exports

What stands between the keywords of imports and exports: names, lists of names in braces,
and the end of the statement.  Main statements: the grammar reads an import clause and an
export list where they stand, with the names that they give and take.
-/

namespace CommitLens.Script

open Source Script.Rule

variable {src : Source} {c middle next : Cursor} {text : String}

/-! ## Nodes and leaves -/

namespace Tree

variable {kind : Kind} {part : Role} {start stop : Nat} {children : List Tree} {tree : Tree}

@[simp] theorem kind_node : (node kind part start stop children).kind = kind := rfl

@[simp] theorem role_node : (node kind part start stop children).role = part := rfl

@[simp] theorem children_node : (node kind part start stop children).children = children := rfl

@[simp] theorem kind_leaf : (leaf kind start stop).kind = kind := rfl

@[simp] theorem role_leaf : (leaf kind start stop).role = .plain := rfl

@[simp] theorem text_leaf : src.text (leaf kind start stop) = src.slice start stop := rfl

@[simp] theorem kind_withRole : (tree.withRole part).kind = tree.kind := by
  cases tree
  rfl

end Tree

/-! ## Keywords and marks in trees -/

/-- A keyword or a mark, as it is kept in a tree. -/
structure Tree.Spells (src : Source) (text : String) (tree : Tree) : Prop where
  kind : tree.kind = .mark
  role : tree.role = .plain
  text : src.text tree = text

theorem spells_leaf {i : Nat} (h : src.has i text = true) :
    (Tree.leaf .mark i (i + text.length)).Spells src text :=
  ⟨rfl, rfl, slice_of_has h⟩

theorem NameAt.spells (h : NameAt src text c next) :
    (Tree.leaf .mark c.here (c.here + text.length)).Spells src text :=
  spells_leaf h.has

theorem MarkAt.spells (h : MarkAt src text c next) :
    (Tree.leaf .mark c.here (c.here + text.length)).Spells src text :=
  spells_leaf h.has

theorem has_of_mark {trees : List Tree} (h : mark text src c = some (trees, next)) :
    src.has c.here text = true := by
  obtain ⟨stop, found, -⟩ := exists_of_token h
  by_contra absent
  simp [absent] at found

theorem next?_of_equalsMark {trees : List Tree} (h : equalsMark src c = some (trees, next)) :
    src.next? c.here = some '=' := by
  unfold equalsMark markNot at h
  obtain ⟨stop, found, -⟩ := exists_of_token h
  refine next?_of_has (show "=" ≠ "" by decide) ?_
  by_contra absent
  simp [absent] at found

/-! ## Parts and ends of statements -/

/-- A part of a statement whose inside does not matter stands at a cursor: the grammar reads
it with one of its rules. -/
structure Stands (rule : Rule) (src : Source) (c next : Cursor) : Prop where
  read : ∃ trees, rule src c = some (trees, next)
  onward : Onward c next

theorem stands_iff {rule : Rule} :
    Stands rule src c next ↔ (rule src c).map (·.2) = some next ∧ Onward c next := by
  constructor
  · rintro ⟨⟨trees, read⟩, onward⟩
    exact ⟨by rw [read]; rfl, onward⟩
  · rintro ⟨found, onward⟩
    obtain ⟨⟨trees, stop⟩, read, rfl⟩ := Option.map_eq_some_iff.mp found
    exact ⟨⟨trees, read⟩, onward⟩

instance (rule : Rule) : Decidable (Stands rule src c next) :=
  decidable_of_iff _ stands_iff.symm

/-- The words that open the statements of a module. -/
def openingWords : List String :=
  ["import", "export", "module", "exports"]

/-- A statement ends with a semicolon, with its line or with the text. -/
inductive EndsAt (src : Source) : Cursor → Cursor → Prop
  | semicolon {c next : Cursor} (mark : MarkAt src ";" c next) : EndsAt src c next
  | line {c after : Cursor} {text : String} (broken : c.breaksLine src = true)
      (opens : text ∈ openingWords) (opening : NameAt src text c after) : EndsAt src c c
  | text {c : Cursor} (stop : src.isEnd c.here = true) : EndsAt src c c

theorem EndsAt.clear (h : EndsAt src c next) {chars : List Char}
    (marks : ∀ ch ∈ chars, isNameMark ch = false ∧ ch ≠ '\\' ∧ ch ≠ ';') :
    Clear chars src c.here := by
  cases h with
  | semicolon mark =>
      exact .of_next (mark.next?_eq (by decide)) fun member => (marks _ member).2.2 rfl
  | line _ _ opening =>
      exact opening.clear fun ch member => ⟨(marks ch member).1, (marks ch member).2.1⟩
  | text stop =>
      intro ch _ found
      rw [next?_eq_none.mpr stop] at found
      contradiction

/-- No word that goes on with a statement stands at its end. -/
theorem EndsAt.word {word : String} (h : EndsAt src c next) (marks : IsWord word)
    (other : word ∉ openingWords) : Rule.word word src c = none := by
  obtain ⟨some, marks'⟩ := marks
  cases hw : word.toList.head? with
  | none => exact absurd (String.toList_eq_nil_iff.mp (List.head?_eq_none_iff.mp hw)) some
  | some ch =>
      have name : isNameMark ch = true := marks' ch (List.mem_of_head? hw)
      cases h with
      | semicolon mark =>
          refine word_of_next hw ?_
          rw [mark.next?_eq (by decide)]
          rintro ⟨⟩
          contradiction
      | line _ opens opening =>
          refine opening.word_of_ne ⟨some, marks'⟩ fun same => other ?_
          rw [same]
          exact opens
      | text stop =>
          refine word_of_next hw ?_
          rw [next?_eq_none.mpr stop]
          exact fun found => nomatch found

theorem EndsAt.words {texts : List String} (h : EndsAt src c next)
    (marks : ∀ word ∈ texts, IsWord word ∧ word ∉ openingWords) :
    Rule.words texts src c = none := by
  unfold Rule.words
  induction texts with
  | nil => rfl
  | cons word texts ih =>
      rw [List.forall_mem_cons] at marks
      rw [List.map_cons, any_of_none (h.word marks.1.1 marks.1.2), ih marks.2]

theorem continuesLine_of_opens (h : NameAt src text c next) (opens : text ∈ openingWords)
    (afterExpression : Bool) : continuesLine src c.here afterExpression = false := by
  simp only [openingWords, List.mem_cons, List.not_mem_nil, or_false] at opens
  rcases opens with rfl | rfl | rfl | rfl
  · have first : src.char c.here = 'i' := char_of_has h.has (k := 0) (by decide)
    have second : src.char (c.here + 1) = 'm' := char_of_has h.has (k := 1) (by decide)
    simp [continuesLine, first, Source.has, Source.has.go, second]
  · have first : src.char c.here = 'e' := char_of_has h.has (k := 0) (by decide)
    simp [continuesLine, first]
  · have first : src.char c.here = 'm' := char_of_has h.has (k := 0) (by decide)
    simp [continuesLine, first]
  · have first : src.char c.here = 'e' := char_of_has h.has (k := 0) (by decide)
    simp [continuesLine, first]

/-- The end of a statement is read, with a semicolon or with nothing. -/
theorem EndsAt.read (h : EndsAt src c next) (afterExpression : Bool) :
    ∃ trees, Rule.semicolon afterExpression src c = some (trees, next) ∧
      ∀ tree ∈ trees, tree.Spells src ";" := by
  cases h with
  | semicolon mark =>
      refine ⟨_, any_of_read mark.mark, fun tree member => ?_⟩
      obtain rfl := List.mem_singleton.mp member
      exact mark.spells
  | line broken opens opening =>
      have clear : Clear [';'] src c.here := opening.clear (by decide)
      refine ⟨[], (any_of_none (clear.mark rfl (by decide))).trans (any_of_read ?_),
        List.forall_mem_nil _⟩
      refine guard_of_true ?_
      simp [closesStatement, broken, continuesLine_of_opens opening opens]
  | text stop =>
      have clear : Clear [';'] src c.here := by
        intro ch _ found
        rw [next?_eq_none.mpr stop] at found
        contradiction
      refine ⟨[], (any_of_none (clear.mark rfl (by decide))).trans (any_of_read ?_),
        List.forall_mem_nil _⟩
      exact guard_of_true (by simp [closesStatement, stop])

theorem EndsAt.reaches (h : EndsAt src c next) : next = c ∨ Onward c next := by
  cases h with
  | semicolon mark => exact .inr (mark.onward (by decide))
  | line => exact .inl rfl
  | text => exact .inl rfl

/-! ## Lists in braces -/

variable {α : Type} {place : α → Cursor → Cursor → Prop} {items : List α}

/-- Items stand one after another up to the closing brace, with commas between them and
maybe one behind the last. -/
inductive ItemsAt (src : Source) (place : α → Cursor → Cursor → Prop) :
    List α → Cursor → Cursor → Prop
  | none {c next : Cursor} (closing : MarkAt src "\x7d" c next) : ItemsAt src place [] c next
  | last {item : α} {c close next : Cursor} (stands : place item c close)
      (closing : MarkAt src "\x7d" close next) : ItemsAt src place [item] c next
  | more {item : α} {items : List α} {c comma first next : Cursor} (stands : place item c comma)
      (mark : MarkAt src "," comma first) (more : ItemsAt src place items first next) :
      ItemsAt src place (item :: items) c next

/-- A list in braces stands at a cursor. -/
structure BracesAt (src : Source) (place : α → Cursor → Cursor → Prop) (items : List α)
    (c next : Cursor) : Prop where
  stands : ∃ first, MarkAt src "\x7b" c first ∧ ItemsAt src place items first next

/-- A rule reads such items as nodes of a kind, from which they can be told. -/
structure ReadsItems (src : Source) (place : α → Cursor → Cursor → Prop) (rule : Rule)
    (kind : Kind) (told : Tree → α) : Prop where
  named : kind ≠ .mark
  onward : ∀ {item c next}, place item c next → Onward c next
  read : ∀ {item c next after}, place item c next →
    (MarkAt src "," next after ∨ MarkAt src "\x7d" next after) →
    ∃ tree, rule src c = some ([tree], next) ∧ tree.kind = kind ∧ told tree = item
  closed : ∀ {c next}, MarkAt src "\x7d" c next → rule src c = .none

section Items

variable {rule : Rule} {kind : Kind} {told : Tree → α}

/-- The items that are told from the children of a list. -/
def toldItems (kind : Kind) (told : Tree → α) (trees : List Tree) : List α :=
  ((trees.filter Tree.isNamed).filter fun tree => tree.kind == kind).map told

theorem toldItems_append (a b : List Tree) :
    toldItems kind told (a ++ b) = toldItems kind told a ++ toldItems kind told b := by
  simp [toldItems]

theorem toldItems_mark (start stop : Nat) :
    toldItems kind told [.leaf .mark start stop] = [] :=
  rfl

theorem toldItems_one {tree : Tree} (hk : tree.kind = kind) (named : kind ≠ .mark) :
    toldItems kind told [tree] = [told tree] := by
  simp [toldItems, Tree.isNamed, hk, named]

/-- The items behind an opening brace or a comma: there are none, or the first one is read
and the others by a repetition. -/
theorem ItemsAt.reads (h : ItemsAt src place items c next)
    (rules : ReadsItems src place rule kind told) :
    (items = [] ∧ MarkAt src "\x7d" c next) ∨
      ∃ tree middle trees last more, rule src c = some ([tree], middle) ∧
        Repeats (all [comma, rule]) src trees middle last ∧
        all [opt comma, mark "\x7d"] src last = some (more, next) ∧ Onward c middle ∧
        toldItems kind told (tree :: (trees ++ more)) = items := by
  have closing {c next : Cursor} (h : MarkAt src "\x7d" c next) : comma src c = .none :=
    mark_of_next (m := ',') rfl (by rw [h.next?_eq (by decide)]; decide)
  induction h with
  | none close => exact .inl ⟨rfl, close⟩
  | @last item c close next place mark =>
      obtain ⟨tree, read, hk, rfl⟩ := rules.read place (.inr mark)
      have ended : all [opt comma, Rule.mark "\x7d"] src close = some (_, next) :=
        (all_opt_of_none (closing mark)).trans (all_of_read mark.mark all_nil)
      refine .inr ⟨tree, close, [], close, _, read, .stop (all_of_none (closing mark)), ended,
        rules.onward place, ?_⟩
      rw [← List.singleton_append, List.nil_append, toldItems_append,
          toldItems_one hk rules.named]
      rfl
  | @more item items c comma first next place mark _ ih =>
      obtain ⟨tree, read, hk, rfl⟩ := rules.read place (.inl mark)
      have onward := rules.onward place
      have marked : Onward comma first := mark.onward (by decide)
      refine .inr ?_
      rcases ih with ⟨rfl, close⟩ | ⟨second, middle, trees, last, more, hs, later, rest, reach, rfl⟩
      · have ended : all [opt Rule.comma, Rule.mark "\x7d"] src comma = some (_, next) :=
          all_of_read (opt_of_read mark.mark) (all_of_read close.mark all_nil)
        refine ⟨tree, comma, [], comma, _, read,
          .stop (all_of_read_none mark.mark (all_of_none (rules.closed close))), ended, onward, ?_⟩
        rw [← List.singleton_append, List.nil_append, toldItems_append,
          toldItems_one hk rules.named]
        rfl
      · have inside : comma.here < src.chars.size := le_size_of_has (by decide) mark.has
        have further := onward.past_le
        have step := (marked.trans reach).here_lt
        have longer : Repeats (all [Rule.comma, rule]) src _ comma last :=
          .step (all_of_read mark.mark (all_of_read hs all_nil)) (by omega) (by omega) later
        refine ⟨tree, comma, _, last, more, read, longer, rest, onward, ?_⟩
        rw [← List.singleton_append, toldItems_append, toldItems_one hk rules.named]
        rfl

/-- A list in braces is read with all its items in order. -/
theorem BracesAt.reads (h : BracesAt src place items c next)
    (rules : ReadsItems src place rule kind told) :
    ∃ trees, listed "\x7b" rule "\x7d" src c = some (trees, next) ∧
      toldItems kind told trees = items := by
  obtain ⟨first, opening, stands⟩ := h.stands
  rcases stands.reads rules with
    ⟨rfl, close⟩ | ⟨tree, middle, trees, last, more, read, later, rest, -, rfl⟩
  · have comma : comma src first = none :=
      mark_of_next (m := ',') rfl (by rw [close.next?_eq (by decide)]; decide)
    have inner : all [opt (sepBy1 Rule.comma rule), opt Rule.comma, mark "\x7d"] src first =
        some (_, next) :=
      (all_opt_of_none (sepBy1_of_none (rules.closed close))).trans
        ((all_opt_of_none comma).trans (all_of_read close.mark all_nil))
    exact ⟨_, all_of_read opening.mark inner, rfl⟩
  · have list : sepBy1 comma rule src first = some ([tree] ++ (trees ++ []), last) :=
      all_of_read read (all_of_read (many_of_repeats later) all_nil)
    have braces : listed "\x7b" rule "\x7d" src c = some (_, next) :=
      all_of_read opening.mark (all_of_read (opt_of_read list) rest)
    refine ⟨_, braces, ?_⟩
    rw [toldItems_append, toldItems_mark]
    simp

end Items

/-! ## Names in lists -/

/-- A name that a list may hold: a variable, or the word `default`. -/
structure EntryAt (src : Source) (text : String) (c next : Cursor) : Prop
    extends NameAt src text c next where
  plain : text = "default" ∨ text ∉ reservedWords ∧ text ∉ contextualWords

instance : Decidable (EntryAt src text c next) :=
  decidable_of_iff (_ ∧ _) ⟨fun ⟨name, plain⟩ => ⟨name, plain⟩, fun h => ⟨h.toNameAt, h.plain⟩⟩

theorem VariableAt.entry (h : VariableAt src text c next) : EntryAt src text c next :=
  ⟨h.toNameAt, .inr ⟨h.free, h.plain⟩⟩

theorem NameAt.string (h : NameAt src text c next) : Rule.string src c = none := by
  have clear : Clear ['\x22', '\x27'] src c.here := h.clear (by decide)
  have double := clear.char (m := '\x22') (by decide) (by decide)
  have single := clear.char (m := '\x27') (by decide) (by decide)
  exact token_of_none (by simp [string?, double, single])

theorem EntryAt.exportedName (h : EntryAt src text c next) :
    ∃ kind, kind ≠ .mark ∧
      Script.exportedName src c = some ([.leaf kind c.here (c.here + text.length)], next) := by
  rcases h.plain with rfl | ⟨free, plain⟩
  · refine ⟨.word, by decide, ?_⟩
    rw [Script.exportedName, any_of_none (h.identifier_of_reserved (by decide)),
      any_of_none h.string]
    exact any_of_read h.anyName
  · exact ⟨.identifier, by decide, any_of_read (VariableAt.mk h.toNameAt free plain).identifier⟩

/-- A name that does not mark an item as one of types only. -/
theorem typeOnly_of_name (h : NameAt src text c next) (plain : text ∉ ["type", "typeof"])
    (rule : Rule) : typeOnly rule src c = rule src c := by
  rw [typeOnly, any_of_none, any_one]
  exact typed_of_none (all_of_none (words_of_notMem h (by decide) plain))

theorem typeOnly_of_clear (h : Clear ['t'] src c.here) (rule : Rule) :
    typeOnly rule src c = rule src c := by
  have type : word "type" src c = none := word_of_next rfl (h 't' (by decide))
  have typeof : word "typeof" src c = none := word_of_next rfl (h 't' (by decide))
  have words : words ["type", "typeof"] src c = none :=
    (any_of_none type).trans ((any_of_none typeof).trans any_nil)
  rw [typeOnly, any_of_none (typed_of_none (all_of_none words)), any_one]

theorem EntryAt.notMem_typeOnly (h : EntryAt src text c next) : text ∉ ["type", "typeof"] := by
  rcases h.plain with rfl | ⟨free, plain⟩
  · decide
  · intro member
    rcases List.mem_pair.mp member with rfl | rfl
    · exact plain (by decide)
    · exact free (by decide)

/-! ## Items -/

/-- An item of an import, with the name that it takes. -/
inductive ImportItemAt (src : Source) : String → Cursor → Cursor → Prop
  | plain {name : String} {c next : Cursor} (stands : VariableAt src name c next) :
      ImportItemAt src name c next
  | renamed {name newName : String} {c as newPlace next : Cursor} (stands : EntryAt src name c as)
      (keyword : NameAt src "as" as newPlace) (renamed : VariableAt src newName newPlace next) :
      ImportItemAt src name c next

/-- An item of an export list, with the name that it gives and the one that it takes. -/
inductive ExportItemAt (src : Source) : String × String → Cursor → Cursor → Prop
  | plain {name : String} {c next : Cursor} (stands : EntryAt src name c next) :
      ExportItemAt src (name, name) c next
  | renamed {name newName : String} {c as newPlace next : Cursor} (stands : EntryAt src name c as)
      (keyword : NameAt src "as" as newPlace) (renamed : EntryAt src newName newPlace next) :
      ExportItemAt src (newName, name) c next

/-- An item of a list ends with a comma or with the list. -/
theorem itemEnd_of_mark {after : Cursor}
    (h : MarkAt src "," c after ∨ MarkAt src "\x7d" c after) :
    itemEnd src c = some ([], c) ∧ word "as" src c = none := by
  rcases h with comma | closing
  · refine ⟨ahead_of_read (any_of_read comma.mark), word_of_next (m := 'a') rfl ?_⟩
    rw [comma.next?_eq (by decide)]
    decide
  · have clear : Clear [',', 'a'] src c.here := .of_next (closing.next?_eq (by decide)) (by decide)
    have brace : any [mark ",", mark "\x7d"] src c = any [mark "\x7d"] src c :=
      any_of_none (clear.mark (m := ',') rfl (by decide))
    exact ⟨ahead_of_read (brace.trans (any_of_read closing.mark)),
      word_of_next (m := 'a') rfl (clear 'a' (by decide))⟩

theorem onward_importItemAt (h : ImportItemAt src text c next) : Onward c next := by
  cases h with
  | plain stands => exact stands.onward
  | renamed stands keyword renamed =>
      exact (stands.onward.trans keyword.onward).trans renamed.onward

theorem onward_exportItemAt {names : String × String} (h : ExportItemAt src names c next) :
    Onward c next := by
  cases h with
  | plain stands => exact stands.onward
  | renamed stands keyword renamed =>
      exact (stands.onward.trans keyword.onward).trans renamed.onward

/-- Where a list is closed, there is no item. -/
theorem closed_of_mark (h : MarkAt src "\x7d" c next) :
    importSpecifier src c = none ∧ exportSpecifier src c = none := by
  have hn : src.next? c.here = some '}' := h.next?_eq (by decide)
  have identifier : identifier src c = none := by
    simp [identifier, variableName?_of_separator hn (by decide)]
  have string : Rule.string src c = none :=
    token_of_none (by simp [string?, (next?_eq_some.mp hn).2])
  have any : anyName src c = none := token_of_none (name?_of_separator hn (by decide))
  have name : exportedName src c = none := by
    rw [exportedName, any_of_none identifier, any_of_none string, any_of_none any, any_nil]
  have clear : Clear ['t'] src c.here := .of_next hn (by decide)
  constructor
  · refine node_of_none ((typeOnly_of_clear clear _).trans ?_)
    rw [any_of_none (all_of_none (role_of_none name)),
      any_of_none (all_of_none (role_of_none identifier)), any_nil]
  · refine node_of_none ((typeOnly_of_clear clear _).trans ?_)
    rw [any_of_none (all_of_none (role_of_none name)),
      any_of_none (all_of_none (role_of_none name)), any_nil]

/-- The name that is told from an item of an import. -/
def takenName (src : Source) (item : Tree) : String :=
  textOf src (item.child? .name)

/-- The names that are told from an item of an export list. -/
def givenNames (src : Source) (item : Tree) : String × String :=
  let name := textOf src (item.child? .name)
  let newName := textOf src (item.child? .newName)
  (if newName.isEmpty then name else newName, name)

theorem readsItems_import :
    ReadsItems src (ImportItemAt src) importSpecifier .importSpecifier (takenName src) where
  named := by decide
  onward := onward_importItemAt
  closed h := (closed_of_mark h).1
  read {text c next after} h marked := by
    obtain ⟨ended, noAs⟩ := itemEnd_of_mark marked
    cases h with
    | plain stands =>
        obtain ⟨kind, -, name⟩ := stands.entry.exportedName
        have renamed : all [role .name exportedName, word "as", role .newName identifier, itemEnd]
            src c = none :=
          all_of_read_none (role_of_read name) (all_of_none noAs)
        have plain : all [role .name identifier, itemEnd] src c = some (_, next) :=
          all_of_read (role_of_read stands.identifier) (all_of_read ended all_nil)
        have item : importSpecifier src c = some (_, next) :=
          node_of_read ((typeOnly_of_name stands.toNameAt stands.entry.notMem_typeOnly _).trans
            ((any_of_none renamed).trans (any_of_read plain)))
        refine ⟨_, item, rfl, ?_⟩
        exact slice_of_has stands.has
    | renamed stands keyword renamed =>
        obtain ⟨kind, -, name⟩ := stands.exportedName
        have both : all [role .name exportedName, word "as", role .newName identifier, itemEnd]
            src c = some (_, next) :=
          all_of_read (role_of_read name) (all_of_read (keyword.word_self (by decide))
            (all_of_read (role_of_read renamed.identifier) (all_of_read ended all_nil)))
        have item : importSpecifier src c = some (_, next) :=
          node_of_read ((typeOnly_of_name stands.toNameAt stands.notMem_typeOnly _).trans
            (any_of_read both))
        refine ⟨_, item, rfl, ?_⟩
        exact slice_of_has stands.has

theorem readsItems_export :
    ReadsItems src (ExportItemAt src) exportSpecifier .exportSpecifier (givenNames src) where
  named := by decide
  onward := onward_exportItemAt
  closed h := (closed_of_mark h).2
  read {names c next after} h marked := by
    obtain ⟨ended, noAs⟩ := itemEnd_of_mark marked
    cases h with
    | plain stands =>
        obtain ⟨kind, -, name⟩ := stands.exportedName
        have renamed : all [role .name exportedName, word "as", role .newName exportedName, itemEnd]
            src c = none :=
          all_of_read_none (role_of_read name) (all_of_none noAs)
        have plain : all [role .name exportedName, itemEnd] src c = some (_, next) :=
          all_of_read (role_of_read name) (all_of_read ended all_nil)
        have item : exportSpecifier src c = some (_, next) :=
          node_of_read ((typeOnly_of_name stands.toNameAt stands.notMem_typeOnly _).trans
            ((any_of_none renamed).trans (any_of_read plain)))
        refine ⟨_, item, rfl, ?_⟩
        simp [givenNames, Tree.child?, textOf, slice_of_has stands.has]
    | renamed stands keyword renamed =>
        obtain ⟨kind, -, name⟩ := stands.exportedName
        obtain ⟨newKind, -, newName⟩ := renamed.exportedName
        have both : all [role .name exportedName, word "as", role .newName exportedName, itemEnd]
            src c = some (_, next) :=
          all_of_read (role_of_read name) (all_of_read (keyword.word_self (by decide))
            (all_of_read (role_of_read newName) (all_of_read ended all_nil)))
        have item : exportSpecifier src c = some (_, next) :=
          node_of_read ((typeOnly_of_name stands.toNameAt stands.notMem_typeOnly _).trans
            (any_of_read both))
        refine ⟨_, item, rfl, ?_⟩
        simp [givenNames, Tree.child?, textOf, slice_of_has stands.has, slice_of_has renamed.has,
          renamed.ne_empty]

end CommitLens.Script
