import CommitLens.Proofs.Script.Comments
import CommitLens.Proofs.Script.Reading

/-!
# What binds names

A variable, or a pattern of variables in braces and square brackets, stands at a place.  Main
statement: the grammar reads it there, if it may nest as deep as the pattern is long, and the
names of what it reads are the variables of the pattern in source order.
-/

namespace CommitLens.Script

open Source Script.Rule

variable {src : Source} {c middle next : Cursor} {text : String} {i : Nat}

/-! ## Values that end -/

/-- The marks that read on behind a value. -/
def tailMarks : List Char :=
  ['.', '[', '\x60', '!', '?', '(', '<']

/-- Behind such a value stands no access and no call. -/
theorem extendUpTo_of_clear (g : Grammar) (start fuel : Nat) (trees : List Tree)
    (h : Clear tailMarks src c.here) :
    extendUpTo (accessTails g ++ callTails g) start fuel trees src c = some (trees, c) := by
  have mark {text : String} {ch : Char} (ht : text.toList.head? = some ch)
      (member : ch ∈ tailMarks) : Rule.mark text src c = none := h.mark ht member
  have optional : optionalMark src c = none := by
    simp [optionalMark, token, h.has (show "?.".toList.head? = some '?' from rfl) (by decide)]
  have notNull : all [onSameLine, markNot "!" "="] src c = none :=
    all_guard_of_none (all_of_none (markNot_of_next rfl (h '!' (by decide))))
  have fails : ∀ entry ∈ accessTails g ++ callTails g, entry.2 src c = none := by
    simp only [accessTails, callTails, List.cons_append, List.nil_append, List.forall_mem_cons,
      List.not_mem_nil, false_implies, implies_true, and_true]
    refine ⟨all_of_none (mark rfl (by decide)), all_of_none (mark rfl (by decide)),
      node_of_none (all_of_none (mark rfl (by decide))), typed_of_none notNull,
      all_of_none optional, all_of_none optional,
      node_of_none (all_of_none (mark rfl (by decide))),
      typed_of_none (all_of_none (node_of_none (all_of_none (mark rfl (by decide)))))⟩
  cases fuel with
  | zero => rfl
  | succ fuel =>
      rw [extendUpTo]
      dsimp only
      rw [List.findSome?_eq_none_iff.mpr fun entry member => ?_]
      simp [fails entry member]

/-- The marks that read on behind a name at the head of a value. -/
def headMarks : List Char :=
  '=' :: tailMarks

/-- A name that opens no other value is read as a variable. -/
theorem primaryRule_of_name (g : Grammar) (inChoice : Bool) (h : NameAt src text c next)
    (free : text ∉ reservedWords) (defined : text ≠ "undefined") (sync : text ≠ "async")
    (arrow : src.has next.here "=>" = false) (space : namespaceBlock g src c = none) :
    primaryRule g inChoice src c =
      some ([.leaf .identifier c.here (c.here + text.length)], next) := by
  have read := h.identifier free defined
  have noArrow : all [mark "=>", arrowBody g] src next = none :=
    all_of_none (by simp [mark, token, arrow])
  have nameFunction : nameFunction g src c = none :=
    node_of_none (all_of_read_none read noArrow)
  have async : word "async" src c = none := h.word_of_ne (by decide) sync.symm
  have function : word "function" src c = none := by
    refine h.word_of_ne (by decide) fun same => free ?_
    rw [← same]
    decide
  have asyncFunction : asyncFunction g src c = none := node_of_none (all_of_none async)
  have functionExpression : functionExpression g src c = none :=
    node_of_none (all_of_none ((optionally_of_none async).trans function))
  rw [primaryRule, any_of_none nameFunction, any_of_none asyncFunction,
    any_of_none functionExpression, any_of_none space, any_of_read read]

theorem namespaceBlock_of_ne (g : Grammar) (h : NameAt src text c next)
    (other : text ∉ ["namespace", "module"]) : namespaceBlock g src c = none := by
  exact typed_of_none (node_of_none (all_of_none (words_of_notMem h (by decide) other)))

/-! ## Variables -/

/-- Words that are names in some places and open something else in others. -/
def contextualWords : List String :=
  ["async", "module", "namespace", "type", "undefined"]

/-- A variable stands at a cursor. -/
structure VariableAt (src : Source) (text : String) (c next : Cursor) : Prop
    extends NameAt src text c next where
  free : text ∉ reservedWords
  plain : text ∉ contextualWords

instance : Decidable (VariableAt src text c next) :=
  decidable_of_iff (_ ∧ _ ∧ _) ⟨fun ⟨name, free, plain⟩ => ⟨name, free, plain⟩,
    fun h => ⟨h.toNameAt, h.free, h.plain⟩⟩

namespace VariableAt

theorem ne (h : VariableAt src text c next) {word : String} (member : word ∈ contextualWords) :
    text ≠ word :=
  fun same => h.plain (same ▸ member)

theorem identifier (h : VariableAt src text c next) :
    Rule.identifier src c = some ([.leaf .identifier c.here (c.here + text.length)], next) :=
  h.toNameAt.identifier h.free (h.ne (by decide))

theorem chain (g : Grammar) (inChoice : Bool) (h : VariableAt src text c next)
    (ends : Clear headMarks src next.here) :
    chainRule g inChoice src c =
      some ([.leaf .identifier c.here (c.here + text.length)], next) := by
  have other : text ∉ ["namespace", "module"] := by
    intro member
    rcases List.mem_pair.mp member with same | same
    · exact h.ne (by decide) same
    · exact h.ne (by decide) same
  have first := primaryRule_of_name g inChoice h.toNameAt h.free (h.ne (by decide))
    (h.ne (by decide)) (ends.has (m := '=') rfl (by decide))
    (namespaceBlock_of_ne g h.toNameAt other)
  have last := extendUpTo_of_clear g c.here (src.left next.past)
    [.leaf .identifier c.here (c.here + text.length)] (ends.mono (List.subset_cons_self _ _))
  simp [chainRule, extend, first, last]

/-- A variable is a place of its own. -/
theorem place (g : Grammar) (h : VariableAt src text c next)
    (ends : Clear headMarks src next.here) :
    Script.place g.next src c =
      some ([.leaf .identifier c.here (c.here + text.length)], next) := by
  have value : ofKind [.identifier, .member] g.next.chain src c =
      some ([.leaf .identifier c.here (c.here + text.length)], next) :=
    ofKind_of_read (h.chain g false ends) (by simp [Tree.leaf, Tree.kind])
  exact all_of_read (ahead_of_read (any_of_read h.identifier)) (all_of_read value all_nil)

end VariableAt

/-! ## Patterns -/

/-- The key of a part of a pattern in braces; none is computed. -/
inductive KeyAt (src : Source) : Cursor → Cursor → Prop
  | name {text : String} {c next : Cursor} (key : NameAt src text c next) : KeyAt src c next
  | string {text : String} {c next : Cursor} (key : StringAt src text c next) : KeyAt src c next
  | number {c : Cursor} {stop : Nat} (key : number? src c.here = some stop) :
      KeyAt src c (.afterToken src stop)

inductive Bracket where
  | braces
  | squares

def Bracket.opening : Bracket → String
  | braces => "\x7b"
  | squares => "["

def Bracket.closing : Bracket → String
  | braces => "\x7d"
  | squares => "]"

inductive BindingPart where
  /-- A list in brackets. -/
  | pattern
  /-- A variable or a pattern. -/
  | target
  | item (bracket : Bracket)
  /-- What stands between the brackets; items may be left out. -/
  | items (bracket : Bracket)
  /-- What follows an item. -/
  | more (bracket : Bracket)

/-- A part of a pattern stands at a cursor and binds variables.  No variable has a default
value. -/
inductive BindsAt (src : Source) : BindingPart → List String → Cursor → Cursor → Prop
  | pattern {bracket : Bracket} {names : List String} {c first last next : Cursor}
      (opening : MarkAt src bracket.opening c first)
      (items : BindsAt src (.items bracket) names first last)
      (closing : MarkAt src bracket.closing last next) : BindsAt src .pattern names c next
  | single {text : String} {c next : Cursor} (name : VariableAt src text c next) :
      BindsAt src .target [text] c next
  | nested {names : List String} {c next : Cursor} (pattern : BindsAt src .pattern names c next) :
      BindsAt src .target names c next
  | shorthand {text : String} {c next : Cursor} (name : VariableAt src text c next) :
      BindsAt src (.item .braces) [text] c next
  | pair {names : List String} {c colon value next : Cursor} (key : KeyAt src c colon)
      (mark : MarkAt src ":" colon value) (target : BindsAt src .target names value next) :
      BindsAt src (.item .braces) names c next
  | element {names : List String} {c next : Cursor} (target : BindsAt src .target names c next) :
      BindsAt src (.item .squares) names c next
  | rest {bracket : Bracket} {names : List String} {c value next : Cursor}
      (mark : MarkAt src "..." c value) (target : BindsAt src .target names value next) :
      BindsAt src (.item bracket) names c next
  | skip {bracket : Bracket} {names : List String} {c next : Cursor}
      (more : BindsAt src (.more bracket) names c next) : BindsAt src (.items bracket) names c next
  | item {bracket : Bracket} {names others : List String} {c middle next : Cursor}
      (item : BindsAt src (.item bracket) names c middle)
      (more : BindsAt src (.more bracket) others middle next) :
      BindsAt src (.items bracket) (names ++ others) c next
  | stop {bracket : Bracket} {c : Cursor} : BindsAt src (.more bracket) [] c c
  | comma {bracket : Bracket} {names : List String} {c middle next : Cursor}
      (mark : MarkAt src "," c middle) (items : BindsAt src (.items bracket) names middle next) :
      BindsAt src (.more bracket) names c next

/-! ## Extents -/

theorem KeyAt.onward (h : KeyAt src c next) : Onward c next := by
  cases h with
  | name key => exact key.onward
  | string key => exact key.onward
  | number key => exact .afterToken src (lt_number? key)

theorem Bracket.opening_ne (bracket : Bracket) : bracket.opening ≠ "" := by
  cases bracket <;> decide

theorem Bracket.closing_ne (bracket : Bracket) : bracket.closing ≠ "" := by
  cases bracket <;> decide

/-- How far a part reaches: between brackets there may be nothing. -/
def BindingPart.Reaches (c next : Cursor) : BindingPart → Prop
  | items _ | more _ => next = c ∨ Onward c next
  | pattern | target | item _ => Onward c next

variable {part : BindingPart} {names : List String} {bracket : Bracket}

theorem BindsAt.reaches (h : BindsAt src part names c next) : part.Reaches c next := by
  induction h with
  | @pattern bracket names c first last next opening items closing ih =>
      have opened := opening.onward bracket.opening_ne
      have closed := closing.onward bracket.closing_ne
      rcases ih with rfl | inside
      · exact opened.trans closed
      · exact (opened.trans inside).trans closed
  | single name => exact name.onward
  | nested _ ih => exact ih
  | shorthand name => exact name.onward
  | pair key mark _ ih => exact (key.onward.trans (mark.onward (by decide))).trans ih
  | element _ ih => exact ih
  | rest mark _ ih => exact (mark.onward (by decide)).trans ih
  | skip _ ih => exact ih
  | item _ _ first later =>
      rcases later with rfl | later
      · exact .inr first
      · exact .inr (first.trans later)
  | stop => exact .inl rfl
  | comma mark _ ih =>
      have marked := mark.onward (by decide)
      rcases ih with rfl | inside
      · exact .inr marked
      · exact .inr (marked.trans inside)

/-! ## What follows a part -/

/-- The marks that read on behind a part of a pattern. -/
def bindingMarks : List Char :=
  ':' :: headMarks

/-- Behind what stands between brackets, the closing one stands. -/
def BindingPart.Ends (src : Source) (next : Cursor) : BindingPart → Prop
  | pattern => True
  | target | item _ => Clear bindingMarks src next.here
  | items bracket | more bracket => src.next? next.here = bracket.closing.toList.head?

theorem clear_of_closing (h : src.next? i = bracket.closing.toList.head?) :
    Clear bindingMarks src i := by
  cases bracket with
  | braces => exact .of_next (m := '}') h (by decide)
  | squares => exact .of_next (m := ']') h (by decide)

/-- At the end of an item there is a comma or the closing bracket. -/
theorem BindsAt.next?_of_more (h : BindsAt src (.more bracket) names c next)
    (ends : src.next? next.here = bracket.closing.toList.head?) :
    src.next? c.here = some ',' ∨ src.next? c.here = bracket.closing.toList.head? := by
  cases h with
  | stop => exact .inr ends
  | comma mark items => exact .inl (mark.next?_eq (by decide))

/-! ## Places without an item -/

/-- Between items and behind the last one, no item is read. -/
def separators : List Char :=
  [',', '}', ']']

section Separators

variable {ch : Char} (hn : src.next? c.here = some ch) (hs : ch ∈ separators)

include hn hs

theorem clear_of_separator {chars : List Char} (other : ∀ ch ∈ separators, ch ∉ chars) :
    Clear chars src c.here :=
  .of_next hn (other ch hs)

theorem name?_of_separator : name? src c.here = none :=
  name?_eq_none hn (.inr ((by decide : ∀ ch ∈ separators, isNameMark ch = false ∧ ch ≠ '\\') ch hs))

theorem variableName?_of_separator : variableName? src c.here = none := by
  simp [variableName?, name?_of_separator hn hs]

theorem restPattern_of_separator (g : Grammar) : restPattern g src c = none := by
  have clear : Clear ['.'] src c.here := clear_of_separator hn hs (by decide)
  exact node_of_none (all_of_none (clear.mark rfl (by decide)))

theorem propertyName_of_separator (g : Grammar) : propertyName g src c = none := by
  obtain ⟨-, same⟩ := next?_eq_some.mp hn
  have private_ : privateName src c = none := by
    have other : ch ≠ '#' := (by decide : ∀ ch ∈ separators, ch ≠ '#') ch hs
    exact token_of_none (by simp [same, other])
  have string : Rule.string src c = none := by
    have other := (by decide : ∀ ch ∈ separators, ch ≠ '\x22' ∧ ch ≠ '\x27') ch hs
    exact token_of_none (by simp [string?, same, other.1, other.2])
  have number : Rule.number src c = none := by
    have other := (by decide : ∀ ch ∈ separators, ch.isDigit = false ∧ ch ≠ '.') ch hs
    refine token_of_none (Option.eq_none_iff_forall_ne_some.mpr fun stop found => ?_)
    rcases opens_number? found with digit | point
    · rw [same, other.1] at digit
      contradiction
    · exact other.2 (same.symm.trans point)
  have name : anyName src c = none := token_of_none (name?_of_separator hn hs)
  have computed : computedName g src c = none := by
    have clear : Clear ['['] src c.here := clear_of_separator hn hs (by decide)
    exact node_of_none (all_of_none (clear.mark rfl (by decide)))
  rw [propertyName, any_of_none name, any_of_none private_, any_of_none string,
    any_of_none number, any_one, computed]

theorem pattern_of_separator (depth : Nat) : (Grammar.ofDepth depth).pattern src c = none := by
  cases depth with
  | zero => rfl
  | succ depth =>
      have clear : Clear ['\x7b', '[', 't', 's'] src c.here :=
        clear_of_separator hn hs (by decide)
      have opening {text : String} {rules : List Rule} (ht : text = "\x7b" ∨ text = "[") :
          node .pattern (all (mark text :: rules)) src c = none := by
        refine node_of_none (all_of_none ?_)
        rcases ht with rfl | rfl
        · exact clear.mark (m := '\x7b') rfl (by decide)
        · exact clear.mark (m := '[') rfl (by decide)
      have brackets : destructuring (Grammar.ofDepth depth) src c = none := by
        rw [destructuring, listedWithHoles, listedWithHoles, any_of_none (opening (.inl rfl)),
          any_of_none (opening (.inr rfl)), any_nil]
      have identifier : identifier src c = none := by
        simp [identifier, variableName?_of_separator hn hs]
      have place : place (Grammar.ofDepth depth) src c = none := by
        refine all_of_none (ahead_of_none ?_)
        rw [any_of_none identifier, any_of_none (word_of_next rfl (clear 't' (by decide))),
          any_of_none (word_of_next rfl (clear 's' (by decide))), any_nil]
      have rest := restPattern_of_separator hn hs (Grammar.ofDepth depth)
      change patternRule (Grammar.ofDepth depth) src c = none
      rw [patternRule, any_of_none brackets, any_of_none rest, any_of_none place, any_nil]

end Separators

/-- What is read as an item of a pattern. -/
def Bracket.item (g : Grammar) : Bracket → Rule
  | braces => any [restPattern g, pairPattern g, shorthandBinding g]
  | squares => boundPattern g

theorem item_of_separator {ch : Char} (hn : src.next? c.here = some ch) (hs : ch ∈ separators)
    (bracket : Bracket) (depth : Nat) : bracket.item (.ofDepth depth) src c = none := by
  cases bracket with
  | squares => exact group_of_none (all_of_none (pattern_of_separator hn hs depth))
  | braces =>
      have rest := restPattern_of_separator hn hs (.ofDepth depth)
      have pair : pairPattern (.ofDepth depth) src c = none :=
        node_of_none (all_of_none (propertyName_of_separator hn hs _))
      have shorthand : shorthandBinding (.ofDepth depth) src c = none :=
        group_of_none (all_of_none (token_of_none (variableName?_of_separator hn hs)))
      rw [Bracket.item, any_of_none rest, any_of_none pair, any_of_none shorthand, any_nil]

/-! ## Reading -/

/-- A comma and the next item, if there is one. -/
def Bracket.following (g : Grammar) (bracket : Bracket) : Rule :=
  all [comma, opt (bracket.item g)]

/-- A part is read with the names that it binds. -/
def BindingPart.Reads (g : Grammar) (src : Source) (names : List String) (c next : Cursor) :
    BindingPart → Prop
  | pattern => ∃ tree, destructuring g src c = some ([tree], next) ∧ boundNames src tree = names
  | target => ∃ tree, g.pattern src c = some ([tree], next) ∧ boundNames src tree = names
  | item bracket =>
      ∃ tree, bracket.item g src c = some ([tree], next) ∧ boundNames src tree = names
  | items bracket => ∃ front middle back, opt (bracket.item g) src c = some (front, middle) ∧
      Repeats (bracket.following g) src back middle next ∧ c.past ≤ middle.past ∧
      (front ++ back).flatMap (boundNames src) = names
  | more bracket => ∃ trees, Repeats (bracket.following g) src trees c next ∧
      trees.flatMap (boundNames src) = names

/-- A depth of nesting that is enough for a part. -/
def BindingPart.Fits (depth : Nat) (c next : Cursor) : BindingPart → Prop
  | pattern => next.past ≤ c.here + depth
  | target | item _ | items _ | more _ => next.past < c.here + depth

theorem boundNames_of_inner {kind : Kind} {role : Role} {start stop : Nat} {trees : List Tree}
    (hi : kind ≠ .identifier) (hs : kind ≠ .shorthandBinding) :
    boundNames src (.node kind role start stop trees) = trees.flatMap (boundNames src) := by
  rw [boundNames_eq, ownName, if_neg]
  · rfl
  · simpa [Tree.kind] using ⟨hi, hs⟩

theorem boundNames_leaf (hi : kind ≠ .identifier) (hs : kind ≠ .shorthandBinding)
    (start stop : Nat) : boundNames src (.leaf kind start stop) = [] :=
  boundNames_of_inner hi hs

theorem boundNames_variable (h : VariableAt src text c next) :
    boundNames src (.leaf .identifier c.here (c.here + text.length)) = [text] := by
  rw [boundNames_eq]
  simp [ownName, Tree.leaf, Tree.kind, Tree.children, Source.text, Tree.start, Tree.stop,
    slice_of_has h.has]

theorem boundNames_shorthand (h : VariableAt src text c next) :
    boundNames src (.leaf .shorthandBinding c.here (c.here + text.length)) = [text] := by
  rw [boundNames_eq]
  simp [ownName, Tree.leaf, Tree.kind, Tree.children, Source.text, Tree.start, Tree.stop,
    slice_of_has h.has]

/-- The key of a part is read, and binds nothing. -/
theorem KeyAt.propertyName (g : Grammar) (h : KeyAt src c next) :
    ∃ stop, Script.propertyName g src c = some ([.leaf .word c.here stop], next) := by
  cases h with
  | name key => exact ⟨_, any_of_read key.anyName⟩
  | string key =>
      have name : anyName src c = none := token_of_none key.name?_eq_none
      have clear : Clear ['#'] src c.here := key.clear (by decide)
      have hash : src.char c.here ≠ '#' := clear.char (by decide) (by decide)
      have private_ : privateName src c = none := token_of_none (by simp [hash])
      exact ⟨_, (any_of_none name).trans ((any_of_none private_).trans (any_of_read key.string))⟩
  | @number _ stop key =>
      have first : src.char c.here ≠ '#' ∧ src.char c.here ≠ '\x22' ∧ src.char c.here ≠ '\x27' := by
        rcases opens_number? key with digit | point
        · refine ⟨?_, ?_, ?_⟩
          all_goals
            intro same
            rw [same] at digit
            contradiction
        · rw [point]
          decide
      have name : anyName src c = none := token_of_none (name?_of_number? key)
      have private_ : privateName src c = none := token_of_none (by simp [first.1])
      have string : Rule.string src c = none :=
        token_of_none (by simp [string?, first.2.1, first.2.2])
      have read : Rule.number src c =
          some ([.leaf .word c.here stop], .afterToken src stop) := by
        simp [Rule.number, token, key]
      exact ⟨_, (any_of_none name).trans ((any_of_none private_).trans
        ((any_of_none string).trans (any_of_read read)))⟩

theorem initializer_of_clear (g : Grammar) (ends : Clear bindingMarks src c.here) :
    opt (initializer g) src c = some ([], c) :=
  opt_of_none (all_of_none (ends.equalsMark (by decide)))

theorem boundPattern_of_pattern {g : Grammar} {tree : Tree}
    (h : g.pattern src c = some ([tree], next)) (ends : Clear bindingMarks src next.here) :
    boundPattern g src c = some ([tree], next) :=
  group_of_one (all_of_read h (all_of_read (initializer_of_clear g ends) all_nil))

theorem destructuring_of_clear (g : Grammar) (h : Clear ['\x7b', '['] src c.here) :
    destructuring g src c = none := by
  rw [destructuring, any_of_none, any_of_none, any_nil]
  · exact node_of_none (all_of_none (h.mark (m := '[') rfl (by decide)))
  · exact node_of_none (all_of_none (h.mark (m := '\x7b') rfl (by decide)))

theorem restPattern_of_clear (g : Grammar) (h : Clear ['.'] src c.here) :
    restPattern g src c = none :=
  node_of_none (all_of_none (h.mark rfl (by decide)))

/-- What stands between brackets is read as a pattern. -/
theorem reads_pattern {g : Grammar} {first last : Cursor}
    (opening : MarkAt src bracket.opening c first)
    (items : (BindingPart.items bracket).Reads g src names first last)
    (closing : MarkAt src bracket.closing last next) :
    BindingPart.pattern.Reads g src names c next := by
  obtain ⟨front, middle, back, hf, hb, -, rfl⟩ := items
  have list : listedWithHoles bracket.opening (bracket.item g) bracket.closing src c =
      some (_, next) :=
    all_of_read opening.mark (all_of_read hf (all_of_read (many_of_repeats hb)
      (all_of_read closing.mark all_nil)))
  have choice : destructuring g src c =
      node .pattern (listedWithHoles bracket.opening (bracket.item g) bracket.closing) src c := by
    cases bracket with
    | braces => exact (any_of_read (node_of_read list)).trans (node_of_read list).symm
    | squares =>
        have clear : Clear ['\x7b'] src c.here :=
          .of_next (opening.next?_eq (by decide)) (by decide)
        have braces : mark "\x7b" src c = none := clear.mark rfl (by decide)
        rw [destructuring, any_of_none (node_of_none (listedWithHoles_of_none braces)), any_one]
        rfl
  refine ⟨_, choice.trans (node_of_read list), ?_⟩
  rw [boundNames_of_inner (by decide) (by decide)]
  simp [boundNames_leaf]

theorem reads_single (h : VariableAt src text c next) (ends : Clear bindingMarks src next.here)
    (depth : Nat) : BindingPart.target.Reads (.ofDepth (depth + 2)) src [text] c next := by
  refine ⟨_, ?_, boundNames_variable h⟩
  change patternRule (Grammar.ofDepth depth).next src c = _
  rw [patternRule, any_of_none (destructuring_of_clear _ (h.clear (by decide))),
    any_of_none (restPattern_of_clear _ (h.clear (by decide)))]
  exact any_of_read (h.place _ (ends.mono (List.subset_cons_self _ _)))

theorem reads_shorthand (g : Grammar) (h : VariableAt src text c next)
    (ends : Clear bindingMarks src next.here) :
    (BindingPart.item .braces).Reads g src [text] c next := by
  have pair : pairPattern g src c = none :=
    node_of_none (all_of_read_none (any_of_read h.anyName)
      (all_of_none (ends.mark rfl (by decide))))
  have name : token .shorthandBinding variableName? src c =
      some ([.leaf .shorthandBinding c.here (c.here + text.length)], next) := by
    simp [token, h.variableName? h.free, h.next_eq]
  refine ⟨_, ?_, boundNames_shorthand h⟩
  rw [Bracket.item, any_of_none (restPattern_of_clear g (h.clear (by decide))), any_of_none pair]
  exact any_of_read (group_of_one (all_of_read name
    (all_of_read (initializer_of_clear g ends) all_nil)))

theorem KeyAt.restPattern (g : Grammar) (h : KeyAt src c next) :
    Script.restPattern g src c = none := by
  cases h with
  | name key => exact restPattern_of_clear g (key.clear (by decide))
  | string key => exact restPattern_of_clear g (key.clear (by decide))
  | number key =>
      refine node_of_none (all_of_none (token_of_none (if_neg fun dots => ?_)))
      have first : src.char c.here = '.' := char_of_has dots (k := 0) (by decide)
      have second : src.char (c.here + 1) = '.' := char_of_has dots (k := 1) (by decide)
      simp [number?, radixNumber?, digits?, first, second] at key

theorem reads_pair {g : Grammar} {colon value : Cursor} (key : KeyAt src c colon)
    (mark : MarkAt src ":" colon value) (target : BindingPart.target.Reads g src names value next)
    (ends : Clear bindingMarks src next.here) :
    (BindingPart.item .braces).Reads g src names c next := by
  obtain ⟨stop, name⟩ := key.propertyName g
  obtain ⟨tree, read, rfl⟩ := target
  have pair : pairPattern g src c = some (_, next) :=
    node_of_read (all_of_read name (all_of_read mark.mark
      (all_of_read (boundPattern_of_pattern read ends) all_nil)))
  refine ⟨_, (any_of_none (key.restPattern g)).trans (any_of_read pair), ?_⟩
  rw [boundNames_of_inner (by decide) (by decide)]
  simp [boundNames_leaf]

theorem reads_rest {g : Grammar} {value : Cursor} (mark : MarkAt src "..." c value)
    (target : BindingPart.target.Reads g src names value next) :
    ∃ tree, restPattern g src c = some ([tree], next) ∧ boundNames src tree = names := by
  obtain ⟨tree, read, rfl⟩ := target
  refine ⟨_, node_of_read (all_of_read mark.mark (all_of_read read all_nil)), ?_⟩
  rw [boundNames_of_inner (by decide) (by decide)]
  simp [boundNames_leaf]

theorem reads_element {g : Grammar} (target : BindingPart.target.Reads g src names c next)
    (ends : Clear bindingMarks src next.here) :
    (BindingPart.item .squares).Reads g src names c next := by
  obtain ⟨tree, read, bound⟩ := target
  exact ⟨tree, boundPattern_of_pattern read ends, bound⟩

/-- In square brackets the dots are read as a pattern of their own, one level deeper. -/
theorem reads_rest_squares {value : Cursor} {depth : Nat} (mark : MarkAt src "..." c value)
    (target : BindingPart.target.Reads (.ofDepth depth) src names value next)
    (ends : Clear bindingMarks src next.here) :
    (BindingPart.item .squares).Reads (.ofDepth (depth + 1)) src names c next := by
  obtain ⟨tree, read, bound⟩ := reads_rest mark target
  have dots : Clear ['\x7b', '['] src c.here :=
    .of_next (mark.next?_eq (by decide)) (by decide)
  have pattern : (Grammar.ofDepth (depth + 1)).pattern src c = some ([tree], next) :=
    (any_of_none (destructuring_of_clear _ dots)).trans (any_of_read read)
  exact ⟨tree, boundPattern_of_pattern pattern ends, bound⟩

/-- In front of a comma or of the closing bracket there may be no item. -/
theorem reads_skip {ch : Char} (hn : src.next? c.here = some ch) (hs : ch ∈ separators)
    {depth : Nat} (more : (BindingPart.more bracket).Reads (.ofDepth depth) src names c next) :
    (BindingPart.items bracket).Reads (.ofDepth depth) src names c next := by
  obtain ⟨back, later, bound⟩ := more
  exact ⟨[], c, back, opt_of_none (item_of_separator hn hs bracket depth), later, Nat.le_refl _,
    bound⟩

theorem reads_items {g : Grammar} {others : List String}
    (item : (BindingPart.item bracket).Reads g src names c middle)
    (more : (BindingPart.more bracket).Reads g src others middle next)
    (further : c.past ≤ middle.past) :
    (BindingPart.items bracket).Reads g src (names ++ others) c next := by
  obtain ⟨tree, read, rfl⟩ := item
  obtain ⟨back, rest, rfl⟩ := more
  exact ⟨[tree], middle, back, opt_of_read read, rest, further, by simp⟩

theorem reads_stop (g : Grammar) (ends : src.next? c.here = bracket.closing.toList.head?) :
    (BindingPart.more bracket).Reads g src [] c c := by
  have clear : Clear [','] src c.here := by
    cases bracket with
    | braces => exact .of_next (m := '}') ends (by decide)
    | squares => exact .of_next (m := ']') ends (by decide)
  exact ⟨[], .stop (all_of_none (clear.mark rfl (by decide))), rfl⟩

theorem reads_comma {g : Grammar} (mark : MarkAt src "," c middle)
    (items : (BindingPart.items bracket).Reads g src names middle next)
    (ordered : c.past ≤ c.here) : (BindingPart.more bracket).Reads g src names c next := by
  obtain ⟨front, last, back, read, later, further, rfl⟩ := items
  have marked : Onward c middle := mark.onward (by decide)
  have inside : c.here < src.chars.size := le_size_of_has (by decide) mark.has
  refine ⟨_, .step (all_of_read mark.mark (all_of_read read all_nil)) ?_ ?_ later, ?_⟩
  · exact Nat.lt_of_le_of_lt ordered (Nat.lt_of_lt_of_le marked.here_lt further)
  · exact Nat.lt_of_le_of_lt ordered inside
  · simp [boundNames_leaf]

/-- A part is read where it stands, if nothing reads on behind it: by induction on the part,
since brackets cost a level and at least two characters. -/
theorem BindsAt.reads (h : BindsAt src part names c next) (depth : Nat)
    (fits : part.Fits depth c next) (ordered : c.past ≤ c.here) (ends : part.Ends src next) :
    part.Reads (.ofDepth depth) src names c next := by
  induction h generalizing depth with
  | @pattern bracket names c first last next opening items closing ih =>
      have opened := opening.onward bracket.opening_ne
      have closed := closing.onward bracket.closing_ne
      have inside : last.past ≤ last.here := by
        rcases items.reaches with rfl | inside
        · exact opened.past_le
        · exact inside.past_le
      have enough : last.past < first.here + depth := by
        have start := opened.here_lt_here
        have stop := closed.here_lt
        simp only [BindingPart.Fits] at fits
        omega
      exact reads_pattern opening
        (ih depth enough opened.past_le (closing.next?_eq bracket.closing_ne)) closing
  | @single text c next name =>
      have long := name.onward.here_lt
      simp only [BindingPart.Fits] at fits
      obtain ⟨depth, rfl⟩ := Nat.exists_eq_add_of_le (show 2 ≤ depth by omega)
      rw [Nat.add_comm]
      exact reads_single name ends depth
  | @nested names c next pattern ih =>
      have long := pattern.reaches.here_lt
      simp only [BindingPart.Fits] at fits
      obtain ⟨depth, rfl⟩ := Nat.exists_eq_add_of_le (show 1 ≤ depth by omega)
      rw [Nat.add_comm]
      obtain ⟨tree, read, bound⟩ :=
        ih depth (show next.past ≤ c.here + depth by omega) ordered trivial
      exact ⟨tree, any_of_read read, bound⟩
  | shorthand name => exact reads_shorthand _ name ends
  | @pair names c colon value next key mark target ih =>
      have start := (key.onward.trans (mark.onward (by decide))).here_lt_here
      simp only [BindingPart.Fits] at fits
      exact reads_pair key mark
        (ih depth (show next.past < value.here + depth by omega)
          (mark.onward (by decide)).past_le ends) ends
  | element _ ih => exact reads_element (ih depth fits ordered ends) ends
  | @rest bracket names c value next mark target ih =>
      have marked : Onward c value := mark.onward (by decide)
      have long := target.reaches.here_lt
      have start : c.here + 3 ≤ value.here := by
        rw [mark.next_eq]
        exact le_skipGap src _
      simp only [BindingPart.Fits] at fits
      cases bracket with
      | braces =>
          obtain ⟨tree, read, bound⟩ := reads_rest mark
            (ih depth (show next.past < value.here + depth by omega) marked.past_le ends)
          exact ⟨tree, any_of_read read, bound⟩
      | squares =>
          obtain ⟨depth, rfl⟩ := Nat.exists_eq_add_of_le (show 1 ≤ depth by omega)
          rw [Nat.add_comm 1]
          exact reads_rest_squares mark
            (ih depth (show next.past < value.here + depth by omega) marked.past_le ends) ends
  | @skip bracket names c next more ih =>
      obtain ⟨ch, hn, hs⟩ : ∃ ch, src.next? c.here = some ch ∧ ch ∈ separators := by
        rcases more.next?_of_more ends with comma | closing
        · exact ⟨',', comma, by decide⟩
        · cases bracket with
          | braces => exact ⟨'}', closing, by decide⟩
          | squares => exact ⟨']', closing, by decide⟩
      exact reads_skip hn hs (ih depth fits ordered ends)
  | @item bracket names others c middle next item more first later =>
      have begun : Onward c middle := item.reaches
      have reach : middle.past ≤ next.past := by
        rcases more.reaches with rfl | inside
        · exact Nat.le_refl _
        · exact Nat.le_trans begun.past_le (Nat.le_of_lt inside.here_lt)
      have clear : Clear bindingMarks src middle.here := by
        rcases more.next?_of_more ends with comma | closing
        · exact .of_next comma (by decide)
        · exact clear_of_closing closing
      have start := begun.here_lt_here
      simp only [BindingPart.Fits] at fits
      exact reads_items (first depth (show middle.past < c.here + depth by omega) ordered clear)
        (later depth (show next.past < middle.here + depth by omega) begun.past_le ends)
        (Nat.le_trans ordered (Nat.le_of_lt begun.here_lt))
  | stop => exact reads_stop _ ends
  | @comma bracket names c middle next mark items ih =>
      have marked : Onward c middle := mark.onward (by decide)
      have start := marked.here_lt_here
      simp only [BindingPart.Fits] at fits
      exact reads_comma mark
        (ih depth (show next.past < middle.here + depth by omega) marked.past_le ends) ordered

/-- A pattern is read wherever the grammar nests as deep as the text is long. -/
theorem BindsAt.destructuring (h : BindsAt src .pattern names c next) (ordered : c.past ≤ c.here)
    {depth : Nat} (enough : src.chars.size ≤ depth) :
    ∃ tree, Script.destructuring (.ofDepth depth) src c = some ([tree], next) ∧
      boundNames src tree = names := by
  refine h.reads depth ?_ ordered trivial
  cases h with
  | @pattern bracket _ _ _ last _ _ _ closing =>
      have inside := le_size_of_has bracket.closing_ne closing.has
      have stop : next.past = last.here + bracket.closing.length := by rw [closing.next_eq]; rfl
      simp only [BindingPart.Fits]
      omega

end CommitLens.Script
