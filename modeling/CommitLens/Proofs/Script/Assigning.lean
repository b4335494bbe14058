import CommitLens.Proofs.Script.Clauses

/-!
# Exports by assignment

The targets `module.exports`, `module.exports.name` and `exports.name` stand without gaps in
front of an equals sign.  Main statement: the grammar reads the statement as an assignment to
the target, and the exchange of what it reads is the name that the target exports.
-/

namespace CommitLens.Script

open Source Script.Rule

variable {src : Source} {c middle next : Cursor} {text name : String} {g : Grammar}

/-! ## Targets -/

/-- A field stands behind a dot, without gaps. -/
inductive FieldAt (src : Source) (text : String) (c next : Cursor) : Prop
  | intro {place : Cursor} (before : c.here = c.past) (dot : MarkAt src "." c place)
      (behind : place.here = place.past) (field : NameAt src text place next) :
      FieldAt src text c next

/-- The target of an export by assignment, with the name that it exports. -/
inductive TargetAt (src : Source) : String → Cursor → Cursor → Prop
  | whole {c dot next : Cursor} (base : NameAt src "module" c dot)
      (field : FieldAt src "exports" dot next) : TargetAt src "default" c next
  | inner {name : String} {c dot second next : Cursor} (base : NameAt src "module" c dot)
      (field : FieldAt src "exports" dot second) (inner : FieldAt src name second next) :
      TargetAt src name c next
  | short {name : String} {c dot next : Cursor} (base : NameAt src "exports" c dot)
      (field : FieldAt src name dot next) : TargetAt src name c next

theorem NameAt.notMem (h : NameAt src text c next) : '.' ∉ text.toList := by
  intro member
  obtain ⟨k, found⟩ := List.mem_iff_getElem?.mp member
  rw [← slice_of_has h.has] at found
  obtain ⟨inside, -, dot⟩ := getElem?_slice.mp found
  have free := avoids_nameRest (show isNameMark '.' = false by decide) (by decide) (by decide) src
    c.here (c.here + k) (Nat.le_add_right _ _)
  rw [h.nameRest_eq] at free
  exact free inside dot

theorem afterLastDot_append {front : String} (h : '.' ∉ text.toList) :
    afterLastDot (front ++ "." ++ text) = text := by
  have parts : (front ++ "." ++ text).toList = front.toList ++ '.' :: text.toList := by simp
  rw [afterLastDot, Text.split, parts, Text.splitOnChar_append_cons, Text.splitOnChar_of_notMem h]
  simp

theorem FieldAt.onward (h : FieldAt src text c next) : Onward c next := by
  cases h with
  | intro _ dot _ field => exact (dot.onward (by decide)).trans field.onward

/-- The text of a base and a field. -/
theorem FieldAt.has {front : String} (h : FieldAt src text c next) {i : Nat}
    (base : src.has i front = true) (past : c.past = i + front.length) :
    src.has i (front ++ "." ++ text) = true ∧ next.past = i + (front ++ "." ++ text).length := by
  cases h with
  | @intro place before dot behind field =>
      have point : place.past = c.here + 1 := by
        rw [dot.next_eq]
        rfl
      have stop : next.past = place.here + text.length := by
        rw [field.next_eq]
        rfl
      have length : (front ++ "." ++ text).length = front.length + 1 + text.length := by
        rw [String.length_append, String.length_append]
        rfl
      have dotted : src.has i (front ++ ".") = true := by
        refine has_append.mpr ⟨base, ?_⟩
        rw [← past, ← before]
        exact dot.has
      refine ⟨has_append.mpr ⟨dotted, ?_⟩, by omega⟩
      have start : i + (front ++ ".").length = place.here := by
        rw [String.length_append, show ".".length = 1 from rfl]
        omega
      rw [start]
      exact field.has

/-! ## Chains -/

/-- A field is read on behind a value. -/
theorem extendUpTo_of_field (g : Grammar) (start fuel : Nat) (trees : List Tree)
    (h : FieldAt src text c next) :
    ∃ more, extendUpTo (accessTails g ++ callTails g) start (fuel + 1) trees src c =
      extendUpTo (accessTails g ++ callTails g) start fuel
        [.node .member .plain start next.past (trees ++ more)] src next := by
  cases h with
  | @intro place before dot behind field =>
      have name : memberName src place = some (_, next) := any_of_read field.anyName
      obtain ⟨more, access⟩ : ∃ more, all [mark ".", memberName] src c = some (more, next) :=
        ⟨_, all_of_read dot.mark (all_of_read name all_nil)⟩
      refine ⟨more, ?_⟩
      rw [extendUpTo]
      simp [accessTails, access]

theorem FieldAt.next?_eq (h : FieldAt src text c next) : src.next? c.here = some '.' := by
  cases h with
  | intro before dot behind field => exact dot.next?_eq (by decide)

/-- Behind a dot there is no name of a namespace. -/
theorem namespaceName_of_field (h : FieldAt src text c next) :
    any [string, group .member (sepBy1 (mark ".") identifier)] src c = none := by
  have hn := h.next?_eq
  have same := (next?_eq_some.mp hn).2
  have string : Rule.string src c = none := token_of_none (by simp [string?, same])
  have identifier : Rule.identifier src c = none := by
    simp [Rule.identifier, variableName?, name?_eq_none hn (.inr (by decide))]
  rw [any_of_none string, any_of_none (group_of_none (sepBy1_of_none identifier)), any_nil]

/-- The word at the head of a target is read as a variable. -/
theorem primaryRule_of_base (g : Grammar) (inChoice : Bool) {dot : Cursor}
    (known : text ∈ ["module", "exports"]) (base : NameAt src text c dot)
    (field : FieldAt src name dot next) :
    primaryRule g inChoice src c =
      some ([.leaf .identifier c.here (c.here + text.length)], dot) := by
  have clear : Clear ['='] src dot.here := .of_next field.next?_eq (by decide)
  have free := (by decide : ∀ word ∈ ["module", "exports"], word ∉ reservedWords ∧
    word ≠ "undefined" ∧ word ≠ "async") text known
  have space : namespaceBlock g src c = none := by
    rcases List.mem_pair.mp known with rfl | rfl
    · have words_ : words ["namespace", "module"] src c = some (_, dot) :=
        (any_of_none (base.word_of_ne (by decide) (by decide))).trans
          (any_of_read (base.word_self (by decide)))
      exact typed_of_none (node_of_none (all_of_read_none words_ (all_guard_of_none (all_of_none
        (role_of_none (namespaceName_of_field field))))))
    · exact namespaceBlock_of_ne g base (by decide)
  exact primaryRule_of_name g inChoice base free.1 free.2.1 free.2.2
    (clear.has (m := '=') rfl (by decide)) space

/-! ## What a target exports -/

theorem assignedExport_inner (h : '.' ∉ text.toList) :
    assignedExport ("module.exports" ++ "." ++ text) = [text] := by
  have start : ("module.exports" ++ "." ++ text).startsWith "module.exports." = true := by
    rw [String.startsWith_string_iff]
    simp
  have other : ("module.exports" ++ "." ++ text == "module.exports") = false := by
    refine beq_false_of_ne fun same => ?_
    have long := congrArg String.length same
    rw [String.length_append, String.length_append, show ".".length = 1 from rfl] at long
    omega
  rw [assignedExport, other, start, afterLastDot_append h]
  rfl

theorem assignedExport_short (h : '.' ∉ text.toList) :
    assignedExport ("exports" ++ "." ++ text) = [text] := by
  have start : ("exports" ++ "." ++ text).startsWith "exports." = true := by
    rw [String.startsWith_string_iff]
    simp
  have other : ("exports" ++ "." ++ text == "module.exports") = false := by
    refine beq_false_of_ne fun same => ?_
    have first := congrArg (fun text => text.toList.head?) same
    simp at first
  rw [assignedExport, other, start, Bool.or_true, afterLastDot_append h]
  rfl

/-- A base with a field is the start of a chain. -/
theorem chainRule_of_field (g : Grammar) (inChoice : Bool) {dot : Cursor}
    (known : text ∈ ["module", "exports"]) (base : NameAt src text c dot)
    (field : FieldAt src name dot next) :
    ∃ trees, chainRule g inChoice src c =
      extendUpTo (accessTails g ++ callTails g) c.here (src.chars.size - dot.past)
        [.node .member .plain c.here next.past trees] src next := by
  have first := primaryRule_of_base g inChoice known base field
  have chain : chainRule g inChoice src c =
      extendUpTo (accessTails g ++ callTails g) c.here (src.chars.size - dot.past + 1)
        [.leaf .identifier c.here (c.here + text.length)] src dot := by
    simp [chainRule, extend, first, left]
  obtain ⟨more, access⟩ := extendUpTo_of_field g c.here (src.chars.size - dot.past)
    [.leaf .identifier c.here (c.here + text.length)] field
  exact ⟨_, chain.trans access⟩

theorem text_of_has {kind : Kind} {part : Role} {stop : Nat} {trees : List Tree}
    (h : src.has c.here text = true) (hs : stop = c.here + text.length) :
    src.text (.node kind part c.here stop trees) = text := by
  rw [hs]
  exact slice_of_has h

/-- A target is read as a member, whose text says what is exported. -/
theorem TargetAt.reads (h : TargetAt src name c next) (g : Grammar) (inChoice : Bool)
    (ends : Clear tailMarks src next.here) :
    ∃ tree, chainRule g inChoice src c = some ([tree], next) ∧ tree.kind = .member ∧
      assignedExport (src.text tree) = [name] := by
  cases h with
  | whole base field =>
      obtain ⟨trees, chain⟩ := chainRule_of_field g inChoice (by decide) base field
      obtain ⟨has, stop⟩ := field.has base.has (by rw [base.next_eq]; rfl)
      refine ⟨_, chain.trans (extendUpTo_of_clear g _ _ _ ends), rfl, ?_⟩
      rw [text_of_has has stop]
      decide
  | inner base field inner =>
      rename_i dot second
      obtain ⟨trees, chain⟩ := chainRule_of_field g inChoice (by decide) base field
      have inside : dot.past < src.chars.size := by
        cases field with
        | intro before mark =>
            have stop := le_size_of_has (by decide) mark.has
            rw [before] at stop
            exact stop
      obtain ⟨fuel, enough⟩ := Nat.exists_eq_add_of_lt inside
      have fuel_ : src.chars.size - dot.past = fuel + 1 := by omega
      obtain ⟨more, access⟩ := extendUpTo_of_field g c.here fuel
        [.node .member .plain c.here second.past trees] inner
      rw [fuel_] at chain
      have front := field.has base.has (by rw [base.next_eq]; rfl)
      obtain ⟨has, stop⟩ := inner.has front.1 front.2
      refine ⟨_, (chain.trans access).trans (extendUpTo_of_clear g _ _ _ ends), rfl, ?_⟩
      rw [text_of_has has stop]
      cases inner with
      | intro _ _ _ field => exact assignedExport_inner field.notMem
  | short base field =>
      obtain ⟨trees, chain⟩ := chainRule_of_field g inChoice (by decide) base field
      obtain ⟨has, stop⟩ := field.has base.has (by rw [base.next_eq]; rfl)
      refine ⟨_, chain.trans (extendUpTo_of_clear g _ _ _ ends), rfl, ?_⟩
      rw [text_of_has has stop]
      cases field with
      | intro _ _ _ field => exact assignedExport_short field.notMem

/-! ## Assignments -/

theorem TargetAt.opens (h : TargetAt src name c next) :
    ∃ text dot field after, text ∈ ["module", "exports"] ∧ NameAt src text c dot ∧
      FieldAt src field dot after := by
  cases h with
  | whole base field => exact ⟨_, _, _, _, by decide, base, field⟩
  | inner base field => exact ⟨_, _, _, _, by decide, base, field⟩
  | short base field => exact ⟨_, _, _, _, by decide, base, field⟩

/-- What is assigned to a target. -/
def assignedValue (g : Grammar) : Rule :=
  all [equalsMark, g.expression]

/-- The characters that operators start with. -/
def operatorMarks : List Char :=
  ['>', '=', '!', '<', '*', '&', '|', '?', '+', '-', '/', '%', '^', '~']

theorem operator_of_clear (h : Clear operatorMarks src c.here) (choices : List String) :
    operator choices src c = none := by
  have none : operatorTexts.find? (fun text => src.has c.here text) = Option.none := by
    refine List.find?_eq_none.mpr fun text member => ?_
    obtain ⟨ch, known, first⟩ := (by decide : ∀ text ∈ operatorTexts,
      ∃ ch ∈ operatorMarks, text.toList.head? = some ch) text member
    rw [h.has first known]
    exact Bool.false_ne_true
  exact token_of_none (by simp [none])

theorem skipMarkupComments_of_clear (h : Clear ['<', '-'] src c.here) :
    skipMarkupComments src c = some ([], c) := by
  have none : markupComment? src c.here = Option.none := by
    simp [markupComment?, h.has (show "<!--".toList.head? = some '<' from rfl) (by decide),
      h.has (show "-->".toList.head? = some '-' from rfl) (by decide)]
  simp [skipMarkupComments, left, skipMarkupComments.go, none]

/-- In front of a target stands no operator. -/
theorem leftOperator_of_name (g : Grammar) (h : NameAt src text c next)
    (other : text ∉ ["typeof", "void", "delete", "await"]) : leftOperator g src c = none := by
  have operator_ := operator_of_clear (h.clear (by decide)) ["!", "~", "++", "--", "+", "-"]
  have words_ : words ["typeof", "void", "delete"] src c = none := by
    refine words_of_notMem h (by decide) fun member => other ?_
    simp only [List.mem_cons, List.not_mem_nil, or_false] at member ⊢
    tauto
  have await : word "await" src c = none := by
    refine h.word_of_ne (by decide) fun same => other ?_
    rw [← same]
    decide
  have angle : Clear ['<'] src c.here := h.clear (by decide)
  have arguments_ : typeArguments g src c = none :=
    node_of_none (all_of_none (angle.mark rfl (by decide)))
  rw [leftOperator, any_of_none operator_, any_of_none words_,
    any_of_none (all_of_none await), any_one]
  exact typed_of_none (all_guard_of_none (all_of_none arguments_))

theorem reads_assigned (target : TargetAt src name c middle)
    (value : Stands (assignedValue g) src middle next) :
    ∃ tree, assigned g false src c = some ([tree], next) ∧ tree.kind = .assignment ∧
      assignedExport (textOf src (tree.child? .left)) = [name] := by
  obtain ⟨trees, read⟩ := value.read
  obtain ⟨_, _, _, equals, -⟩ := exists_of_all_cons read
  have clear : Clear tailMarks src middle.here :=
    .of_next (next?_of_equalsMark equals) (by decide)
  obtain ⟨tree, chain, kind, exported⟩ := target.reads g false clear
  have inner : all [equalsMark, g.expression] src middle = some (trees, next) := read
  have found : assigned g false src c = some ([.node .assignment .plain c.here next.past
      (tree.withRole .left :: trees)], next) := by
    simp [assigned, chain, kind, inner]
  refine ⟨_, found, rfl, ?_⟩
  simpa [Tree.child?, textOf] using exported

/-- Where a statement ends, no expression goes on. -/
theorem rest_of_end (g : Grammar) (ends : EndsAt src c next) :
    any [all [binaryOperator, operand g false], typeTail g] src c = none ∧
      choiceTail g src c = none := by
  have clear : Clear operatorMarks src c.here := ends.clear (by decide)
  have words_ : words ["in", "instanceof"] src c = none := ends.words (by decide)
  have binary : binaryOperator src c = none :=
    (any_of_none (operator_of_clear clear _)).trans ((any_of_none words_).trans any_nil)
  have type : typeTail g src c = none := typed_of_none (all_of_none (ends.words (by decide)))
  have question : src.char c.here ≠ '?' := clear.char (by decide) (by decide)
  exact ⟨(any_of_none (all_of_none binary)).trans ((any_of_none type).trans any_nil),
    all_of_none (token_of_none (by simp [question]))⟩

/-- An assignment is the whole expression of its statement. -/
theorem reads_expression {close : Cursor} (target : TargetAt src name c middle)
    (value : Stands (assignedValue g) src middle close) (ends : EndsAt src close next) :
    ∃ tree, expressions g.next src c = some ([tree], close) ∧ tree.kind = .assignment ∧
      assignedExport (textOf src (tree.child? .left)) = [name] := by
  obtain ⟨tree, read, kind, exported⟩ := reads_assigned target value
  obtain ⟨text, dot, field, after, known, base, -⟩ := target.opens
  obtain ⟨rows, choice⟩ := rest_of_end g ends
  have other := (by decide : ∀ word ∈ ["module", "exports"],
    word ∉ ["typeof", "void", "delete", "await"] ∧ word ≠ "yield") text known
  have left := leftOperator_of_name g base other.1
  have yielded_ : yielded g src c = none :=
    node_of_none (all_of_none (base.word_of_ne (by decide) (Ne.symm other.2)))
  have comments := skipMarkupComments_of_clear (base.clear (by decide))
  have operand_ : operand g false src c = some ([tree], close) :=
    group_of_one (all_of_read comments (all_of_read (many_of_none left)
      (all_of_read ((any_of_none yielded_).trans (any_of_read read)) all_nil)))
  have row : binaryRow g false src c = some ([tree], close) :=
    all_of_read operand_ (all_of_read (many_of_none rows) all_nil)
  have expression : g.next.expression src c = some ([tree], close) :=
    group_of_one (all_of_read row (all_of_read (opt_of_none choice) all_nil))
  have comma : Clear [','] src close.here := ends.clear (by decide)
  exact ⟨tree, group_of_one (all_of_read expression (all_of_read (many_of_none (all_of_none
    (comma.mark rfl (by decide)))) all_nil)), kind, exported⟩

/-- An export by assignment is read as an expression. -/
theorem reads_assignment {close : Cursor} (target : TargetAt src name c middle)
    (value : Stands (assignedValue g) src middle close) (ends : EndsAt src close next) :
    ∃ tree semicolons, expressionStatement g.next src c = some
        ([.node .expressionStatement .plain c.here next.past (tree :: semicolons)], next) ∧
      tree.kind = .assignment ∧ assignedExport (textOf src (tree.child? .left)) = [name] := by
  obtain ⟨tree, read, kind, exported⟩ := reads_expression target value ends
  obtain ⟨semicolons, closed, -⟩ := ends.read true
  obtain ⟨text, dot, field, after, known, base, -⟩ := target.opens
  have other := (by decide : ∀ word ∈ ["module", "exports"], "export" ≠ word) text known
  have export_ : exportAssignment g.next src c = none :=
    untyped_of_none (node_of_none (all_of_none (role_of_none (base.word_of_ne (by decide) other))))
  have statement : expressionStatement g.next src c = some (_, next) :=
    node_of_read (all_of_read ((any_of_none export_).trans (any_of_read read))
      (all_of_read closed all_nil))
  exact ⟨tree, semicolons, by simpa using statement, kind, exported⟩

end CommitLens.Script
