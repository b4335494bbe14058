import CommitLens.Proofs.Script.Source
import CommitLens.Script.Expressions

/-!
# Tokens at places

A name, a mark or a string stands at a place of a text, up to the place of the next token.
What stands there decides which of the tokens of the grammar are read.
-/

namespace CommitLens.Script

open Source

variable {src : Source} {i : Nat}

namespace Source

/-! ## Characters -/

theorem has_cons {c : Char} {cs : List Char} :
    has.go src i (c :: cs) = true ↔
      src.isEnd i = false ∧ src.char i = c ∧ has.go src (i + 1) cs = true := by
  simp [has.go, and_assoc]

theorem has_append {a b : String} :
    src.has i (a ++ b) = true ↔ src.has i a = true ∧ src.has (i + a.length) b = true := by
  have run (cs ds : List Char) (i : Nat) : has.go src i (cs ++ ds) = true ↔
      has.go src i cs = true ∧ has.go src (i + cs.length) ds = true := by
    induction cs generalizing i with
    | nil => simp [has.go]
    | cons c cs ih =>
        rw [List.cons_append, has_cons, has_cons, ih, List.length_cons, Nat.add_assoc,
          Nat.add_comm 1]
        tauto
  rw [has, String.toList_append, run]
  rfl

/-- The character at a place, if the text does not end there. -/
def next? (src : Source) (i : Nat) : Option Char :=
  src.chars[i]?

theorem next?_eq_none : src.next? i = none ↔ src.isEnd i = true := by
  simp [next?, isEnd]

theorem next?_eq_some {c : Char} :
    src.next? i = some c ↔ src.isEnd i = false ∧ src.char i = c := by
  by_cases inside : i < src.chars.size
  · simp [next?, isEnd, char, Array.getD, inside]
  · simp [next?, isEnd, inside]

/-- Where a word stands, its first character does. -/
theorem next?_of_has {word : String} (some : word ≠ "") (h : src.has i word = true) :
    src.next? i = word.toList.head? := by
  unfold has at h
  cases hw : word.toList with
  | nil => exact absurd (String.toList_eq_nil_iff.mp hw) some
  | cons c cs =>
      rw [hw, has_cons] at h
      exact next?_eq_some.mpr ⟨h.1, h.2.1⟩

theorem isEnd_of_has {word : String} (h : src.has i word = true) {k : Nat}
    (hk : k < word.length) : src.isEnd (i + k) = false := by
  have run (cs : List Char) (i k : Nat) (h : has.go src i cs = true) (hk : k < cs.length) :
      src.isEnd (i + k) = false := by
    induction cs generalizing i k with
    | nil => exact absurd hk (Nat.not_lt_zero k)
    | cons c cs ih =>
        rw [has_cons] at h
        cases k with
        | zero => exact h.1
        | succ k =>
            have next := ih (i + 1) k h.2.2 (Nat.lt_of_succ_lt_succ hk)
            rwa [Nat.add_assoc, Nat.add_comm 1 k] at next
  exact run word.toList i k h hk

theorem slice_of_has {word : String} (h : src.has i word = true) :
    src.slice i (i + word.length) = word := by
  rw [← String.toList_inj]
  refine List.ext_getElem? fun k => Option.ext fun c => ?_
  rw [getElem?_slice]
  by_cases hk : k < word.length
  · rw [List.getElem?_eq_getElem hk, ← char_of_has h hk, Option.some.injEq]
    simp [isEnd_of_has h hk, hk]
  · rw [List.getElem?_eq_none (Nat.not_lt.mp hk)]
    simp [hk]

/-- A word ends within the text. -/
theorem le_size_of_has {word : String} (some : word ≠ "") (h : src.has i word = true) :
    i + word.length ≤ src.chars.size := by
  have long : 0 < word.length := by
    rw [Nat.pos_iff_ne_zero]
    simpa using some
  have last := isEnd_of_has h (Nat.sub_lt long Nat.one_pos)
  rw [isEnd, decide_eq_false_iff_not] at last
  omega

theorem eq_of_has {a b : String} (ha : src.has i a = true) (hb : src.has i b = true)
    (same : a.length = b.length) : a = b := by
  rw [← slice_of_has ha, same, slice_of_has hb]

/-! ## Gaps -/

theorem le_skipWhile (test : Char → Bool) (i : Nat) : i ≤ src.skipWhile test i := by
  unfold skipWhile
  generalize src.left i = fuel
  induction fuel generalizing i with
  | zero => exact Nat.le_refl i
  | succ fuel ih =>
      rw [skipWhile.go]
      split
      · exact Nat.le_of_succ_le (ih (i + 1))
      · exact Nat.le_refl i

theorem le_after? {word : String} {past : Nat} (h : src.after? word i = some past) : i ≤ past := by
  unfold after? at h
  generalize src.left i = fuel at h
  induction fuel generalizing i with
  | zero => contradiction
  | succ fuel ih =>
      rw [after?.go] at h
      split at h
      · cases h
        exact Nat.le_add_right _ _
      · split at h
        · contradiction
        · exact Nat.le_of_succ_le (ih h)

end Source

theorem le_comment? {past : Nat} (h : comment? src i = some past) : i ≤ past := by
  unfold comment? at h
  split at h
  · cases h
    exact Nat.le_trans (Nat.le_add_right i 2) (le_skipWhile _ _)
  · split at h
    · exact Nat.le_trans (Nat.le_add_right i 2) (le_after? h)
    · contradiction

theorem le_skipGap (src : Source) (i : Nat) : i ≤ skipGap src i := by
  unfold skipGap
  generalize src.left i = fuel
  induction fuel generalizing i with
  | zero => exact Nat.le_refl i
  | succ fuel ih =>
      rw [skipGap.go]
      have space : i ≤ src.skipWhile isSpaceMark i := le_skipWhile _ _
      split
      · rename_i past found
        exact Nat.le_trans space (Nat.le_trans (le_comment? found) (ih past))
      · exact space

/-! ## Names -/

theorem left_succ (h : src.isEnd i = false) : src.left i = src.left (i + 1) + 1 := by
  rw [isEnd, decide_eq_false_iff_not] at h
  simp only [left]
  omega

theorem nameRest_succ (inside : src.isEnd i = false) (mark : isNameMark (src.char i) = true) :
    nameRest src i = nameRest src (i + 1) := by
  rw [nameRest, left_succ inside, nameRest.go, if_neg (by simp [inside]), if_pos mark, nameRest]

/-- A text of name marks. -/
def IsWord (word : String) : Prop :=
  word ≠ "" ∧ ∀ c ∈ word.toList, isNameMark c = true

instance (word : String) : Decidable (IsWord word) :=
  inferInstanceAs (Decidable (_ ∧ _))

theorem nameRest_of_has {word : String} (marks : ∀ c ∈ word.toList, isNameMark c = true)
    (h : src.has i word = true) : nameRest src i = nameRest src (i + word.length) := by
  have run (cs : List Char) (marks : ∀ c ∈ cs, isNameMark c = true) (i : Nat)
      (h : has.go src i cs = true) : nameRest src i = nameRest src (i + cs.length) := by
    induction cs generalizing i with
    | nil => rfl
    | cons c cs ih =>
        rw [List.forall_mem_cons] at marks
        rw [has_cons] at h
        obtain ⟨inside, rfl, later⟩ := h
        rw [nameRest_succ inside marks.1, ih marks.2 (i + 1) later, List.length_cons,
          Nat.add_assoc, Nat.add_comm 1]
  exact run word.toList marks i h

theorem name?_eq_none {c : Char} (h : src.next? i = some c)
    (other : c.isDigit = true ∨ (isNameMark c = false ∧ c ≠ '\\')) : name? src i = none := by
  obtain ⟨inside, rfl⟩ := next?_eq_some.mp h
  unfold name?
  rcases other with digit | ⟨plain, noEscape⟩
  · rw [if_pos (by simp [digit])]
  · have escape : unicodeEscape? src i = none := by
      have absent : src.has i "\\u" = false := by
        rw [Bool.eq_false_iff]
        exact fun found => noEscape (char_of_has found (k := 0) (by decide))
      rw [unicodeEscape?, absent]
      rfl
    have stays : nameRest src i = i := by
      rw [nameRest, left_succ inside, nameRest.go, if_neg (by simp [inside]),
        if_neg (by simp [plain]), escape]
    simp [stays]

/-! ## Numbers -/

theorem lt_digits? {test : Char → Bool} {stop : Nat} (h : digits? src test i = some stop) :
    i < stop := by
  have rest (fuel i : Nat) : i ≤ digits?.go src test fuel i := by
    induction fuel generalizing i with
    | zero => exact Nat.le_refl i
    | succ fuel ih =>
        rw [digits?.go]
        split
        · exact Nat.le_of_succ_le (ih (i + 1))
        · split
          · exact Nat.le_trans (Nat.le_add_right i 2) (ih (i + 2))
          · exact Nat.le_refl i
  unfold digits? at h
  split at h
  · cases h
    exact rest _ (i + 1)
  · contradiction

theorem le_exponentEnd (src : Source) (i : Nat) : i ≤ exponentEnd src i := by
  have read {first : Nat} (h : i ≤ first) : i ≤ (digits? src Char.isDigit first).getD i := by
    cases digits : digits? src Char.isDigit first with
    | none => exact Nat.le_refl i
    | some stop => exact Nat.le_trans h (Nat.le_of_lt (lt_digits? digits))
  unfold exponentEnd
  split
  · dsimp only
    split
    · exact read (Nat.le_add_right i 2)
    · exact read (Nat.le_add_right i 1)
  · exact Nat.le_refl i

theorem lt_radixNumber? {stop : Nat} (h : radixNumber? src i = some stop) : i < stop := by
  have read {test : Char → Bool} (h : (digits? src test (i + 2)).map
      (fun stop => if src.char stop == 'n' then stop + 1 else stop) = some stop) : i < stop := by
    obtain ⟨past, digits, rfl⟩ := Option.map_eq_some_iff.mp h
    have front := lt_digits? digits
    split <;> omega
  unfold radixNumber? at h
  dsimp only at h
  split at h
  · contradiction
  · split at h
    case h_4 => contradiction
    all_goals exact read h

theorem lt_number? {stop : Nat} (h : number? src i = some stop) : i < stop := by
  unfold number? at h
  rcases (Option.orElse_eq_some _ _ _).mp h with h | ⟨-, h⟩
  · exact lt_radixNumber? h
  · split at h
    · obtain ⟨past, digits, rfl⟩ := Option.map_eq_some_iff.mp h
      have front := lt_digits? digits
      have exponent := le_exponentEnd src past
      omega
    · obtain ⟨past, digits, rfl⟩ := Option.map_eq_some_iff.mp h
      have front := lt_digits? digits
      split
      · exact Nat.lt_succ_of_lt front
      · split
        · exact front
        · split
          · refine Nat.lt_of_lt_of_le ?_ (le_exponentEnd src _)
            cases fraction : digits? src Char.isDigit (past + 1) with
            | none => exact Nat.lt_succ_of_lt front
            | some more => exact Nat.lt_trans (Nat.lt_succ_of_lt front) (lt_digits? fraction)
          · exact Nat.lt_of_lt_of_le front (le_exponentEnd src past)

/-- A number starts with a digit or with its point. -/
theorem opens_number? {stop : Nat} (h : number? src i = some stop) :
    (src.char i).isDigit = true ∨ src.char i = '.' := by
  unfold number? at h
  rcases (Option.orElse_eq_some _ _ _).mp h with h | ⟨-, h⟩
  · unfold radixNumber? at h
    dsimp only at h
    split at h
    · contradiction
    · rename_i zero
      have zero : src.char i = '0' := by simpa using zero
      left
      rw [zero]
      decide
  · split at h
    · right
      exact eq_of_beq ‹_›
    · obtain ⟨past, digits, -⟩ := Option.map_eq_some_iff.mp h
      unfold digits? at digits
      split at digits
      · left
        exact (Bool.and_eq_true_iff.mp ‹_›).2
      · contradiction

theorem name?_of_number? {stop : Nat} (h : number? src i = some stop) : name? src i = none := by
  cases inside : src.isEnd i with
  | true => simp [name?, inside]
  | false =>
      rcases opens_number? h with digit | point
      · exact name?_eq_none (next?_eq_some.mpr ⟨inside, rfl⟩) (.inl digit)
      · exact name?_eq_none (next?_eq_some.mpr ⟨inside, point⟩) (.inr (by decide))

/-! ## Characters that do not stand at a place -/

variable {text word : String} {c next : Cursor} {m : Char}

/-- Nothing is read at a place where another character stands. -/
theorem has_of_next (ht : text.toList.head? = some m) (h : src.next? i ≠ some m) :
    src.has i text = false := by
  rw [Bool.eq_false_iff]
  intro found
  have some : text ≠ "" := by
    rintro rfl
    contradiction
  exact h ((next?_of_has some found).trans ht)

theorem mark_of_next (ht : text.toList.head? = some m) (h : src.next? c.here ≠ some m) :
    Rule.mark text src c = none := by
  simp [Rule.mark, Rule.token, has_of_next ht h]

theorem markNot_of_next {after : String} (ht : text.toList.head? = some m)
    (h : src.next? c.here ≠ some m) : Rule.markNot text after src c = none := by
  simp [Rule.markNot, Rule.token, has_of_next ht h]

theorem word_of_next (ht : text.toList.head? = some m) (h : src.next? c.here ≠ some m) :
    Rule.word text src c = none := by
  simp [Rule.word, Rule.token, has_of_next ht h]

/-- None of some characters stands at a place. -/
def Clear (chars : List Char) (src : Source) (i : Nat) : Prop :=
  ∀ ch ∈ chars, src.next? i ≠ some ch

theorem Clear.of_next {chars : List Char} (h : src.next? i = some m)
    (other : m ∉ chars) : Clear chars src i := by
  rintro _ member same
  rw [h, Option.some.injEq] at same
  exact other (same ▸ member)

theorem Clear.mono {chars others : List Char} (h : Clear others src i) (sub : chars ⊆ others) :
    Clear chars src i :=
  fun ch member => h ch (sub member)

theorem Clear.has {chars : List Char} (h : Clear chars src i)
    (ht : text.toList.head? = some m) (member : m ∈ chars) : src.has i text = false :=
  has_of_next ht (h m member)

theorem Clear.mark {chars : List Char} (h : Clear chars src c.here)
    (ht : text.toList.head? = some m) (member : m ∈ chars) : Rule.mark text src c = none :=
  mark_of_next ht (h m member)

theorem Clear.equalsMark {chars : List Char} (h : Clear chars src c.here) (member : '=' ∈ chars) :
    Rule.equalsMark src c = none :=
  markNot_of_next rfl (h '=' member)

theorem Clear.char {chars : List Char} (h : Clear chars src i) (member : m ∈ chars)
    (visible : m ≠ '\x00') : src.char i ≠ m := by
  intro same
  cases inside : src.isEnd i with
  | false => exact h m member (next?_eq_some.mpr ⟨inside, same⟩)
  | true =>
      refine visible (same.symm.trans ?_)
      rw [isEnd, decide_eq_true_eq] at inside
      simp [Source.char, Array.getD, Nat.not_lt.mpr inside]

/-! ## Places -/

/-- A name or a keyword stands at a cursor, up to the next one. -/
structure NameAt (src : Source) (text : String) (c next : Cursor) : Prop where
  has : src.has c.here text = true
  whole : name? src c.here = some (c.here + text.length)
  next_eq : next = .afterToken src (c.here + text.length)

/-- A mark stands at a cursor. -/
structure MarkAt (src : Source) (text : String) (c next : Cursor) : Prop where
  has : src.has c.here text = true
  next_eq : next = .afterToken src (c.here + text.length)

/-- A string in quotes stands at a cursor. -/
structure StringAt (src : Source) (inner : String) (c next : Cursor) : Prop where
  quoted : ∃ quote ∈ ["\x22", "\x27"], src.has c.here (quote ++ inner ++ quote) = true
  whole : string? src c.here = some (c.here + (inner.length + 2))
  next_eq : next = .afterToken src (c.here + (inner.length + 2))

/-! Places can be checked in texts that are given. -/

deriving instance DecidableEq for Cursor

instance : Decidable (NameAt src text c next) :=
  decidable_of_iff (_ ∧ _ ∧ _) ⟨fun ⟨has, whole, stop⟩ => ⟨has, whole, stop⟩,
    fun h => ⟨h.has, h.whole, h.next_eq⟩⟩

instance : Decidable (MarkAt src text c next) :=
  decidable_of_iff (_ ∧ _) ⟨fun ⟨has, stop⟩ => ⟨has, stop⟩, fun h => ⟨h.has, h.next_eq⟩⟩

instance : Decidable (StringAt src text c next) :=
  decidable_of_iff (_ ∧ _ ∧ _) ⟨fun ⟨quoted, whole, stop⟩ => ⟨quoted, whole, stop⟩,
    fun h => ⟨h.quoted, h.whole, h.next_eq⟩⟩

namespace NameAt

theorem nameRest_eq (h : NameAt src text c next) :
    nameRest src c.here = c.here + text.length := by
  have whole := h.whole
  unfold name? at whole
  split at whole
  · contradiction
  · dsimp only at whole
    split at whole
    · exact Option.some.inj whole
    · contradiction

theorem ne_empty (h : NameAt src text c next) : text ≠ "" := by
  rintro rfl
  have whole := h.whole
  unfold name? at whole
  split at whole
  · contradiction
  · dsimp only at whole
    split at whole
    · rename_i longer
      have same := Option.some.inj whole
      rw [same] at longer
      exact absurd longer (Nat.lt_irrefl _)
    · contradiction

/-- A keyword is read where it is the name that stands there. -/
theorem word_self (h : NameAt src text c next) (marks : IsWord text) :
    Rule.word text src c = some ([.leaf .mark c.here (c.here + text.length)], next) := by
  have past := nameRest_of_has marks.2 h.has
  rw [h.nameRest_eq] at past
  simp [Rule.word, Rule.token, h.has, ← past, h.next_eq]

theorem word_of_ne (h : NameAt src text c next) (marks : IsWord word) (ne : word ≠ text) :
    Rule.word word src c = none := by
  have other : ¬(src.has c.here word = true ∧
      nameRest src (c.here + word.length) = c.here + word.length) := by
    rintro ⟨has, past⟩
    have same := nameRest_of_has marks.2 has
    rw [h.nameRest_eq, past] at same
    exact ne (eq_of_has has h.has (by omega))
  simpa [Rule.word, Rule.token] using other

theorem anyName (h : NameAt src text c next) :
    Rule.anyName src c = some ([.leaf .word c.here (c.here + text.length)], next) := by
  simp [Rule.anyName, Rule.token, h.whole, h.next_eq]

theorem variableName? (h : NameAt src text c next) (free : text ∉ Rule.reservedWords) :
    Rule.variableName? src c.here = some (c.here + text.length) := by
  simp [Rule.variableName?, h.whole, slice_of_has h.has, free]

theorem identifier (h : NameAt src text c next) (free : text ∉ Rule.reservedWords)
    (defined : text ≠ "undefined") :
    Rule.identifier src c = some ([.leaf .identifier c.here (c.here + text.length)], next) := by
  simp [Rule.identifier, h.variableName? free, slice_of_has h.has, defined, h.next_eq]

theorem identifier_of_reserved (h : NameAt src text c next) (reserved : text ∈ Rule.reservedWords) :
    Rule.identifier src c = none := by
  simp [Rule.identifier, Rule.variableName?, h.whole, slice_of_has h.has, reserved]

theorem exists_next? (h : NameAt src text c next) :
    ∃ ch, src.next? c.here = some ch ∧ (isNameMark ch = true ∨ ch = '\\') := by
  cases hn : src.next? c.here with
  | none =>
      have outside := h.whole
      simp [name?, next?_eq_none.mp hn] at outside
  | some ch =>
      refine ⟨ch, rfl, ?_⟩
      by_contra other
      rw [not_or, Bool.not_eq_true] at other
      exact absurd (h.whole.symm.trans (name?_eq_none hn (.inr other))) (by simp)

/-- Where a name stands, no mark of another kind does. -/
theorem clear (h : NameAt src text c next) {chars : List Char}
    (marks : ∀ ch ∈ chars, isNameMark ch = false ∧ ch ≠ '\\') : Clear chars src c.here := by
  obtain ⟨ch, hn, name⟩ := h.exists_next?
  refine .of_next hn fun member => ?_
  obtain ⟨noName, noEscape⟩ := marks ch member
  rcases name with name | escape
  · rw [noName] at name
    contradiction
  · exact noEscape escape

end NameAt

theorem MarkAt.next?_eq (h : MarkAt src text c next) (some : text ≠ "") :
    src.next? c.here = text.toList.head? :=
  next?_of_has some h.has

theorem MarkAt.mark (h : MarkAt src text c next) :
    Rule.mark text src c = some ([.leaf .mark c.here (c.here + text.length)], next) := by
  simp [Rule.mark, Rule.token, h.has, h.next_eq]

namespace StringAt

/-- A string starts with its quote. -/
theorem exists_next? (h : StringAt src text c next) :
    ∃ ch ∈ ['\x22', '\x27'], src.next? c.here = some ch := by
  obtain ⟨quote, member, found⟩ := h.quoted
  have opened := (has_append.mp (has_append.mp found).1).1
  rcases List.mem_pair.mp member with rfl | rfl
  · exact ⟨'\x22', by decide, next?_of_has (by decide) opened⟩
  · exact ⟨'\x27', by decide, next?_of_has (by decide) opened⟩

theorem clear (h : StringAt src text c next) {chars : List Char}
    (marks : '\x22' ∉ chars ∧ '\x27' ∉ chars) : Clear chars src c.here := by
  obtain ⟨ch, member, hn⟩ := h.exists_next?
  rcases List.mem_pair.mp member with rfl | rfl
  · exact .of_next hn marks.1
  · exact .of_next hn marks.2

theorem name?_eq_none (h : StringAt src text c next) : name? src c.here = none := by
  obtain ⟨ch, member, hn⟩ := h.exists_next?
  refine Script.name?_eq_none hn (.inr ?_)
  rcases List.mem_pair.mp member with rfl | rfl <;> decide

theorem string (h : StringAt src text c next) :
    Rule.string src c = some ([.leaf .word c.here (c.here + (text.length + 2))], next) := by
  simp [Rule.string, Rule.token, h.whole, h.next_eq]

theorem slice_eq (h : StringAt src text c next) :
    ∃ quote ∈ ["\x22", "\x27"],
      src.slice c.here (c.here + (text.length + 2)) = quote ++ text ++ quote := by
  obtain ⟨quote, member, found⟩ := h.quoted
  refine ⟨quote, member, ?_⟩
  have long : (quote ++ text ++ quote).length = text.length + 2 := by
    rcases List.mem_pair.mp member with rfl | rfl
    · rw [String.length_append, String.length_append, show "\x22".length = 1 from rfl]
      omega
    · rw [String.length_append, String.length_append, show "\x27".length = 1 from rfl]
      omega
  rw [← long]
  exact slice_of_has found

end StringAt

end CommitLens.Script
