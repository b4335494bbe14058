import CommitLens.Proofs.Json.Number
import Mathlib.Data.List.DropRight

/-!
# JSON text

The grammar of the standard as a relation between texts and values: strings with their
escapes, arrays and objects, and blanks around every token.  Main statements: the reader
accepts every text of the grammar and returns the value that it stands for, so a text stands
for one value at most.
-/

namespace CommitLens.Json

/-! ## Strings -/

/-- Escapes of one letter, and what they stand for. -/
def shortEscapes : List (Char × Char) :=
  [('\x22', '\x22'), ('\\', '\\'), ('/', '/'), ('b', '\x08'), ('f', '\x0c'), ('n', '\n'),
    ('r', '\r'), ('t', '\t')]

/-- Four hexadecimal digits and their value. -/
structure IsUnit (digits : List Char) (unit : Nat) : Prop where
  length : digits.length = 4
  digit : ∀ c ∈ digits, (Text.hexDigit? c).isSome = true
  value : Text.hexValue digits = unit

/-- A piece of a string and the character that it stands for. -/
inductive CharText : List Char → Char → Prop
  | plain {c : Char} (printable : 32 ≤ c.toNat) (quote : c ≠ '\x22') (slash : c ≠ '\\') :
      CharText [c] c
  | short {mark c : Char} (h : (mark, c) ∈ shortEscapes) : CharText ['\\', mark] c
  | unit {digits : List Char} {c : Char} (h : IsUnit digits c.toNat) :
      CharText ('\\' :: 'u' :: digits) c
  | pair {first second : List Char} {high low : Nat} {c : Char} (hh : IsUnit first high)
      (hl : IsUnit second low) (range : 0xd800 ≤ high ∧ high < 0xdc00)
      (other : 0xdc00 ≤ low ∧ low < 0xe000)
      (code : c.toNat = 0x10000 + (high - 0xd800) * 1024 + (low - 0xdc00)) :
      CharText ('\\' :: 'u' :: first ++ '\\' :: 'u' :: second) c

/-- A string between its quotes, piece by piece. -/
inductive StringText : List Char → String → Prop
  | pieces {pieces : List (List Char × Char)} (h : ∀ piece ∈ pieces, CharText piece.1 piece.2) :
      StringText ('\x22' :: (pieces.flatMap (·.1) ++ ['\x22'])) (String.ofList (pieces.map (·.2)))

section Strings

variable {digits text rest : List Char} {unit : Nat} {c : Char}

theorem readCodes_unit (h : IsUnit digits unit) (codes : List Nat) (more : List Char) :
    readCodes codes ('\\' :: 'u' :: (digits ++ more)) = readCodes (unit :: codes) more := by
  obtain ⟨length, digit, value⟩ := h
  match digits, length with
  | [a, b, d, e], _ =>
      have all : ([a, b, d, e].all fun x => (Text.hexDigit? x).isSome) = true :=
        List.all_eq_true.mpr digit
      simp only [List.cons_append, List.nil_append]
      rw [readCodes]
      simp [all, value]

/-- A character is no half of a pair. -/
theorem joinUnits_cons (c : Char) (codes : List Nat) :
    joinUnits (c.toNat :: codes) = c.toNat :: joinUnits codes := by
  have valid : c.toNat < 0xd800 ∨ 0xdfff < c.toNat := by
    rcases c.valid with h | h
    · exact .inl h
    · exact .inr h.1
  cases codes with
  | nil => rfl
  | cons low codes => rw [joinUnits, if_neg (by omega)]

/-- What a piece of a string is read as. -/
theorem CharText.codes (h : CharText text c) :
    ∃ units, (∀ known more, readCodes known (text ++ more) =
        readCodes (units.reverse ++ known) more) ∧
      ∀ codes, joinUnits (units ++ codes) = c.toNat :: joinUnits codes := by
  cases h with
  | plain printable quote slash =>
      refine ⟨[c.toNat], fun known more => ?_, joinUnits_cons c⟩
      rw [List.singleton_append, readCodes.eq_def]
      dsimp only
      rw [if_neg quote, if_neg slash, if_neg (by omega)]
      rfl
  | short h =>
      refine ⟨[c.toNat], fun known more => ?_, joinUnits_cons c⟩
      simp only [shortEscapes, List.mem_cons, Prod.mk.injEq, List.not_mem_nil, or_false] at h
      rcases h with ⟨rfl, rfl⟩ | ⟨rfl, rfl⟩ | ⟨rfl, rfl⟩ | ⟨rfl, rfl⟩ | ⟨rfl, rfl⟩ | ⟨rfl, rfl⟩ |
        ⟨rfl, rfl⟩ | ⟨rfl, rfl⟩ <;> rfl
  | unit h =>
      refine ⟨[c.toNat], fun known more => ?_, joinUnits_cons c⟩
      exact readCodes_unit h known more
  | @pair first second high low _ hh hl range other code =>
      refine ⟨[high, low], fun known more => ?_, fun codes => ?_⟩
      · have apart : ('\\' :: 'u' :: first ++ '\\' :: 'u' :: second) ++ more =
            '\\' :: 'u' :: (first ++ ('\\' :: 'u' :: (second ++ more))) := by simp
        rw [apart, readCodes_unit hh, readCodes_unit hl]
        rfl
      · show joinUnits (high :: low :: codes) = _
        rw [joinUnits, if_pos ⟨range.1, range.2, other.1, other.2⟩, code]

theorem readCodes_pieces {pieces : List (List Char × Char)}
    (h : ∀ piece ∈ pieces, CharText piece.1 piece.2) :
    ∃ units, (∀ known more, readCodes known (pieces.flatMap (·.1) ++ more) =
        readCodes (units.reverse ++ known) more) ∧
      joinUnits units = pieces.map (·.2.toNat) := by
  induction pieces with
  | nil => exact ⟨[], fun _ _ => rfl, rfl⟩
  | cons piece pieces ih =>
      rw [List.forall_mem_cons] at h
      obtain ⟨units, read, joined⟩ := h.1.codes
      obtain ⟨others, readOthers, joinedOthers⟩ := ih h.2
      refine ⟨units ++ others, fun known more => ?_, ?_⟩
      · rw [List.flatMap_cons, List.append_assoc, read, readOthers, List.reverse_append,
          List.append_assoc]
      · rw [joined, joinedOthers, List.map_cons]

/-- A string is read up to its closing quote. -/
theorem readString_text {s : String} (h : StringText text s) (rest : List Char) :
    ∃ body, text = '\x22' :: body ∧ readString (body ++ rest) = some (s, rest) := by
  cases h with
  | pieces h =>
      obtain ⟨units, read, joined⟩ := readCodes_pieces h
      refine ⟨_, rfl, ?_⟩
      unfold readString
      have closed : readCodes (units.reverse ++ []) (['\x22'] ++ rest) = some (units, rest) := by
        rw [List.append_nil, List.singleton_append, readCodes.eq_def]
        dsimp only
        rw [if_pos rfl, List.reverse_reverse]
      rw [List.append_assoc, read, closed]
      simp [joined, Function.comp_def]

end Strings

/-! ## Values -/

def Blank (text : List Char) : Prop :=
  ∀ c ∈ text, isSpace c = true

/-- The parts of a member of an object: its name, a colon, its value. -/
structure MemberText where
  before : List Char
  quoted : List Char
  between : List Char
  name : String
  valueText : List Char
  value : Value

def MemberText.text (member : MemberText) : List Char :=
  member.before ++ (member.quoted ++ (member.between ++ ':' :: member.valueText))

structure MemberText.WellFormed (member : MemberText) : Prop where
  before : Blank member.before
  quoted : StringText member.quoted member.name
  between : Blank member.between

/-- Texts with commas between them. -/
def separated (texts : List (List Char)) : List Char :=
  [','].intercalate texts

/-- A text and the value that it stands for. -/
inductive Denotes : List Char → Value → Prop
  | null : Denotes "null".toList .null
  | bool (b : Bool) : Denotes (if b then "true" else "false").toList (.bool b)
  | number {text : List Char} {n : Number Float} (h : NumberText text n) : Denotes text (.number n)
  | string {text : List Char} {s : String} (h : StringText text s) : Denotes text (.text s)
  | array {items : List (List Char × Value)} {last : List Char} (hl : Blank last)
      (h : ∀ item ∈ items, Denotes item.1 item.2) :
      Denotes ('[' :: (separated (items.map (·.1)) ++ (last ++ [']']))) (.array (items.map (·.2)))
  | object {members : List MemberText} {last : List Char} (hl : Blank last)
      (names : ∀ member ∈ members, member.WellFormed)
      (h : ∀ member ∈ members, Denotes member.valueText member.value) :
      Denotes ('\x7b' :: (separated (members.map (·.text)) ++ (last ++ ['\x7d'])))
        (.object (members.map fun member => (member.name, member.value)))
  | spaced {before text after : List Char} {value : Value} (hb : Blank before) (ha : Blank after)
      (h : Denotes text value) : Denotes (before ++ (text ++ after)) value

section Values

variable {text rest blank last : List Char} {value : Value} {fuel : Nat}

/-! ### Blanks -/

theorem skipSpace_append (h : Blank blank) (rest : List Char) :
    skipSpace (blank ++ rest) = skipSpace rest :=
  List.dropWhile_append_of_pos h

theorem skipSpace_cons {c : Char} (h : isSpace c = false) (rest : List Char) :
    skipSpace (c :: rest) = c :: rest := by
  simp [skipSpace, h]

theorem skipSpace_skipSpace (cs : List Char) : skipSpace (skipSpace cs) = skipSpace cs :=
  List.dropWhile_idempotent _ cs

theorem readValue_skipSpace (fuel : Nat) (cs : List Char) :
    readValue fuel (skipSpace cs) = readValue fuel cs := by
  cases fuel with
  | zero => rw [readValue, readValue]
  | succ fuel => rw [readValue, readValue, skipSpace_skipSpace]

theorem readItems_skipSpace (fuel : Nat) (items : List Value) (cs : List Char) :
    readItems fuel items (skipSpace cs) = readItems fuel items cs := by
  cases fuel with
  | zero => rw [readItems, readItems]
  | succ fuel => rw [readItems, readItems, readValue_skipSpace]

theorem readMembers_skipSpace (fuel : Nat) (members : List (String × Value)) (cs : List Char) :
    readMembers fuel members (skipSpace cs) = readMembers fuel members cs := by
  cases fuel with
  | zero => rw [readMembers, readMembers]
  | succ fuel => rw [readMembers, readMembers, skipSpace_skipSpace]

/-! ### First characters -/

theorem NumberText.exists_cons {n : Number Float} (h : NumberText text n) :
    ∃ c tail, text = c :: tail ∧ isNumberChar c = true := by
  have some : text ≠ [] := by
    cases h with
    | whole negative hd => simp [hd.ne_nil]
    | real negative hd => simp [hd.ne_nil]
  obtain ⟨c, tail, rfl⟩ := List.exists_cons_of_ne_nil some
  exact ⟨c, tail, rfl, isNumberChar_of_numberText h c List.mem_cons_self⟩

/-- Characters of numbers start no other value. -/
theorem ne_of_isNumberChar {c d : Char} (h : isNumberChar c = true) (hd : isNumberChar d = false) :
    c ≠ d := by
  rintro rfl
  rw [h] at hd
  contradiction

theorem isSpace_of_isNumberChar {c : Char} (h : isNumberChar c = true) : isSpace c = false := by
  simp [isSpace, ne_of_isNumberChar h (d := ' ') rfl, ne_of_isNumberChar h (d := '\n') rfl,
    ne_of_isNumberChar h (d := '\r') rfl, ne_of_isNumberChar h (d := '\t') rfl]

/-- The first token of a value closes no array. -/
theorem Denotes.opening (h : Denotes text value) :
    ∃ blank c tail, text = blank ++ c :: tail ∧ Blank blank ∧ isSpace c = false ∧ c ≠ ']' := by
  have bare {c : Char} {tail : List Char} (space : isSpace c = false) (ne : c ≠ ']') :
      ∃ blank d rest, c :: tail = blank ++ d :: rest ∧ Blank blank ∧ isSpace d = false ∧ d ≠ ']' :=
    ⟨[], c, tail, rfl, by simp [Blank], space, ne⟩
  induction h with
  | null => exact bare rfl (by decide)
  | bool b => cases b <;> exact bare rfl (by decide)
  | number h =>
      obtain ⟨c, tail, rfl, hc⟩ := h.exists_cons
      exact bare (isSpace_of_isNumberChar hc) (ne_of_isNumberChar hc rfl)
  | string h => cases h; exact bare rfl (by decide)
  | array | object => exact bare rfl (by decide)
  | @spaced before text after value hb ha h ih =>
      obtain ⟨blank, c, tail, rfl, hblank, hc, ne⟩ := ih
      refine ⟨before ++ blank, c, tail ++ after, by simp, ?_, hc, ne⟩
      exact List.forall_mem_append.mpr ⟨hb, hblank⟩

theorem Denotes.skipSpace_ne (h : Denotes text value) (rest more : List Char) :
    skipSpace (text ++ rest) ≠ ']' :: more := by
  obtain ⟨blank, c, tail, rfl, hblank, hc, ne⟩ := h.opening
  rw [List.append_assoc, skipSpace_append hblank, List.cons_append, skipSpace_cons hc]
  exact fun same => ne (List.cons.inj same).1

/-! ### Reading -/

/-- What may follow a value: nothing that continues a number. -/
def Ends (rest : List Char) : Prop :=
  ∀ c ∈ rest.head?, isNumberChar c = false

/-- The text is read as the value up to blanks, with enough fuel and whatever follows. -/
def ReadsAs (text : List Char) (value : Value) : Prop :=
  ∀ fuel rest, text.length < fuel → Ends rest →
    ∃ blank, Blank blank ∧ readValue fuel (text ++ rest) = some (value, blank ++ rest)

theorem Ends.append (h : Ends rest) (hb : Blank blank) : Ends (blank ++ rest) := by
  cases blank with
  | nil => exact h
  | cons c blank =>
      intro d hd
      obtain rfl : c = d := by simpa using hd
      by_contra number
      have space := isSpace_of_isNumberChar (by simpa using number)
      rw [hb c List.mem_cons_self] at space
      contradiction

theorem ReadsAs.of_exact (h : ∀ fuel rest, text.length < fuel + 1 → Ends rest →
    readValue (fuel + 1) (text ++ rest) = some (value, rest)) : ReadsAs text value := by
  intro fuel rest hf hr
  obtain ⟨fuel, rfl⟩ : ∃ k, fuel = k + 1 := ⟨fuel - 1, by omega⟩
  exact ⟨[], by simp [Blank], h fuel rest hf hr⟩

theorem ReadsAs.spaced {before after : List Char} (h : ReadsAs text value) (hb : Blank before)
    (ha : Blank after) : ReadsAs (before ++ (text ++ after)) value := by
  intro fuel rest hf hr
  simp only [List.length_append] at hf
  obtain ⟨blank, hblank, read⟩ := h fuel (after ++ rest) (by omega) (hr.append ha)
  refine ⟨blank ++ after, List.forall_mem_append.mpr ⟨hblank, ha⟩, ?_⟩
  have skipped : readValue fuel (before ++ (text ++ after) ++ rest) =
      readValue fuel (text ++ (after ++ rest)) := by
    rw [← readValue_skipSpace, List.append_assoc, skipSpace_append hb, List.append_assoc,
      readValue_skipSpace]
  rw [skipped, read, List.append_assoc]

theorem readsAs_number {n : Number Float} (h : NumberText text n) : ReadsAs text (.number n) := by
  refine .of_exact fun fuel rest _ hr => ?_
  have read := readNumber_text h hr
  obtain ⟨c, tail, rfl, hc⟩ := h.exists_cons
  have no {d : Char} {cs ds : List Char} (hd : isNumberChar d = false) : c :: cs ≠ d :: ds :=
    fun same => ne_of_isNumberChar hc hd (List.cons.inj same).1
  rw [readValue, List.cons_append, skipSpace_cons (isSpace_of_isNumberChar hc)]
  split
  · exact absurd ‹_› (no rfl)
  · exact absurd ‹_› (no rfl)
  · exact absurd ‹_› (no rfl)
  · exact absurd ‹_› (no rfl)
  · exact absurd ‹_› (no rfl)
  · exact absurd ‹_› (no rfl)
  · exact read

theorem readsAs_string {s : String} (h : StringText text s) : ReadsAs text (.text s) := by
  refine .of_exact fun fuel rest _ _ => ?_
  obtain ⟨body, rfl, read⟩ := readString_text h rest
  rw [readValue, List.cons_append, skipSpace_cons rfl]
  simp [read]

/-! ### Arrays -/

theorem readValue_bracket (fuel : Nat) (rest : List Char) :
    readValue (fuel + 1) ('[' :: rest) =
      match skipSpace rest with
      | ']' :: more => some (.array [], more)
      | more => readItems fuel [] more := by
  rw [readValue, skipSpace_cons rfl]
  rfl

theorem separated_cons (first : List Char) {more : List (List Char)} (h : more ≠ []) :
    separated (first :: more) = first ++ ',' :: separated more := by
  obtain ⟨second, rest, rfl⟩ := List.exists_cons_of_ne_nil h
  simp [separated, List.intercalate]

theorem separated_nil : separated [] = [] := rfl

theorem separated_singleton (text : List Char) : separated [text] = text := by
  simp [separated, List.intercalate]

theorem separated_map_cons {α : Type} (text : α → List Char) (first : α) (more : List α) :
    ∃ after, separated ((first :: more).map text) = text first ++ after := by
  cases more with
  | nil => exact ⟨[], by rw [List.map_singleton, separated_singleton, List.append_nil]⟩
  | cons => exact ⟨_, separated_cons _ (by simp)⟩

/-- The items of an array are read one by one. -/
theorem readItems_separated {items : List (List Char × Value)} (some : items ≠ [])
    (h : ∀ item ∈ items, ReadsAs item.1 item.2) (hl : Blank last) (fuel : Nat) (known : List Value)
    (rest : List Char) (hf : (separated (items.map (·.1))).length + 1 < fuel) :
    readItems fuel known (separated (items.map (·.1)) ++ (last ++ ']' :: rest)) =
      Option.some (.array (known.reverse ++ items.map (·.2)), rest) := by
  induction items generalizing fuel known with
  | nil => contradiction
  | cons item items ih =>
      rw [List.forall_mem_cons] at h
      obtain ⟨fuel, rfl⟩ : ∃ k, fuel = k + 1 := ⟨fuel - 1, by omega⟩
      by_cases more : items = []
      · subst more
        simp only [List.map_cons, List.map_nil, separated_singleton] at hf ⊢
        have ends : Ends (last ++ ']' :: rest) := Ends.append (by simp [Ends, isNumberChar]) hl
        obtain ⟨blank, hb, read⟩ := h.1 fuel _ (by omega) ends
        rw [readItems, read]
        dsimp only
        rw [skipSpace_append hb, skipSpace_append hl, skipSpace_cons rfl]
        simp
      · have others : items.map (·.1) ≠ [] := by simpa using more
        rw [List.map_cons, separated_cons _ others] at hf ⊢
        simp only [List.length_append, List.length_cons] at hf
        obtain ⟨blank, hb, read⟩ :=
          h.1 fuel (',' :: (separated (items.map (·.1)) ++ (last ++ ']' :: rest))) (by omega)
            (by simp [Ends, isNumberChar])
        rw [readItems, List.append_assoc, List.cons_append, read]
        dsimp only
        rw [skipSpace_append hb, skipSpace_cons rfl]
        show readItems fuel (item.2 :: known)
          (separated (items.map (·.1)) ++ (last ++ ']' :: rest)) = _
        rw [ih more h.2 fuel _ (by omega)]
        simp

theorem readsAs_array {items : List (List Char × Value)} (hl : Blank last)
    (hd : ∀ item ∈ items, Denotes item.1 item.2) (h : ∀ item ∈ items, ReadsAs item.1 item.2) :
    ReadsAs ('[' :: (separated (items.map (·.1)) ++ (last ++ [']'])))
      (.array (items.map (·.2))) := by
  refine .of_exact fun fuel rest hf _ => ?_
  simp only [List.length_cons, List.length_append, List.length_nil] at hf
  simp only [List.cons_append, List.append_assoc, List.nil_append]
  rw [readValue_bracket]
  by_cases none : items = []
  · subst none
    have closed : skipSpace (separated [] ++ (last ++ ']' :: rest)) = ']' :: rest := by
      rw [separated_nil, List.nil_append, skipSpace_append hl, skipSpace_cons rfl]
    rw [List.map_nil, closed]
    rfl
  have opened (more : List Char) :
      skipSpace (separated (items.map (·.1)) ++ (last ++ ']' :: rest)) ≠ ']' :: more := by
    obtain ⟨first, others, rfl⟩ := List.exists_cons_of_ne_nil none
    obtain ⟨after, same⟩ := separated_map_cons (·.1) first others
    rw [same, List.append_assoc]
    exact (List.forall_mem_cons.mp hd).1.skipSpace_ne _ _
  split
  · exact absurd ‹_› (opened _)
  · rw [readItems_skipSpace, readItems_separated none h hl _ _ _ (by omega)]
    rfl

/-! ### Objects -/

theorem readValue_brace (fuel : Nat) (rest : List Char) :
    readValue (fuel + 1) ('\x7b' :: rest) =
      match skipSpace rest with
      | '\x7d' :: more => some (.object [], more)
      | more => readMembers fuel [] more := by
  rw [readValue, skipSpace_cons rfl]
  rfl

/-- How reading goes on behind a member, the known ones last one first. -/
def readAfter (fuel : Nat) (known : List (String × Value)) (rest : List Char) :
    Option (Value × List Char) :=
  match skipSpace rest with
  | ',' :: more => readMembers fuel known more
  | '\x7d' :: more => some (.object known.reverse, more)
  | _ => none

/-- One member is read, and what follows it decides how to go on. -/
theorem readMembers_text {member : MemberText} (hw : member.WellFormed)
    (hv : ReadsAs member.valueText member.value) (known : List (String × Value))
    (hf : member.valueText.length < fuel) (hr : Ends rest) :
    readMembers (fuel + 1) known (member.text ++ rest) =
      readAfter fuel ((member.name, member.value) :: known) rest := by
  have parts : member.text ++ rest = member.before ++ (member.quoted ++
      (member.between ++ ':' :: (member.valueText ++ rest))) := by simp [MemberText.text]
  obtain ⟨body, quoted, readName⟩ :=
    readString_text hw.quoted (member.between ++ ':' :: (member.valueText ++ rest))
  obtain ⟨blank, hb, read⟩ := hv fuel rest hf hr
  rw [readMembers, parts, skipSpace_append hw.before, quoted, List.cons_append, skipSpace_cons rfl]
  simp only [readName, skipSpace_append hw.between, skipSpace_cons (c := ':') rfl, read,
    skipSpace_append hb]
  rfl

theorem length_valueText_lt (member : MemberText) :
    member.valueText.length < member.text.length := by
  simp only [MemberText.text, List.length_append, List.length_cons]
  omega

/-- The members of an object are read one by one. -/
theorem readMembers_separated {members : List MemberText} (some : members ≠ [])
    (hw : ∀ member ∈ members, member.WellFormed)
    (h : ∀ member ∈ members, ReadsAs member.valueText member.value) (hl : Blank last) (fuel : Nat)
    (known : List (String × Value)) (rest : List Char)
    (hf : (separated (members.map (·.text))).length + 1 < fuel) :
    readMembers fuel known (separated (members.map (·.text)) ++ (last ++ '\x7d' :: rest)) =
      Option.some (.object (known.reverse ++ members.map fun member => (member.name, member.value)),
        rest) := by
  induction members generalizing fuel known with
  | nil => contradiction
  | cons member members ih =>
      rw [List.forall_mem_cons] at h hw
      obtain ⟨fuel, rfl⟩ : ∃ k, fuel = k + 1 := ⟨fuel - 1, by omega⟩
      have len := length_valueText_lt member
      by_cases more : members = []
      · subst more
        simp only [List.map_cons, List.map_nil, separated_singleton] at hf ⊢
        have ends : Ends (last ++ '\x7d' :: rest) := Ends.append (by simp [Ends, isNumberChar]) hl
        rw [readMembers_text hw.1 h.1 known (by omega) ends, readAfter, skipSpace_append hl,
          skipSpace_cons rfl]
        simp
      · have others : members.map (·.text) ≠ [] := by simpa using more
        rw [List.map_cons, separated_cons _ others] at hf ⊢
        simp only [List.length_append, List.length_cons] at hf
        rw [List.append_assoc, List.cons_append, readMembers_text hw.1 h.1 known (by omega)
          (by simp [Ends, isNumberChar]), readAfter, skipSpace_cons rfl]
        show readMembers fuel ((member.name, member.value) :: known)
          (separated (members.map (·.text)) ++ (last ++ '\x7d' :: rest)) = _
        rw [ih more hw.2 h.2 fuel _ (by omega)]
        simp

theorem readsAs_object {members : List MemberText} (hl : Blank last)
    (hw : ∀ member ∈ members, member.WellFormed)
    (h : ∀ member ∈ members, ReadsAs member.valueText member.value) :
    ReadsAs ('\x7b' :: (separated (members.map (·.text)) ++ (last ++ ['\x7d'])))
      (.object (members.map fun member => (member.name, member.value))) := by
  refine .of_exact fun fuel rest hf _ => ?_
  simp only [List.length_cons, List.length_append, List.length_nil] at hf
  simp only [List.cons_append, List.append_assoc, List.nil_append]
  rw [readValue_brace]
  by_cases none : members = []
  · subst none
    have closed : skipSpace (separated [] ++ (last ++ '\x7d' :: rest)) = '\x7d' :: rest := by
      rw [separated_nil, List.nil_append, skipSpace_append hl, skipSpace_cons rfl]
    rw [List.map_nil, closed]
    rfl
  have opened (more : List Char) :
      skipSpace (separated (members.map (·.text)) ++ (last ++ '\x7d' :: rest)) ≠ '\x7d' :: more := by
    obtain ⟨first, others, rfl⟩ := List.exists_cons_of_ne_nil none
    obtain ⟨after, same⟩ := separated_map_cons MemberText.text first others
    have formed := hw first List.mem_cons_self
    obtain ⟨body, quoted, -⟩ := readString_text formed.quoted []
    rw [same, List.append_assoc, MemberText.text, List.append_assoc, skipSpace_append formed.before,
      quoted]
    simp only [List.cons_append]
    rw [skipSpace_cons rfl]
    simp
  split
  · exact absurd ‹_› (opened _)
  · rw [readMembers_skipSpace, readMembers_separated none hw h hl _ _ _ (by omega)]
    rfl

/-! ### Whole texts -/

theorem readsAs_word {word : String} (c : Char) (tail : List Char) (hw : word.toList = c :: tail)
    (h : ∀ fuel rest, readValue (fuel + 1) (c :: rest) = expect word value (c :: rest)) :
    ReadsAs word.toList value := by
  refine .of_exact fun fuel rest _ _ => ?_
  rw [hw, List.cons_append, h, expect, hw]
  have front : (c :: tail).isPrefixOf (c :: (tail ++ rest)) = true :=
    List.isPrefixOf_iff_prefix.mpr ⟨rest, rfl⟩
  have len : word.length = (c :: tail).length := by rw [← hw, String.length_toList]
  rw [if_pos front, len, ← List.cons_append, List.drop_left]

/-- Every text of the grammar is read as the value that it stands for. -/
theorem Denotes.readsAs (h : Denotes text value) : ReadsAs text value := by
  induction h with
  | null => exact readsAs_word 'n' _ rfl fun fuel rest => by rw [readValue, skipSpace_cons rfl]; rfl
  | bool b =>
      cases b
      · exact readsAs_word 'f' _ rfl fun fuel rest => by rw [readValue, skipSpace_cons rfl]; rfl
      · exact readsAs_word 't' _ rfl fun fuel rest => by rw [readValue, skipSpace_cons rfl]; rfl
  | number h => exact readsAs_number h
  | string h => exact readsAs_string h
  | array hl hd ih => exact readsAs_array hl hd ih
  | object hl hw _ ih => exact readsAs_object hl hw ih
  | spaced hb ha _ ih => exact ih.spaced hb ha

theorem Denotes.parse? {text : String} (h : Denotes text.toList value) :
    parse? text = some value := by
  have enough : text.toList.length < text.length + 1 := by
    rw [String.length_toList]
    omega
  obtain ⟨blank, hb, read⟩ := h.readsAs (text.length + 1) [] enough (by simp [Ends])
  have nothing : skipSpace (blank ++ []) = [] := skipSpace_append hb []
  rw [List.append_nil] at read
  unfold Json.parse?
  rw [read]
  dsimp only
  rw [nothing]
  rfl

/-- A text stands for one value at most. -/
theorem Denotes.unique {other : Value} (h : Denotes text value) (ho : Denotes text other) :
    value = other := by
  have read {found : Value} (hf : Denotes text found) :
      Json.parse? (String.ofList text) = some found :=
    Denotes.parse? (by rwa [String.toList_ofList])
  exact Option.some.inj ((read h).symm.trans (read ho))

end Values

end CommitLens.Json
