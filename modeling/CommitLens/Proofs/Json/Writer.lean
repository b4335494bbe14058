import CommitLens.Proofs.Json.Grammar

/-!
# Writing JSON text

Main statement: what is written for a value is a text of the grammar that stands for that
value, on one line or over several, as long as its numbers are finite.
-/

namespace CommitLens.Json

/-! ## Characters -/

theorem hexDigit?_hexChar {n : Nat} (h : n < 16) : Text.hexDigit? (hexChar n) = some n := by
  revert h n
  decide

/-- The digits of a 16 bit unit. -/
def unitDigits (unit : Nat) : List Char :=
  [hexChar (unit / 4096 % 16), hexChar (unit / 256 % 16), hexChar (unit / 16 % 16),
    hexChar (unit % 16)]

theorem isUnit_unitDigits {unit : Nat} (h : unit < 0x10000) : IsUnit (unitDigits unit) unit where
  length := rfl
  digit := by
    have digit (n : Nat) : (Text.hexDigit? (hexChar (n % 16))).isSome = true := by
      rw [hexDigit?_hexChar (Nat.mod_lt n (by decide))]
      rfl
    simp only [unitDigits, List.forall_mem_cons, List.not_mem_nil, false_implies, implies_true,
      and_true]
    exact ⟨digit _, digit _, digit _, digit _⟩
  value := by
    have digit (n : Nat) : Text.hexDigit? (hexChar (n % 16)) = some (n % 16) :=
      hexDigit?_hexChar (Nat.mod_lt n (by decide))
    simp only [unitDigits, Text.hexValue, List.foldl_cons, List.foldl_nil, digit]
    omega

theorem toNat_lt (c : Char) : c.toNat < 0x110000 := by
  have valid : c.toNat < 0xd800 ∨ 0xdfff < c.toNat ∧ c.toNat < 0x110000 := c.valid
  omega

/-- Above `ffff` a character is written as a pair of units. -/
theorem charText_pair {c : Char} (h : 0x10000 ≤ c.toNat) :
    CharText (unitEscape (surrogatePair c.toNat).1 ++ unitEscape (surrogatePair c.toNat).2) c := by
  have limit := toNat_lt c
  obtain ⟨high, hh⟩ : ∃ high, (surrogatePair c.toNat).1 = high := ⟨_, rfl⟩
  obtain ⟨low, hl⟩ : ∃ low, (surrogatePair c.toNat).2 = low := ⟨_, rfl⟩
  rw [hh, hl]
  dsimp only [surrogatePair] at hh hl
  exact .pair (isUnit_unitDigits (by omega)) (isUnit_unitDigits (by omega)) (by omega) (by omega)
    (by omega)

theorem charText_escapeChar (c : Char) : CharText (escapeChar c) c := by
  by_cases short : c ∈ shortEscapes.map (·.2) ∧ c ≠ '/'
  · simp only [shortEscapes, List.map_cons, List.map_nil, List.mem_cons, List.not_mem_nil,
      or_false] at short
    obtain ⟨rfl | rfl | rfl | rfl | rfl | rfl | rfl | rfl, ne⟩ := short
    case inr.inr.inl => contradiction
    all_goals exact .short (by decide)
  · have others : c ≠ '\x22' ∧ c ≠ '\\' ∧ c ≠ '\n' ∧ c ≠ '\r' ∧ c ≠ '\t' ∧ c ≠ '\x08' ∧
        c ≠ '\x0c' := by
      refine ⟨?_, ?_, ?_, ?_, ?_, ?_, ?_⟩ <;> rintro rfl <;> exact short (by decide)
    obtain ⟨quote, slash, feed, carriage, tab, back, form⟩ := others
    rw [escapeChar, if_neg quote, if_neg slash, if_neg feed, if_neg carriage, if_neg tab,
      if_neg back, if_neg form]
    by_cases printable : 32 ≤ c.toNat ∧ c.toNat < 127
    · rw [if_pos printable]
      exact .plain printable.1 quote slash
    · rw [if_neg printable]
      by_cases small : c.toNat < 0x10000
      · rw [if_pos small]
        exact .unit (isUnit_unitDigits small)
      · rw [if_neg small]
        exact charText_pair (by omega)

theorem stringText_quoted (s : String) : StringText (quoted s).toList s := by
  have pieces : ∀ piece ∈ s.toList.map fun c => (escapeChar c, c), CharText piece.1 piece.2 :=
    List.forall_mem_map.mpr fun c _ => charText_escapeChar c
  simpa [quoted, List.flatMap_map, Function.comp_def] using StringText.pieces pieces

/-! ## Brackets -/

section Brackets

variable (spacing : Spacing) (level : Nat)

theorem blank_break : Blank (spacing.break level).toList := by
  unfold Spacing.break
  cases spacing.indent with
  | none => simp [Blank]
  | some width => simp +contextual [Blank, isSpace]

/-- A colon and blanks. -/
theorem exists_colon : ∃ blank, spacing.colon.toList = ':' :: blank ∧ Blank blank := by
  unfold Spacing.colon
  split
  · exact ⟨[' '], rfl, by simp [Blank, isSpace]⟩
  · exact ⟨[], rfl, by simp [Blank]⟩

/-- What stands at the front of every text stands behind every comma. -/
theorem separated_map_append (front : List Char) {texts : List (List Char)} (some : texts ≠ []) :
    separated (texts.map (front ++ ·)) = front ++ (',' :: front).intercalate texts := by
  induction texts with
  | nil => contradiction
  | cons text texts ih =>
      by_cases more : texts = []
      · subst more
        simp [separated, List.intercalate]
      · obtain ⟨second, rest, rfl⟩ := List.exists_cons_of_ne_nil more
        rw [List.map_cons, separated_cons _ (by simp), ih more]
        simp [List.intercalate]

/-- The break before the closing bracket, if there is one. -/
def lastBreak (items : List String) : List Char :=
  if items.isEmpty then [] else (spacing.break level).toList

theorem blank_lastBreak (items : List String) : Blank (lastBreak spacing level items) := by
  unfold lastBreak
  split
  · simp [Blank]
  · exact blank_break spacing level

theorem toList_bracketed (opening closing : String) (items : List String) :
    (bracketed spacing level opening closing items).toList =
      opening.toList ++
        (separated (items.map fun item => (spacing.break (level + 1)).toList ++ item.toList) ++
          (lastBreak spacing level items ++ closing.toList)) := by
  cases items with
  | nil => simp [bracketed, lastBreak, separated_nil]
  | cons first rest =>
      have apart :
          (first :: rest).map (fun item => (spacing.break (level + 1)).toList ++ item.toList) =
          ((first :: rest).map String.toList).map ((spacing.break (level + 1)).toList ++ ·) := by
        rw [List.map_map]
        rfl
      rw [apart, separated_map_append _ (by simp)]
      simp [bracketed, lastBreak, String.toList_intercalate]

end Brackets

/-! ## Values -/

/-- Are all numbers in a value finite? -/
inductive Value.AllFinite : Value → Prop
  | null : AllFinite .null
  | bool (b : Bool) : AllFinite (.bool b)
  | number {n : Number Float} (h : n.IsFinite) : AllFinite (.number n)
  | text (s : String) : AllFinite (.text s)
  | array {items : List Value} (h : ∀ item ∈ items, AllFinite item) : AllFinite (.array items)
  | object {members : List (String × Value)} (h : ∀ member ∈ members, AllFinite member.2) :
      AllFinite (.object members)

namespace Value

@[simp] theorem allFinite_array {items : List Value} :
    AllFinite (.array items) ↔ ∀ item ∈ items, AllFinite item :=
  ⟨fun h => by cases h; assumption, .array⟩

@[simp] theorem allFinite_object {members : List (String × Value)} :
    AllFinite (.object members) ↔ ∀ member ∈ members, AllFinite member.2 :=
  ⟨fun h => by cases h; assumption, .object⟩

@[simp] theorem allFinite_number {n : Number Float} : AllFinite (.number n) ↔ n.IsFinite :=
  ⟨fun h => by cases h; assumption, .number⟩

@[simp] theorem allFinite_whole (n : Int) : AllFinite (.whole n) :=
  .number trivial

@[simp] theorem allFinite_real {x : Float} : AllFinite (.real x) ↔ x.isFinite = true :=
  allFinite_number

attribute [simp] AllFinite.bool AllFinite.text

@[simp] theorem allFinite_texts (items : List String) : AllFinite (.texts items) := by
  simp [texts]

@[simp] theorem allFinite_optionalText (text? : Option String) :
    AllFinite (.optionalText text?) := by
  cases text? with
  | none => exact .null
  | some s => exact .text s

end Value

section Values

variable (spacing : Spacing)

theorem writeItems_eq (level : Nat) (items : List Value) :
    writeItems spacing level items = items.map (write spacing level) := by
  induction items with
  | nil => rw [writeItems]; rfl
  | cons item rest ih => rw [writeItems, ih, List.map_cons]

theorem writeMembers_eq (level : Nat) (members : List (String × Value)) :
    writeMembers spacing level members = members.map fun member =>
      quoted member.1 ++ spacing.colon ++ write spacing level member.2 := by
  induction members with
  | nil => rw [writeMembers]; rfl
  | cons member rest ih => rw [writeMembers, ih, List.map_cons]

theorem denotes_array {items : List Value} {level : Nat}
    (h : ∀ item ∈ items, Denotes (write spacing (level + 1) item).toList item) :
    Denotes (write spacing level (.array items)).toList (.array items) := by
  let text (item : Value) : List Char :=
    (spacing.break (level + 1)).toList ++ ((write spacing (level + 1) item).toList ++ [])
  have each : ∀ entry ∈ items.map fun item => (text item, item), Denotes entry.1 entry.2 :=
    List.forall_mem_map.mpr fun item hi =>
      .spaced (blank_break spacing (level + 1)) (by simp [Blank]) (h item hi)
  have denotes := Denotes.array
    (blank_lastBreak spacing level (writeItems spacing (level + 1) items)) each
  rw [write, toList_bracketed, writeItems_eq]
  simpa [text, Function.comp_def, writeItems_eq] using denotes

theorem denotes_object {members : List (String × Value)} {level : Nat}
    (h : ∀ member ∈ members, Denotes (write spacing (level + 1) member.2).toList member.2) :
    Denotes (write spacing level (.object members)).toList (.object members) := by
  obtain ⟨blank, colon, hb⟩ := exists_colon spacing
  let text (member : String × Value) : MemberText :=
    { before := (spacing.break (level + 1)).toList
      quoted := (quoted member.1).toList
      between := []
      name := member.1
      valueText := blank ++ ((write spacing (level + 1) member.2).toList ++ [])
      value := member.2 }
  have formed : ∀ member ∈ members.map text, member.WellFormed :=
    List.forall_mem_map.mpr fun member _ =>
      { before := blank_break spacing (level + 1)
        quoted := by simpa only [text] using stringText_quoted member.1
        between := by simp [text, Blank] }
  have values : ∀ member ∈ members.map text, Denotes member.valueText member.value :=
    List.forall_mem_map.mpr fun member hm => .spaced hb (by simp [Blank]) (h member hm)
  have denotes := Denotes.object
    (blank_lastBreak spacing level (writeMembers spacing (level + 1) members)) formed values
  rw [write, toList_bracketed, writeMembers_eq]
  simpa [text, MemberText.text, Function.comp_def, writeMembers_eq, colon] using denotes

/-- What is written for a value stands for it. -/
theorem denotes_write {value : Value} (h : value.AllFinite) (level : Nat) :
    Denotes (write spacing level value).toList value := by
  induction h generalizing level with
  | null => rw [write]; exact .null
  | bool b => rw [write]; exact .bool b
  | number h => rw [write]; exact .number (numberText_numberText h)
  | text s => rw [write]; exact .string (stringText_quoted s)
  | array _ ih => exact denotes_array spacing fun item hi => ih item hi (level + 1)
  | object _ ih => exact denotes_object spacing fun member hm => ih member hm (level + 1)

end Values

end CommitLens.Json
