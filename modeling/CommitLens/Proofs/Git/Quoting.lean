import CommitLens.Proofs.Git.Listing

/-!
# Control characters in paths

Git writes a path with quotes, backslashes or control characters between quotes.  Quotes and
backslashes then stand behind a backslash, and so do the letter or the three octal digits that
a control character is written with.  Only the backslashes of the former are taken away again.
Main statement: a path is read with its control characters as they were written, so as it was
exactly if it has none.
-/

namespace CommitLens.Git

/-- The control characters of ASCII. -/
def isControl (c : Char) : Bool :=
  c.toNat < 32 || c.toNat == 127

/-- The letter for a control character, if it has one. -/
def controlLetter? : Char → Option Char
  | '\x07' => some 'a'
  | '\x08' => some 'b'
  | '\t' => some 't'
  | '\n' => some 'n'
  | '\x0b' => some 'v'
  | '\x0c' => some 'f'
  | '\r' => some 'r'
  | _ => none

/-- The three digits of a code below 512. -/
def octalDigits (code : Nat) : List Char :=
  [code / 64, code / 8 % 8, code % 8].map Nat.digitChar

/-- What stands behind the backslash for a control character. -/
def controlCode (c : Char) : List Char :=
  match controlLetter? c with
  | some letter => [letter]
  | none => octalDigits c.toNat

/-- A character with its escape if it is a control character. -/
def spellControl (c : Char) : List Char :=
  if isControl c then '\\' :: controlCode c else [c]

/-- A path as Git prints it if it is to leave characters outside of ASCII alone. -/
def quoteControls (path : String) : String :=
  if path.toList.any fun c => isEscaped c || isControl c then
    "\"" ++ String.ofList (escapeBy spellControl path.toList) ++ "\""
  else path

/-! ## Escapes of control characters -/

theorem not_isControl_of_isEscaped {c : Char} (h : isEscaped c) : ¬isControl c := by
  rcases (by simpa [isEscaped] using h : c = '"' ∨ c = '\\') with rfl | rfl <;> decide

/-- What may stand behind the backslash of an escape. -/
def IsCode (c : Char) : Prop :=
  ¬isEscaped c ∧ ¬isControl c

theorem isCode_of_controlLetter? {c letter : Char} (h : controlLetter? c = some letter) :
    IsCode letter := by
  unfold controlLetter? at h
  split at h <;> cases h <;> exact ⟨by decide, by decide⟩

theorem isCode_digitChar : ∀ digit < 8, IsCode (Nat.digitChar digit) := by
  unfold IsCode
  decide

theorem isCode_of_mem_controlCode {c d : Char} (h : isControl c) (hd : d ∈ controlCode c) :
    IsCode d := by
  have small : c.toNat < 128 := by
    simp only [isControl, Bool.or_eq_true, decide_eq_true_eq, beq_iff_eq] at h
    omega
  unfold controlCode at hd
  split at hd
  · rename_i letter known
    exact List.mem_singleton.mp hd ▸ isCode_of_controlLetter? known
  · -- The code is below 128, so even its first digit is an octal one.
    obtain ⟨digit, member, rfl⟩ := List.mem_map.mp hd
    refine isCode_digitChar digit ?_
    simp only [List.mem_cons, List.not_mem_nil, or_false] at member
    omega

theorem controlCode_ne_nil (c : Char) : controlCode c ≠ [] := by
  unfold controlCode
  split <;> simp [octalDigits]

theorem spells_spellControl : Spells spellControl where
  escaped c h := if_neg (not_isControl_of_isEscaped h)
  other c h := by
    unfold spellControl
    split
    · rename_i control
      obtain ⟨first, rest, code⟩ := List.exists_cons_of_ne_nil (controlCode_ne_nil c)
      have plain : ∀ d ∈ first :: rest, ¬isEscaped d := fun d hd =>
        (isCode_of_mem_controlCode control (code ▸ hd)).1
      rw [code]
      exact .behind plain
    · exact .plain (by simpa using h)

/-- Only a path without control characters is spelled with its own characters: the first
control character is where a backslash takes its place. -/
theorem flatMap_spellControl_eq_iff {cs : List Char} :
    cs.flatMap spellControl = cs ↔ ∀ c ∈ cs, ¬isControl c := by
  induction cs with
  | nil => simp
  | cons c cs ih =>
      rw [List.flatMap_cons, List.forall_mem_cons, spellControl]
      by_cases h : isControl c
      · rw [if_pos h]
        have other : '\\' ≠ c := by
          rintro rfl
          contradiction
        simp [h, other]
      · rw [if_neg h, List.singleton_append, List.cons.injEq, ih]
        simp [h]

theorem not_isControl_of_mem_spellControl {c d : Char} (h : d ∈ spellControl c) :
    ¬isControl d := by
  unfold spellControl at h
  split at h
  · rename_i control
    rcases List.mem_cons.mp h with rfl | h
    · decide
    · exact (isCode_of_mem_controlCode control h).2
  · rename_i plain
    exact List.mem_singleton.mp h ▸ plain

/-! ## Paths -/

/-- Without control characters, a path is written as in any listing. -/
theorem quoteControls_eq_quote {path : String} (h : ∀ c ∈ path.toList, ¬isControl c) :
    quoteControls path = quote path := by
  have same : escapeBy spellControl path.toList = escape path.toList := by
    refine List.flatMap_congr fun c hc => ?_
    rw [spellControl, if_neg (h c hc)]
  have anyEscaped : (path.toList.any fun c => isEscaped c || isControl c) =
      path.toList.any isEscaped := by
    rw [Bool.eq_iff_iff, List.any_eq_true, List.any_eq_true]
    simp only [Bool.or_eq_true]
    exact exists_congr fun c => and_congr_right fun hc => or_iff_left (h c hc)
  rw [quoteControls, quote, same, anyEscaped]

theorem unquote_quoteControls_eq (path : String) :
    unquote (quoteControls path) = String.ofList (path.toList.flatMap spellControl) := by
  unfold quoteControls
  split
  · exact unquote_quotes_escapeBy spells_spellControl path.toList
  · rename_i plain
    simp only [List.any_eq_true, Bool.or_eq_true, not_exists, not_and, not_or] at plain
    rw [unquote_of_not_isEscaped fun c hc => (plain c hc).1,
      flatMap_spellControl_eq_iff.mpr fun c hc => (plain c hc).2, String.ofList_toList]

example : unquote (quoteControls "\x01\x0b \x7f\"") = "\\001\\v \\177\"" := by decide

theorem not_isControl_of_mem_unquote_quoteControls {path : String} {c : Char}
    (h : c ∈ (unquote (quoteControls path)).toList) : ¬isControl c := by
  rw [unquote_quoteControls_eq, String.toList_ofList] at h
  obtain ⟨d, -, hc⟩ := List.mem_flatMap.mp h
  exact not_isControl_of_mem_spellControl hc

/-- Between its quotes, a path keeps the escapes of its control characters and nothing else is
left of how it was written.  So it is read as it was exactly if it has no control characters;
otherwise it is taken for another path, the one with those escapes for its own characters. -/
theorem unquote_quoteControls (path : String) :
    let read := unquote (quoteControls path)
    read = String.ofList (path.toList.flatMap spellControl) ∧
      (read = path ↔ ∀ c ∈ path.toList, ¬isControl c) ∧
      unquote (quoteControls read) = read := by
  refine ⟨unquote_quoteControls_eq path, ?_, ?_⟩
  · rw [unquote_quoteControls_eq, String.ext_iff, String.toList_ofList,
      flatMap_spellControl_eq_iff]
  · rw [quoteControls_eq_quote fun c hc => not_isControl_of_mem_unquote_quoteControls hc,
      unquote_quote]

/-- A path with a tab, and one with a backslash and a letter: they are listed apart and read as
the same path, which is the second one. -/
theorem unquote_quoteControls_tab :
    quoteControls "a\tb" = "\"a\\tb\"" ∧ quoteControls "a\\tb" = "\"a\\\\tb\"" ∧
      unquote (quoteControls "a\tb") = "a\\tb" ∧ unquote (quoteControls "a\\tb") = "a\\tb" ∧
      unquote (quoteControls "a\tb") ≠ "a\tb" := by
  decide

end CommitLens.Git
