import CommitLens.Proofs.Text.Line
import CommitLens.Script.Members
import Mathlib.Data.Option.Basic

/-!
# Tokens and lines

A name stands on one line.  A string in quotes may go on over several lines, each
ended by a backslash.
-/

namespace CommitLens.Script

open Text

namespace Source

variable {src : Source} {i start stop : Nat}

/-- Does a character stand nowhere from one position to another? -/
def Avoids (src : Source) (ch : Char) (start stop : Nat) : Prop :=
  ∀ k, start ≤ k → k < stop → src.char k ≠ ch

theorem Avoids.empty (src : Source) (ch : Char) (i : Nat) : src.Avoids ch i i :=
  fun _ hi hk => absurd hk (Nat.not_lt.mpr hi)

theorem Avoids.append {ch : Char} {middle : Nat} (h : src.Avoids ch start middle)
    (h' : src.Avoids ch middle stop) : src.Avoids ch start stop := by
  intro k hs hk
  rcases Nat.lt_or_ge k middle with hm | hm
  · exact h k hs hm
  · exact h' k hm hk

theorem Avoids.cons {ch : Char} (hc : src.char i ≠ ch) (h : src.Avoids ch (i + 1) stop) :
    src.Avoids ch i stop := by
  intro k hi hk
  rcases Nat.eq_or_lt_of_le hi with rfl | hi
  · exact hc
  · exact h k hi hk

/-- Is there no line feed from one position to another? -/
def OnOneLine (src : Source) (start stop : Nat) : Prop :=
  ∀ k, start ≤ k → k < stop → src.char k ≠ '\n'

theorem OnOneLine.empty (src : Source) (i : Nat) : src.OnOneLine i i :=
  Avoids.empty src '\n' i

theorem OnOneLine.append {middle : Nat} (h : src.OnOneLine start middle)
    (h' : src.OnOneLine middle stop) : src.OnOneLine start stop :=
  Avoids.append h h'

theorem OnOneLine.cons (hc : src.char i ≠ '\n') (h : src.OnOneLine (i + 1) stop) :
    src.OnOneLine i stop :=
  Avoids.cons hc h

theorem getElem?_slice {k : Nat} {c : Char} :
    (src.slice start stop).toList[k]? = some c ↔
      start + k < stop ∧ src.isEnd (start + k) = false ∧ src.char (start + k) = c := by
  have inside : src.isEnd (start + k) = false ↔ start + k < src.chars.size := by
    rw [isEnd, decide_eq_false_iff_not, Nat.not_le]
  rw [slice, String.toList_ofList, Array.getElem?_toList, Array.getElem?_extract, char,
    Array.getD_eq_getD_getElem?, inside]
  split
  · rename_i hk
    constructor
    · intro hc
      obtain ⟨hi, -⟩ := Array.getElem?_eq_some_iff.mp hc
      exact ⟨by omega, hi, by rw [hc, Option.getD_some]⟩
    · rintro ⟨-, hi, hc⟩
      rw [Array.getElem?_eq_getElem hi, Option.getD_some] at hc
      rw [Array.getElem?_eq_getElem hi, hc]
  · rename_i hk
    simp only [reduceCtorEq, false_iff]
    omega

theorem char_of_has {word : String} (h : src.has i word = true) {k : Nat}
    (hk : k < word.toList.length) : src.char (i + k) = word.toList[k] := by
  unfold has at h
  generalize word.toList = cs at h hk
  induction cs generalizing i k with
  | nil => exact absurd hk (Nat.not_lt_zero k)
  | cons c cs ih =>
      rw [has.go, Bool.and_eq_true_iff, Bool.and_eq_true_iff] at h
      obtain ⟨⟨-, here⟩, rest⟩ := h
      cases k with
      | zero => exact eq_of_beq here
      | succ k =>
          have next := ih rest (Nat.lt_of_succ_lt_succ hk)
          rw [Nat.add_assoc, Nat.add_comm 1 k] at next
          exact next

theorem oneLine_slice (h : src.OnOneLine start stop) : OneLine (src.slice start stop) := by
  intro lineFeed
  obtain ⟨k, hk⟩ := List.mem_iff_getElem?.mp lineFeed
  obtain ⟨before, -, found⟩ := getElem?_slice.mp hk
  exact h (start + k) (Nat.le_add_right _ _) before found

theorem char_ne_of_beq {c ch : Char} (hc : c ≠ ch) (h : (src.char i == c) = true) :
    src.char i ≠ ch :=
  eq_of_beq h ▸ hc

theorem char_ne_of_test {ch : Char} {test : Char → Bool} (ht : test ch = false)
    (h : test (src.char i) = true) : src.char i ≠ ch := by
  intro found
  rw [found, ht] at h
  contradiction

theorem test_of_lt_skipWhile {test : Char → Bool} {k : Nat} (hi : i ≤ k)
    (hk : k < src.skipWhile test i) : test (src.char k) = true := by
  unfold skipWhile at hk
  generalize src.left i = fuel at hk
  induction fuel generalizing i with
  | zero => exact absurd hk (Nat.not_lt.mpr hi)
  | succ fuel ih =>
      rw [skipWhile.go] at hk
      split at hk
      · rename_i here
        rcases Nat.eq_or_lt_of_le hi with rfl | hi
        · exact (Bool.and_eq_true_iff.mp here).2
        · exact ih hi hk
      · exact absurd hk (Nat.not_lt.mpr hi)

theorem avoids_skipWhile {ch : Char} {test : Char → Bool} (h : test ch = false) :
    src.Avoids ch i (src.skipWhile test i) := by
  intro k hi hk
  exact char_ne_of_test h (test_of_lt_skipWhile hi hk)

theorem onOneLine_skipWhile {test : Char → Bool} (h : test '\n' = false) :
    src.OnOneLine i (src.skipWhile test i) :=
  avoids_skipWhile h

end Source

open Source

variable {src : Source} {i stop : Nat}

/-! ## Names -/

theorem char_ne_of_isHex {k : Nat} (h : unicodeEscape?.isHex (src.char k) = true) :
    src.char k ≠ '\n' :=
  char_ne_of_test (by decide) h

/-- An escape holds no characters but its own marks and digits. -/
theorem unicodeEscape?_avoids {ch : Char} (marks : ch ∉ ['\\', 'u', '\x7b', '\x7d'])
    (hex : unicodeEscape?.isHex ch = false) (h : unicodeEscape? src i = some stop) :
    i < stop ∧ src.Avoids ch i stop := by
  simp only [List.mem_cons, List.not_mem_nil, or_false, not_or] at marks
  obtain ⟨noBackslash, noLetter, noOpening, noClosing⟩ := marks
  unfold unicodeEscape? at h
  split at h
  · contradiction
  · rename_i opened
    have opened : src.has i "\\u" = true := by simpa using opened
    have backslash : src.char i ≠ ch := by
      rw [show src.char i = '\\' from char_of_has opened (k := 0) (by decide)]
      exact Ne.symm noBackslash
    have letter : src.char (i + 1) ≠ ch := by
      rw [show src.char (i + 1) = 'u' from char_of_has opened (k := 1) (by decide)]
      exact Ne.symm noLetter
    suffices i < stop ∧ src.Avoids ch (i + 2) stop from
      ⟨this.1, .cons backslash (.cons letter this.2)⟩
    split at h
    · rename_i brace
      have brace : src.char (i + 2) ≠ ch := char_ne_of_beq (Ne.symm noOpening) brace
      dsimp only at h
      split at h
      · rename_i closed
        cases h
        obtain ⟨longer, closed⟩ := Bool.and_eq_true_iff.mp closed
        have longer := of_decide_eq_true longer
        have last : src.char (src.skipWhile unicodeEscape?.isHex (i + 3)) ≠ ch :=
          char_ne_of_beq (Ne.symm noClosing) closed
        exact ⟨by omega,
          .cons brace ((avoids_skipWhile hex).append (.cons last (.empty src ch _)))⟩
      · contradiction
    · split at h
      · rename_i digits
        cases h
        have digit : ∀ k < 4, src.char (i + 2 + k) ≠ ch := fun k hk =>
          char_ne_of_test hex (List.all_eq_true.mp digits k (List.mem_range.mpr hk))
        refine ⟨by omega, fun k hk hl => ?_⟩
        obtain ⟨d, rfl⟩ := Nat.exists_eq_add_of_le hk
        exact digit d (by omega)
      · contradiction

theorem unicodeEscape?_spec (h : unicodeEscape? src i = some stop) :
    i < stop ∧ src.OnOneLine i stop :=
  unicodeEscape?_avoids (by decide) (by decide) h

theorem avoids_nameRest {ch : Char} (name : isNameMark ch = false)
    (marks : ch ∉ ['\\', 'u', '\x7b', '\x7d']) (hex : unicodeEscape?.isHex ch = false) (src : Source)
    (i : Nat) : src.Avoids ch i (nameRest src i) := by
  unfold nameRest
  generalize src.left i = fuel
  induction fuel generalizing i with
  | zero => exact .empty src ch i
  | succ fuel ih =>
      rw [nameRest.go]
      split
      · exact .empty src ch i
      · split
        · rename_i mark
          exact .cons (char_ne_of_test name mark) (ih (i + 1))
        · split
          · rename_i next escape
            exact (unicodeEscape?_avoids marks hex escape).2.append (ih next)
          · exact .empty src ch i

theorem onOneLine_nameRest (src : Source) (i : Nat) : src.OnOneLine i (nameRest src i) :=
  avoids_nameRest (by decide) (by decide) (by decide) src i

theorem onOneLine_name? (h : name? src i = some stop) : src.OnOneLine i stop := by
  unfold name? at h
  split at h
  · contradiction
  · dsimp only at h
    split at h
    · cases h
      exact onOneLine_nameRest src i
    · contradiction

theorem onOneLine_dashedName? (h : dashedName? src i = some stop) : src.OnOneLine i stop := by
  obtain ⟨first, hf, hs⟩ := Option.bind_eq_some_iff.mp h
  have name := onOneLine_name? hf
  split at hs <;> cases hs
  · exact name.append (onOneLine_skipWhile (by decide))
  · exact name

/-! ## Numbers -/

theorem onOneLine_digits? {test : Char → Bool} (ht : test '\n' = false)
    (h : digits? src test i = some stop) : src.OnOneLine i stop := by
  have rest : ∀ fuel i, src.OnOneLine i (digits?.go src test fuel i) := by
    intro fuel
    induction fuel with
    | zero => exact fun i => .empty src i
    | succ fuel ih =>
        intro i
        rw [digits?.go]
        split
        · rename_i digit
          exact .cons (char_ne_of_test ht digit) (ih (i + 1))
        · split
          · rename_i both
            obtain ⟨underscore, digit⟩ := Bool.and_eq_true_iff.mp both
            exact .cons (char_ne_of_beq (by decide) underscore)
              (.cons (char_ne_of_test ht digit) (ih (i + 2)))
          · exact .empty src i
  unfold digits? at h
  split at h
  · rename_i first
    cases h
    exact .cons (char_ne_of_test ht (Bool.and_eq_true_iff.mp first).2) (rest _ _)
  · contradiction

theorem onOneLine_exponentEnd (src : Source) (i : Nat) :
    src.OnOneLine i (exponentEnd src i) := by
  unfold exponentEnd
  split
  · rename_i mark
    have mark : src.char i ≠ '\n' := by
      rcases (Bool.or_eq_true _ _).mp mark with mark | mark <;> exact char_ne_of_beq (by decide) mark
    dsimp only
    split
    · rename_i sign
      have sign : src.char (i + 1) ≠ '\n' := by
        rcases (Bool.or_eq_true _ _).mp sign with sign | sign <;>
          exact char_ne_of_beq (by decide) sign
      cases digits : digits? src Char.isDigit (i + 2) with
      | none => exact .empty src i
      | some stop => exact .cons mark (.cons sign (onOneLine_digits? (by decide) digits))
    · cases digits : digits? src Char.isDigit (i + 1) with
      | none => exact .empty src i
      | some stop => exact .cons mark (onOneLine_digits? (by decide) digits)
  · exact .empty src i

theorem onOneLine_radixNumber? (h : radixNumber? src i = some stop) : src.OnOneLine i stop := by
  have read : ∀ {test : Char → Bool}, test '\n' = false →
      (digits? src test (i + 2)).map
        (fun stop => if src.char stop == 'n' then stop + 1 else stop) = some stop →
      src.OnOneLine (i + 2) stop := by
    intro test ht h
    obtain ⟨past, digits, rfl⟩ := Option.map_eq_some_iff.mp h
    have front := onOneLine_digits? ht digits
    split
    · rename_i suffix
      exact front.append (.cons (char_ne_of_beq (by decide) suffix) (.empty src _))
    · exact front
  unfold radixNumber? at h
  dsimp only at h
  split at h
  · contradiction
  · rename_i zero
    have zero : src.char i ≠ '\n' := by
      rw [show src.char i = '0' by simpa using zero]
      decide
    have letter : ∀ {c : Char}, c ≠ '\n' → (src.char (i + 1)).toLower = c →
        src.char (i + 1) ≠ '\n' := by
      rintro c hc lower found
      rw [found] at lower
      exact hc lower.symm
    split at h
    case h_4 => contradiction
    all_goals
      rename_i lower
      exact .cons zero (.cons (letter (by decide) lower) (read (by decide) h))

theorem onOneLine_number? (h : number? src i = some stop) : src.OnOneLine i stop := by
  unfold number? at h
  rcases (Option.orElse_eq_some _ _ _).mp h with h | ⟨-, h⟩
  · exact onOneLine_radixNumber? h
  · split at h
    · rename_i point
      obtain ⟨past, digits, rfl⟩ := Option.map_eq_some_iff.mp h
      exact .cons (char_ne_of_beq (by decide) point)
        ((onOneLine_digits? (by decide) digits).append (onOneLine_exponentEnd src past))
    · obtain ⟨past, digits, rfl⟩ := Option.map_eq_some_iff.mp h
      have front := onOneLine_digits? (by decide) digits
      split
      · rename_i suffix
        exact front.append (.cons (char_ne_of_beq (by decide) suffix) (.empty src _))
      · split
        · exact front
        · split
          · rename_i point
            refine front.append (.cons (char_ne_of_beq (by decide) point) ?_)
            cases fraction : digits? src Char.isDigit (past + 1) with
            | none => exact onOneLine_exponentEnd src (past + 1)
            | some more =>
                exact (onOneLine_digits? (by decide) fraction).append
                  (onOneLine_exponentEnd src more)
          · exact front.append (onOneLine_exponentEnd src past)

/-! ## Strings -/

/-- Does every line feed from one position to another stand behind a backslash? -/
def Source.Continues (src : Source) (start stop : Nat) : Prop :=
  ∀ k, start ≤ k → k < stop → src.char k = '\n' →
    ∃ j, start ≤ j ∧ src.char j = '\\' ∧ (k = j + 1 ∨ k = j + 2 ∧ src.char (j + 1) = '\r')

namespace Source

variable {start : Nat}

theorem OnOneLine.continues (h : src.OnOneLine start stop) : src.Continues start stop :=
  fun k hs hk found => absurd found (h k hs hk)

theorem Continues.append {middle : Nat} (h : src.Continues start middle) (hm : start ≤ middle)
    (h' : src.Continues middle stop) : src.Continues start stop := by
  intro k hs hk found
  rcases Nat.lt_or_ge k middle with before | behind
  · exact h k hs before found
  · obtain ⟨j, hj, rest⟩ := h' k behind hk found
    exact ⟨j, Nat.le_trans hm hj, rest⟩

theorem Continues.cons (hc : src.char i ≠ '\n') (h : src.Continues (i + 1) stop) :
    src.Continues i stop :=
  ((OnOneLine.cons hc (.empty src (i + 1))).continues).append (Nat.le_succ i) h

/-- A character before the end of a slice that was cut off. -/
theorem getElem?_of_slice_eq {before rest : List Char} {m : Nat}
    (h : (src.slice start stop).toList = before ++ rest) (hm : m < before.length) :
    before[m]? = some (src.char (start + m)) := by
  have same : (src.slice start stop).toList[m]? = before[m]? := by
    rw [h, List.getElem?_append_left hm]
  have found : (src.slice start stop).toList[m]? = some before[m] := by
    rw [same, List.getElem?_eq_getElem hm]
  rw [← same, found, (getElem?_slice.mp found).2.2]

theorem continued_slice (h : src.Continues start stop) : Continued (src.slice start stop) := by
  intro before rest ht
  have lineFeed : (src.slice start stop).toList[before.length]? = some '\n' := by
    rw [ht, List.getElem?_append_right (Nat.le_refl _), Nat.sub_self, List.getElem?_cons_zero]
  obtain ⟨inside, -, found⟩ := getElem?_slice.mp lineFeed
  obtain ⟨j, hj, backslash, place⟩ := h _ (Nat.le_add_right _ _) inside found
  obtain ⟨m, rfl⟩ := Nat.exists_eq_add_of_le hj
  have here : before[m]? = some '\\' :=
    backslash ▸ getElem?_of_slice_eq ht (by omega)
  rcases place with last | ⟨last, carriageReturn⟩
  · refine .inl ⟨before.take m, ?_⟩
    obtain ⟨hm, char⟩ := List.getElem?_eq_some_iff.mp here
    conv_rhs => rw [← List.take_append_drop m before]
    rw [List.drop_eq_getElem_cons hm, char, List.drop_eq_nil_of_le (by omega)]
  · have next : before[m + 1]? = some '\r' :=
      carriageReturn ▸ getElem?_of_slice_eq ht (by omega)
    refine .inr ⟨before.take m, ?_⟩
    obtain ⟨hm, char⟩ := List.getElem?_eq_some_iff.mp here
    obtain ⟨hn, after⟩ := List.getElem?_eq_some_iff.mp next
    conv_rhs => rw [← List.take_append_drop m before]
    rw [List.drop_eq_getElem_cons hm, char, List.drop_eq_getElem_cons hn, after,
      List.drop_eq_nil_of_le (by omega)]

end Source

theorem escape?_spec (hb : src.char i = '\\') (h : escape? src i = some stop) :
    i < stop ∧ src.Continues i stop := by
  have backslash : src.char i ≠ '\n' := by
    rw [hb]
    decide
  unfold escape? at h
  dsimp only at h
  split at h
  · contradiction
  · split at h
    · rename_i letter
      split at h
      · rename_i digits
        cases h
        obtain ⟨first, second⟩ := Bool.and_eq_true_iff.mp digits
        have letter : src.char (i + 1) ≠ '\n' := char_ne_of_beq (by decide) letter
        exact ⟨by omega, OnOneLine.continues <| .cons backslash <| .cons letter <|
          .cons (char_ne_of_isHex first) <| .cons (char_ne_of_isHex second) (.empty src _)⟩
      · contradiction
    · split at h
      · obtain ⟨longer, whole⟩ := unicodeEscape?_spec h
        exact ⟨longer, whole.continues⟩
      · split at h
        · rename_i lineEnd
          cases h
          have carriageReturn := eq_of_beq (Bool.and_eq_true_iff.mp lineEnd).1
          refine ⟨by omega, fun k hk hl found => ⟨i, Nat.le_refl i, hb, .inr ⟨?_, carriageReturn⟩⟩⟩
          have notFirst : k ≠ i := fun he => backslash (he ▸ found)
          have notSecond : k ≠ i + 1 := by
            rintro rfl
            rw [carriageReturn] at found
            exact absurd found (by decide)
          omega
        · cases h
          refine ⟨by omega, fun k hk hl found => ⟨i, Nat.le_refl i, hb, .inl ?_⟩⟩
          have notFirst : k ≠ i := fun he => backslash (he ▸ found)
          omega

theorem stringGo_spec {quote : Char} (hq : quote ≠ '\n') {fuel : Nat}
    (h : string?.go src quote fuel i = some stop) : i < stop ∧ src.Continues i stop := by
  induction fuel generalizing i with
  | zero => cases h
  | succ fuel ih =>
      rw [string?.go] at h
      split at h
      · contradiction
      · split at h
        · rename_i closed
          cases h
          have last : src.char i ≠ '\n' := eq_of_beq closed ▸ hq
          exact ⟨Nat.lt_succ_self i, .cons last (OnOneLine.empty src _).continues⟩
        · split at h
          · rename_i backslash
            obtain ⟨next, escape, rest⟩ := Option.bind_eq_some_iff.mp h
            obtain ⟨further, front⟩ := escape?_spec (eq_of_beq backslash) escape
            obtain ⟨longer, back⟩ := ih rest
            exact ⟨Nat.lt_trans further longer, front.append (Nat.le_of_lt further) back⟩
          · split at h
            · contradiction
            · rename_i lineEnd
              obtain ⟨longer, back⟩ := ih h
              refine ⟨Nat.lt_of_succ_lt longer, .cons (fun found => lineEnd ?_) back⟩
              rw [found]
              rfl

/-- A string in quotes, whose lines may be continued. -/
def Quoted (text : String) : Prop :=
  (∃ quote body, text.toList = quote :: body ∧ (quote = '\x22' ∨ quote = '\x27')) ∧
    Continued text

theorem quoted_string? (h : string? src i = some stop) : Quoted (src.slice i stop) := by
  unfold string? at h
  dsimp only at h
  split at h
  · rename_i opened
    obtain ⟨inside, opened⟩ := Bool.and_eq_true_iff.mp opened
    have quote : src.char i = '\x22' ∨ src.char i = '\x27' := by
      rw [Bool.or_eq_true_iff, beq_iff_eq, beq_iff_eq] at opened
      exact opened
    have notLineFeed : src.char i ≠ '\n' := by
      rcases quote with found | found <;> rw [found] <;> decide
    obtain ⟨longer, body⟩ := stringGo_spec notLineFeed h
    refine ⟨?_, continued_slice (.cons notLineFeed body)⟩
    have first : (src.slice i stop).toList[0]? = some (src.char i) :=
      getElem?_slice.mpr ⟨by omega, by simpa using inside, rfl⟩
    cases ht : (src.slice i stop).toList with
    | nil => rw [ht] at first; contradiction
    | cons c body =>
        rw [ht, List.getElem?_cons_zero, Option.some.injEq] at first
        exact ⟨c, body, rfl, first ▸ quote⟩
  · contradiction

end CommitLens.Script
