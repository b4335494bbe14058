import CommitLens.Json.Reader
import CommitLens.Json.Writer
import CommitLens.Proofs.Decimal.Shortest

/-!
# Numbers in JSON text

The texts of numbers as the standard has them: a minus sign, digits without needless zeros, a
fraction and an exponent.  A text without the last two stands for a whole number, every other
one for the double that is nearest.  Main statements: such a text is read as the number it
stands for, and every finite number is written as such a text.
-/

namespace CommitLens

/-- Is the number one that JSON has? -/
def Number.IsFinite : Number Float → Prop
  | .whole _ => True
  | .real x => x.isFinite = true

namespace Json

open Decimal

/-! ## Texts of numbers -/

/-- Digits, at least one. -/
structure IsDigits (digits : List Char) : Prop where
  ne_nil : digits ≠ []
  digit : ∀ c ∈ digits, c.isDigit = true

/-- Digits without a needless zero at the front. -/
structure IsWhole (digits : List Char) : Prop extends IsDigits digits where
  noZero : digits.head? = some '0' → digits = ['0']

def digitsValue (digits : List Char) : Nat :=
  Nat.ofDigitChars 10 digits 0

/-- A fraction and its digits. -/
inductive FractionText : List Char → List Char → Prop
  | absent : FractionText [] []
  | point {digits : List Char} (h : IsDigits digits) : FractionText ('.' :: digits) digits

/-- An exponent and its value. -/
inductive ExponentText : List Char → Int → Prop
  | absent : ExponentText [] 0
  | unsigned {mark : Char} {digits : List Char} (hm : mark = 'e' ∨ mark = 'E')
      (h : IsDigits digits) : ExponentText (mark :: digits) (digitsValue digits)
  | plus {mark : Char} {digits : List Char} (hm : mark = 'e' ∨ mark = 'E')
      (h : IsDigits digits) : ExponentText (mark :: '+' :: digits) (digitsValue digits)
  | minus {mark : Char} {digits : List Char} (hm : mark = 'e' ∨ mark = 'E')
      (h : IsDigits digits) : ExponentText (mark :: '-' :: digits) (-digitsValue digits)

def signChars (negative : Bool) : List Char :=
  if negative then ['-'] else []

/-- The double of that sign which is nearest to a number. -/
def IsNearest (negative : Bool) (number : ℚ) (x : Float) : Prop :=
  ∃ m e, Binary.ofFloat x = .finite negative m e ∧ Reads m e number

/-- A text and the number that it stands for. -/
inductive NumberText : List Char → Number Float → Prop
  | whole (negative : Bool) {digits : List Char} (h : IsWhole digits) :
      NumberText (signChars negative ++ digits)
        (.whole (if negative then -digitsValue digits else digitsValue digits))
  | real (negative : Bool) {digits fraction part mark : List Char} {exponent : Int} {x : Float}
      (h : IsWhole digits) (hf : FractionText fraction part) (he : ExponentText mark exponent)
      (some : fraction ++ mark ≠ [])
      (hx : IsNearest negative (digitsValue (digits ++ part) * 10 ^ (exponent - part.length)) x) :
      NumberText (signChars negative ++ (digits ++ (fraction ++ mark))) (.real x)

/-! ## Reading -/

section Reading

variable {digits rest : List Char} {negative : Bool}

theorem decimalDigit?_of_isDigit {c : Char} (h : c.isDigit = true) :
    Text.decimalDigit? c = some (c.toNat - 48) := if_pos h

/-- What may follow digits: nothing that continues them. -/
def EndsDigits (rest : List Char) : Prop :=
  ∀ c ∈ rest.head?, c ≠ '_' ∧ Text.decimalDigit? c = none

theorem go_append (hd : ∀ c ∈ digits, c.isDigit = true) (hr : EndsDigits rest) (value count : Nat)
    (some : count + digits.length ≠ 0) :
    readDigits.go (digits ++ rest) value count =
      .some (Nat.ofDigitChars 10 digits value, count + digits.length, rest) := by
  induction digits generalizing value count with
  | nil =>
      cases rest with
      | nil => simp_all [readDigits.go]
      | cons c rest =>
          obtain ⟨hc, none⟩ := hr c rfl
          simp_all [readDigits.go]
  | cons c digits ih =>
      rw [List.forall_mem_cons] at hd
      have hc : c ≠ '_' := by
        rintro rfl
        exact absurd hd.1 (by decide)
      have step : readDigits.go (c :: (digits ++ rest)) value count =
          readDigits.go (digits ++ rest) (10 * value + (c.toNat - 48)) (count + 1) := by
        rw [readDigits.go.eq_3 _ _ _ _ fun _ _ same _ => hc same, decimalDigit?_of_isDigit hd.1]
      rw [List.cons_append, step, ih hd.2 _ _ (by omega), Nat.ofDigitChars_cons, List.length_cons,
        Nat.add_right_comm, Nat.add_assoc]
      rfl

theorem readDigits_append (hd : IsDigits digits) (hr : EndsDigits rest) :
    readDigits (digits ++ rest) = some (digitsValue digits, digits.length, rest) := by
  have len : 0 + digits.length ≠ 0 := by simpa using hd.ne_nil
  rw [readDigits, go_append hd.digit hr 0 0 len, Nat.zero_add]
  rfl

theorem readSign_digits (hd : IsDigits digits) (rest : List Char) :
    readSign (digits ++ rest) = (false, digits ++ rest) := by
  obtain ⟨c, more, rfl⟩ := List.exists_cons_of_ne_nil hd.ne_nil
  have hc : c.isDigit = true := hd.digit c List.mem_cons_self
  have minus : c ≠ '-' := by
    rintro rfl
    exact absurd hc (by decide)
  have plus : c ≠ '+' := by
    rintro rfl
    exact absurd hc (by decide)
  unfold readSign
  split
  · exact absurd (List.cons.inj ‹_›).1 minus
  · exact absurd (List.cons.inj ‹_›).1 plus
  · rfl

theorem readSign_signChars (hd : IsDigits digits) (negative : Bool) (rest : List Char) :
    readSign (signChars negative ++ (digits ++ rest)) = (negative, digits ++ rest) := by
  cases negative
  · exact readSign_digits hd rest
  · rfl

theorem endsDigits_exponent {mark : List Char} {exponent : Int} (h : ExponentText mark exponent) :
    EndsDigits mark := by
  intro c hc
  cases h with
  | absent => contradiction
  | unsigned hm => cases hc; rcases hm with rfl | rfl <;> decide
  | plus hm => cases hc; rcases hm with rfl | rfl <;> decide
  | minus hm => cases hc; rcases hm with rfl | rfl <;> decide

theorem endsDigits_fraction {fraction part mark : List Char} (h : FractionText fraction part)
    (hm : EndsDigits mark) : EndsDigits (fraction ++ mark) := by
  cases h with
  | absent => exact hm
  | point =>
      intro c hc
      cases hc
      decide

theorem readExponent_text {mark : List Char} {exponent : Int} (h : ExponentText mark exponent) :
    readExponent mark = some (exponent, []) := by
  have nothing : EndsDigits [] := by simp [EndsDigits]
  cases h with
  | absent => rfl
  | unsigned hm hd =>
      have sign := readSign_digits hd []
      have read := readDigits_append hd nothing
      rw [List.append_nil] at sign read
      simp [readExponent, hm, sign, read]
  | plus hm hd =>
      have read := readDigits_append hd nothing
      rw [List.append_nil] at read
      simp [readExponent, hm, readSign, read]
  | minus hm hd =>
      have read := readDigits_append hd nothing
      rw [List.append_nil] at read
      simp [readExponent, hm, readSign, read]

theorem digitsValue_append (digits part : List Char) :
    digitsValue (digits ++ part) = digitsValue digits * 10 ^ part.length + digitsValue part := by
  rw [digitsValue, Nat.ofDigitChars_append, Nat.ofDigitChars_eq_ofDigitChars_zero, Nat.mul_comm]
  rfl

/-- An unsigned decimal is read with all its digits before the exponent. -/
theorem readMagnitude?_text {fraction part mark : List Char} {exponent : Int} (hd : IsDigits digits)
    (hf : FractionText fraction part) (he : ExponentText mark exponent) (negative : Bool) :
    readMagnitude? negative (digits ++ (fraction ++ mark)) =
      some (nearestFloat negative (digitsValue (digits ++ part)) (exponent - part.length)) := by
  have ends := endsDigits_exponent he
  have whole := readDigits_append hd (endsDigits_fraction hf ends)
  have exponentRead := readExponent_text he
  have len : digits.length ≠ 0 := by simpa using hd.ne_nil
  unfold readMagnitude?
  rw [whole]
  cases hf with
  | absent =>
      simp [exponentRead, len]
      split
      · -- an exponent does not start with a point
        exfalso
        cases he with
        | unsigned hm => rcases hm with hm | hm <;> cases hm
        | plus hm => rcases hm with hm | hm <;> cases hm
        | minus hm => rcases hm with hm | hm <;> cases hm
      · rfl
  | point hp =>
      have partRead := readDigits_append hp ends
      simp [partRead, exponentRead, len, digitsValue_append]

/-! ### Characters of numbers -/

theorem isNumberChar_of_isDigits {digits : List Char} (hd : IsDigits digits) :
    ∀ c ∈ digits, isNumberChar c = true := fun c hc => by simp [isNumberChar, hd.digit c hc]

theorem isNumberChar_of_fractionText {fraction part : List Char} (h : FractionText fraction part) :
    ∀ c ∈ fraction, isNumberChar c = true := by
  cases h with
  | absent => simp
  | point hd =>
      rw [List.forall_mem_cons]
      exact ⟨rfl, isNumberChar_of_isDigits hd⟩

theorem isNumberChar_of_exponentText {mark : List Char} {exponent : Int}
    (h : ExponentText mark exponent) : ∀ c ∈ mark, isNumberChar c = true := by
  have first {c : Char} (hm : c = 'e' ∨ c = 'E') : isNumberChar c = true := by
    rcases hm with rfl | rfl <;> rfl
  cases h with
  | absent => simp
  | unsigned hm hd =>
      rw [List.forall_mem_cons]
      exact ⟨first hm, isNumberChar_of_isDigits hd⟩
  | plus hm hd | minus hm hd =>
      rw [List.forall_mem_cons, List.forall_mem_cons]
      exact ⟨first hm, rfl, isNumberChar_of_isDigits hd⟩

theorem isNumberChar_of_numberText {text : List Char} {n : Number Float} (h : NumberText text n) :
    ∀ c ∈ text, isNumberChar c = true := by
  have sign (negative : Bool) : ∀ c ∈ signChars negative, isNumberChar c = true := by
    cases negative <;> simp [signChars, isNumberChar]
  cases h with
  | whole negative hd =>
      rw [List.forall_mem_append]
      exact ⟨sign negative, isNumberChar_of_isDigits hd.toIsDigits⟩
  | real negative hd hf he =>
      rw [List.forall_mem_append, List.forall_mem_append, List.forall_mem_append]
      exact ⟨sign negative, isNumberChar_of_isDigits hd.toIsDigits,
        isNumberChar_of_fractionText hf, isNumberChar_of_exponentText he⟩

theorem isBlank_of_isNumberChar {c : Char} (h : isNumberChar c = true) : Text.isBlank c = false := by
  simp only [isNumberChar, Bool.or_eq_true, decide_eq_true_eq] at h
  rcases h with ((((h | rfl) | rfl) | rfl) | rfl) | rfl
  · obtain ⟨low, high⟩ := Char.isDigit_iff_toNat.mp h
    have bounds : 48 ≤ c.toNat ∧ c.toNat ≤ 57 := ⟨low, high⟩
    simp only [Text.isBlank, Bool.or_eq_false_iff, Bool.and_eq_false_iff, decide_eq_false_iff_not,
      beq_eq_false_iff_ne]
    omega
  all_goals rfl

theorem trim_ofList {cs : List Char} (h : ∀ c ∈ cs, Text.isBlank c = false) :
    Text.trim (String.ofList cs) = String.ofList cs := by
  have keep {cs : List Char} (h : ∀ c ∈ cs, Text.isBlank c = false) :
      cs.dropWhile Text.isBlank = cs := by
    cases cs with
    | nil => rfl
    | cons c cs => simp [h c List.mem_cons_self]
  have back : ∀ c ∈ cs.reverse, Text.isBlank c = false := fun c hc => h c (List.mem_reverse.mp hc)
  rw [Text.trim, String.toList_ofList, Text.trimStart, keep h, Text.trimEnd, keep back,
    List.reverse_reverse]

theorem eq_of_isNearest {number : ℚ} {x : Float} (h : IsNearest negative number x) {digits : Nat}
    {exponent : Int} (value : (digits : ℚ) * 10 ^ exponent = number) :
    nearestFloat negative digits exponent = x := by
  obtain ⟨m, e, parts, reads⟩ := h
  obtain ⟨canonical, bounded⟩ := canonical_of_ofFloat parts
  rw [eq_double_of_ofFloat parts]
  exact nearestFloat_eq_double canonical bounded negative (by rwa [value])

/-- A text with a fraction or an exponent has one of the marks that say so. -/
theorem any_mark {fraction part mark : List Char} {exponent : Int} (hf : FractionText fraction part)
    (he : ExponentText mark exponent) (some : fraction ++ mark ≠ []) :
    (fraction ++ mark).any (fun c => c = '.' || c = 'e' || c = 'E') = true := by
  cases hf with
  | point => rfl
  | absent =>
      cases he with
      | absent => contradiction
      | unsigned hm | plus hm | minus hm => rcases hm with rfl | rfl <;> rfl

theorem any_mark_digits {digits : List Char} (hd : IsDigits digits) (negative : Bool) :
    (signChars negative ++ digits).any (fun c => c = '.' || c = 'e' || c = 'E') = false := by
  have digit : digits.any (fun c => c = '.' || c = 'e' || c = 'E') = false := by
    rw [List.any_eq_false]
    rintro c hc mark
    have := hd.digit c hc
    simp only [Bool.or_eq_true, decide_eq_true_eq] at mark
    rcases mark with (rfl | rfl) | rfl <;> exact absurd this (by decide)
  rw [List.any_append, digit]
  cases negative <;> rfl

theorem readInt?_text (hd : IsDigits digits) (negative : Bool)
    (clean : ∀ c ∈ signChars negative ++ digits, Text.isBlank c = false) :
    readInt? (String.ofList (signChars negative ++ digits)) =
      some (if negative then -digitsValue digits else digitsValue digits : Int) := by
  have sign := readSign_signChars hd negative []
  have nothing : EndsDigits [] := by simp [EndsDigits]
  have read := readDigits_append hd nothing
  rw [List.append_nil] at sign read
  unfold readInt?
  rw [trim_ofList clean, String.toList_ofList, sign]
  dsimp only
  rw [read]

/-- A text of digits is none of the words for what is not a number. -/
theorem map_toLower_ne (hd : IsDigits digits) (rest : List Char) {word : String} {c : Char}
    (hw : word.toList.head? = some c) (hc : c.isDigit = false) :
    (String.ofList (digits ++ rest)).map Char.toLower ≠ word := by
  obtain ⟨d, more, rfl⟩ := List.exists_cons_of_ne_nil hd.ne_nil
  have digit : d.isDigit = true := hd.digit d List.mem_cons_self
  have bounds : 48 ≤ d.toNat ∧ d.toNat ≤ 57 := Char.isDigit_iff_toNat.mp digit
  have lower : d.toLower = d := by
    refine dif_neg ?_
    simp only [UInt32.le_iff_toNat_le]
    show ¬(65 ≤ d.toNat ∧ d.toNat ≤ 90)
    omega
  rintro rfl
  simp [lower] at hw
  rw [hw, hc] at digit
  contradiction

theorem readFloat?_text {fraction part mark : List Char} {exponent : Int} (hd : IsDigits digits)
    (hf : FractionText fraction part) (he : ExponentText mark exponent) (negative : Bool)
    (clean : ∀ c ∈ signChars negative ++ (digits ++ (fraction ++ mark)), Text.isBlank c = false) :
    readFloat? (String.ofList (signChars negative ++ (digits ++ (fraction ++ mark)))) =
      some (nearestFloat negative (digitsValue (digits ++ part)) (exponent - part.length)) := by
  unfold readFloat?
  rw [trim_ofList clean, String.toList_ofList, readSign_signChars hd negative]
  dsimp only
  rw [if_neg, if_neg (map_toLower_ne hd _ (c := 'n') rfl rfl)]
  · exact readMagnitude?_text hd hf he negative
  · rw [not_or]
    exact ⟨map_toLower_ne hd _ (c := 'i') rfl rfl, map_toLower_ne hd _ (c := 'i') rfl rfl⟩

/-- The text of a number is read as that number, whatever follows that is not part of one. -/
theorem readNumber_text {text : List Char} {n : Number Float} (h : NumberText text n)
    (hr : ∀ c ∈ rest.head?, isNumberChar c = false) :
    readNumber (text ++ rest) = some (.number n, rest) := by
  have chars := isNumberChar_of_numberText h
  have clean : ∀ c ∈ text, Text.isBlank c = false := fun c hc => isBlank_of_isNumberChar (chars c hc)
  have nothing : rest.takeWhile isNumberChar = [] := by
    cases rest with
    | nil => rfl
    | cons c rest => simp [hr c rfl]
  have word : (text ++ rest).takeWhile isNumberChar = text := by
    rw [List.takeWhile_append_of_pos chars, nothing, List.append_nil]
  have back : (text ++ rest).drop text.length = rest := List.drop_left
  unfold readNumber
  dsimp only
  rw [word, back]
  cases h with
  | whole negative hd =>
      rw [any_mark_digits hd.toIsDigits, if_neg Bool.false_ne_true,
        readInt?_text hd.toIsDigits negative clean]
      rfl
  | real negative hd hf he some hx =>
      rw [List.any_append, List.any_append, any_mark hf he some, Bool.or_true, Bool.or_true,
        if_pos rfl, readFloat?_text hd.toIsDigits hf he negative clean, eq_of_isNearest hx rfl]
      rfl

end Reading

/-! ## Writing -/

section Writing

theorem toList_digitText (n : Nat) : (digitText n).toList = Nat.toDigits 10 n := by
  rw [digitText, Nat.toString_eq_ofList_toDigits, String.toList_ofList]

theorem isDigits_toDigits (n : Nat) : IsDigits (Nat.toDigits 10 n) :=
  ⟨Nat.toDigits_ne_nil, fun _ hc => Nat.isDigit_of_mem_toDigits (by decide) (by decide) hc⟩

@[simp] theorem digitsValue_toDigits (n : Nat) : digitsValue (Nat.toDigits 10 n) = n :=
  Nat.ofDigitChars_ten_toDigits

theorem digitsValue_zeros (digits : List Char) (count : Nat) :
    digitsValue (digits ++ List.replicate count '0') = digitsValue digits * 10 ^ count := by
  rw [digitsValue, Nat.ofDigitChars_append, Nat.ofDigitChars_replicate_zero, Nat.mul_comm]
  rfl

/-- The digits of a number start with a zero only if they are that zero. -/
theorem isWhole_toDigits (n : Nat) : IsWhole (Nat.toDigits 10 n) := by
  refine { isDigits_toDigits n with noZero := ?_ }
  induction n using Nat.strongRecOn with
  | ind n ih =>
      intro zero
      by_cases small : n < 10
      · rw [Nat.toDigits_of_lt_base small] at zero ⊢
        simpa using zero
      · rw [Nat.toDigits_of_base_le (by decide) (by omega),
          List.head?_append_of_ne_nil _ Nat.toDigits_ne_nil] at zero
        have front := ih (n / 10) (by omega) zero
        have none : n / 10 = 0 := by
          rw [← digitsValue_toDigits (n / 10), front]
          rfl
        omega

theorem numberText_whole (n : Int) : NumberText (toString n).toList (.whole n) := by
  cases n with
  | ofNat n =>
      have text := NumberText.whole false (isWhole_toDigits n)
      rw [digitsValue_toDigits] at text
      have same : (toString (Int.ofNat n)).toList = Nat.toDigits 10 n := toList_digitText n
      rw [same]
      exact text
  | negSucc n =>
      have text := NumberText.whole true (isWhole_toDigits (n + 1))
      rw [digitsValue_toDigits] at text
      have same : (toString (Int.negSucc n)).toList = '-' :: Nat.toDigits 10 (n + 1) := by
        show ("-" ++ digitText (n + 1)).toList = _
        rw [String.toList_append, toList_digitText]
        rfl
      rw [same]
      exact text

variable {digits : List Char} {exponent : Int} {negative : Bool} {x : Float}

theorem toList_signText (negative : Bool) : (signText negative).toList = signChars negative := by
  cases negative <;> rfl

/-- A sign and digits, at least two. -/
theorem exponentText_mark (exponent : Int) :
    ExponentText ('e' :: (exponentText exponent).toList) exponent := by
  obtain ⟨digits, hd, value, shown⟩ : ∃ digits, IsDigits digits ∧
      digitsValue digits = exponent.natAbs ∧
      (if (digitText exponent.natAbs).length < 2 then "0" ++ digitText exponent.natAbs
        else digitText exponent.natAbs).toList = digits := by
    have plain := isDigits_toDigits exponent.natAbs
    split
    · refine ⟨'0' :: Nat.toDigits 10 exponent.natAbs, ⟨by simp, ?_⟩, ?_, ?_⟩
      · rw [List.forall_mem_cons]
        exact ⟨rfl, plain.digit⟩
      · exact digitsValue_toDigits exponent.natAbs
      · rw [String.toList_append, toList_digitText]
        rfl
    · exact ⟨_, plain, digitsValue_toDigits exponent.natAbs, toList_digitText _⟩
  unfold exponentText
  dsimp only
  rw [String.toList_append, shown]
  split
  · have same : exponent = -digitsValue digits := by omega
    conv => rhs; rw [same]
    exact .minus (.inl rfl) hd
  · have same : exponent = digitsValue digits := by omega
    conv => rhs; rw [same]
    exact .plus (.inl rfl) hd

theorem numberText_of_eq {text whole fraction part mark : List Char} {power : Int} {number : ℚ}
    (hx : IsNearest negative number x) (hw : IsWhole whole) (hf : FractionText fraction part)
    (hm : ExponentText mark power) (some : fraction ++ mark ≠ [])
    (value : (digitsValue (whole ++ part) : ℚ) * 10 ^ (power - part.length) = number)
    (ht : text = signChars negative ++ (whole ++ (fraction ++ mark))) :
    NumberText text (.real x) := by
  rw [ht]
  exact .real negative hw hf hm some (by rwa [value])

theorem isWhole_zero : IsWhole ['0'] := isWhole_toDigits 0

theorem isDigits_zeros_append (count : Nat) (hd : IsDigits digits) :
    IsDigits (List.replicate count '0' ++ digits) := by
  refine ⟨by simp [hd.ne_nil], ?_⟩
  rw [List.forall_mem_append]
  exact ⟨fun c hc => by rw [List.eq_of_mem_replicate hc]; rfl, hd.digit⟩

theorem digitsValue_zeros_append (count : Nat) (digits : List Char) :
    digitsValue (List.replicate count '0' ++ digits) = digitsValue digits := by
  rw [digitsValue_append, ← List.nil_append (List.replicate count '0'), digitsValue_zeros]
  simp [digitsValue]

/-- A part of some digits has no needless zero at the front either. -/
theorem IsWhole.take (hd : IsWhole digits) {count : Nat} (h : 0 < count) :
    IsWhole (digits.take count) := by
  obtain ⟨c, more, rfl⟩ := List.exists_cons_of_ne_nil hd.ne_nil
  obtain ⟨k, rfl⟩ : ∃ k, count = k + 1 := ⟨count - 1, by omega⟩
  refine ⟨⟨by simp, fun c hc => hd.digit c (List.mem_of_mem_take hc)⟩, fun zero => ?_⟩
  rw [hd.noZero (by simpa using zero)]
  simp

theorem IsWhole.append_zeros (hd : IsWhole digits) (hne : digits ≠ ['0']) (count : Nat) :
    IsWhole (digits ++ List.replicate count '0') := by
  obtain ⟨c, more, rfl⟩ := List.exists_cons_of_ne_nil hd.ne_nil
  refine ⟨⟨by simp, ?_⟩, fun zero => absurd (hd.noZero (by simpa using zero)) hne⟩
  rw [List.forall_mem_append]
  exact ⟨hd.digit, fun c hc => by rw [List.eq_of_mem_replicate hc]; rfl⟩

/-- Digits by position: in front of the point, behind it, or on both sides. -/
theorem numberText_positional (hd : IsWhole digits) (hzero : digits = ['0'] → exponent = 0)
    (hx : IsNearest negative (digitsValue digits * 10 ^ exponent) x) :
    NumberText (signChars negative ++
      (positional (String.ofList digits) (digits.length + exponent) ++
        if (digits.length : Int) ≤ digits.length + exponent then ".0" else "").toList) (.real x) := by
  have pos : 0 < digits.length := List.length_pos_iff.mpr hd.ne_nil
  unfold positional
  by_cases front : (digits.length : Int) + exponent ≤ 0
  · obtain ⟨k, hk⟩ : ∃ k : Nat, -((digits.length : Int) + exponent) = k :=
      ⟨(-(digits.length + exponent)).toNat, by omega⟩
    rw [if_pos front, if_neg (by omega), hk]
    refine numberText_of_eq hx isWhole_zero (.point (isDigits_zeros_append k hd.toIsDigits)) .absent
      (by simp) ?_ (by simp [zeros])
    have all : digitsValue (['0'] ++ (List.replicate k '0' ++ digits)) = digitsValue digits := by
      rw [← List.append_assoc]
      exact digitsValue_zeros_append (k + 1) digits
    rw [all]
    congr 2
    simp only [List.length_append, List.length_replicate]
    omega
  rw [if_neg front]
  dsimp only
  rw [String.length_ofList]
  by_cases back : digits.length ≤ ((digits.length : Int) + exponent).toNat
  · obtain ⟨k, rfl⟩ := Int.eq_ofNat_of_zero_le (show 0 ≤ exponent by omega)
    have count : ((digits.length : Int) + k).toNat - digits.length = k := by omega
    rw [if_pos back, if_pos (by omega), count]
    have whole : IsWhole (digits ++ List.replicate k '0') := by
      by_cases zero : digits = ['0']
      · obtain rfl : k = 0 := by simpa using hzero zero
        simpa using hd
      · exact hd.append_zeros zero k
    refine numberText_of_eq hx whole (.point (isWhole_zero.toIsDigits)) .absent (by simp) ?_
      (by simp [zeros])
    rw [digitsValue_append, digitsValue_zeros]
    have zero : digitsValue ['0'] = 0 := digitsValue_toDigits 0
    rw [zero, zpow_natCast]
    push_cast
    simp
  · obtain ⟨k, hk⟩ : ∃ k : Nat, (digits.length : Int) + exponent = k :=
      ⟨(digits.length + exponent).toNat, by omega⟩
    rw [hk, Int.toNat_natCast] at back
    rw [hk, Int.toNat_natCast, if_neg back, if_neg (by omega)]
    have part : IsDigits (digits.drop k) :=
      ⟨by simpa using back, fun c hc => hd.digit c (List.mem_of_mem_drop hc)⟩
    have front : IsWhole (digits.take k) := hd.take (by omega)
    refine numberText_of_eq hx front (.point part) .absent (by simp) ?_
      (by simp)
    rw [List.take_append_drop]
    congr 2
    simp only [List.length_drop]
    omega

/-- Digits with an exponent. -/
theorem numberText_scientific (hd : IsWhole digits)
    (hx : IsNearest negative (digitsValue digits * 10 ^ exponent) x) :
    NumberText (signChars negative ++
      (scientific (String.ofList digits) (digits.length + exponent - 1)).toList) (.real x) := by
  obtain ⟨c, more, rfl⟩ := List.exists_cons_of_ne_nil hd.ne_nil
  have mark := exponentText_mark (((c :: more).length : Int) + exponent - 1)
  have first : IsWhole [c] := hd.take one_pos
  unfold scientific
  cases more with
  | nil =>
      refine numberText_of_eq hx first .absent mark (by simp) ?_ (by simp)
      simp
  | cons d rest =>
      have part : IsDigits (d :: rest) :=
        ⟨by simp, fun c hc => hd.digit c (List.mem_cons_of_mem _ hc)⟩
      refine numberText_of_eq hx first (.point part) mark (by simp) ?_ (by simp)
      congr 2
      simp only [List.length_cons]
      push_cast
      ring

theorem isNearest_shortest {m : Nat} {e : Int} (h : Binary.ofFloat x = .finite negative m e) :
    IsNearest negative ((shortest m e).digits * 10 ^ (shortest m e).exponent) x := by
  obtain ⟨canonical, bounded⟩ := canonical_of_ofFloat h
  refine ⟨m, e, h, ?_⟩
  by_cases zero : m = 0
  · subst zero
    simpa [shortest] using reads_self 0 e
  · exact reads_shortest canonical bounded zero

/-- The digits found for a double are a zero only for zero. -/
theorem exponent_eq_zero_of_digits {m : Nat} {e : Int} (h : Canonical m e) (he : e ≤ 971)
    (zero : (shortest m e).digits = 0) : (shortest m e).exponent = 0 := by
  by_cases none : m = 0
  · subst none
    rfl
  · have reads := reads_shortest h he none
    rw [zero, Nat.cast_zero, zero_mul] at reads
    exact absurd (eq_zero_of_reads h reads (by positivity)) none

theorem numberText_real (h : x.isFinite = true) :
    NumberText (shortestText numberLayout x).toList (.real x) := by
  obtain ⟨negative, m, e, parts⟩ := Binary.ofFloat_eq_finite_iff.mpr h
  obtain ⟨canonical, bounded⟩ := canonical_of_ofFloat parts
  have near := isNearest_shortest parts
  have whole := isWhole_toDigits (shortest m e).digits
  have value := digitsValue_toDigits (shortest m e).digits
  have zero := exponent_eq_zero_of_digits canonical bounded
  have text : digitText (shortest m e).digits =
      String.ofList (Nat.toDigits 10 (shortest m e).digits) :=
    Nat.toString_eq_ofList_toDigits
  have point : (if m = 0 then 1 else ((digitText (shortest m e).digits).length : Int) +
      (shortest m e).exponent) = (Nat.toDigits 10 (shortest m e).digits).length +
        (shortest m e).exponent := by
    rw [length_digitText]
    split
    · rename_i none
      simp [shortest, none]
    · rfl
  unfold shortestText
  rw [parts]
  dsimp only
  rw [point, text, String.length_ofList, String.toList_append, toList_signText]
  generalize Nat.toDigits 10 (shortest m e).digits = digits at whole value
  rw [← value] at near
  split
  · refine numberText_positional whole (fun only => zero ?_) near
    rw [← value, only]
    rfl
  · have scientificText := numberText_scientific whole near
    split
    · rename_i one
      obtain ⟨c, rfl⟩ := List.length_eq_one_iff.mp one
      convert scientificText using 2
      simp [scientific, numberLayout, Layout.record]
    · exact scientificText

/-- Every finite number is written as a text that stands for it. -/
theorem numberText_numberText {n : Number Float} (h : n.IsFinite) :
    NumberText (numberText n).toList n := by
  cases n with
  | whole n => exact numberText_whole n
  | real x => exact numberText_real h

end Writing

end Json

end CommitLens
