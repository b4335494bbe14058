import CommitLens.Python.Literal

/-!
# Texts of literals

The text of a string literal keeps its codes apart, surrogates included.  Main statement:
literals with different codes have different texts.
-/

namespace CommitLens.Python

/-- The codes that characters were spelled for. -/
def readCodes : List Char → List Nat
  | [] => []
  | [c] => [c.toNat]
  | c :: d :: rest =>
      if c = surrogateMark then
        (if d = surrogateMark then 0x10ffff else d.toNat - 0x100000) :: readCodes rest
      else c.toNat :: readCodes (d :: rest)

theorem toNat_ofNat_of_valid {code : Nat} (h : code < 0xd800 ∨ 0xdfff < code ∧ code < 0x110000) :
    (Char.ofNat code).toNat = code := by
  rw [Char.ofNat, dif_pos h]
  rfl

theorem toNat_surrogateMark : surrogateMark.toNat = 0x10ffff := by decide

/-- A code is read back whatever follows. -/
theorem readCodes_spellCode {code : Nat} (h : code < 0x110000) (rest : List Char) :
    readCodes (spellCode code ++ rest) = code :: readCodes rest := by
  unfold spellCode
  split
  · -- The private character is not the mark.
    rename_i surrogate
    simp only [Bool.and_eq_true, decide_eq_true_eq] at surrogate
    have read : (Char.ofNat (0x100000 + code)).toNat = 0x100000 + code :=
      toNat_ofNat_of_valid (by omega)
    have other : Char.ofNat (0x100000 + code) ≠ surrogateMark := by
      intro same
      have codes := congrArg Char.toNat same
      rw [read, toNat_surrogateMark] at codes
      omega
    show readCodes (surrogateMark :: Char.ofNat (0x100000 + code) :: rest) = _
    rw [readCodes, if_pos rfl, if_neg other, read, Nat.add_sub_cancel_left]
  · rename_i character
    simp only [Bool.and_eq_true, decide_eq_true_eq] at character
    split
    · rename_i mark
      obtain rfl := eq_of_beq mark
      show readCodes (surrogateMark :: surrogateMark :: rest) = _
      rw [readCodes, if_pos rfl, if_pos rfl]
    · rename_i plain
      have read : (Char.ofNat code).toNat = code := toNat_ofNat_of_valid (by omega)
      have other : Char.ofNat code ≠ surrogateMark := by
        intro same
        have codes := congrArg Char.toNat same
        rw [read, toNat_surrogateMark] at codes
        exact plain (beq_iff_eq.mpr codes)
      cases rest with
      | nil => exact congrArg (fun n => [n]) read
      | cons d rest =>
          show readCodes (Char.ofNat code :: d :: rest) = _
          rw [readCodes, if_neg other, read]

theorem readCodes_toList_textOfCodes {codes : List Nat} (h : ∀ code ∈ codes, code < 0x110000) :
    readCodes (textOfCodes codes).toList = codes := by
  rw [textOfCodes, String.toList_ofList]
  induction codes with
  | nil => rfl
  | cons code codes ih =>
      rw [List.forall_mem_cons] at h
      rw [List.flatMap_cons, readCodes_spellCode h.1, ih h.2]

/-- No two lists of codes have one text. -/
theorem textOfCodes_inj {codes codes' : List Nat} (h : ∀ code ∈ codes, code < 0x110000)
    (h' : ∀ code ∈ codes', code < 0x110000) (same : textOfCodes codes = textOfCodes codes') :
    codes = codes' := by
  rw [← readCodes_toList_textOfCodes h, same, readCodes_toList_textOfCodes h']

example : decodeText false "\\ud800".toList ≠ decodeText false "\\ud801".toList := by
  decide +kernel

end CommitLens.Python
