import CommitLens.Text.Ranges

/-!
# Entries of tables

A table is checked line by line: the characters of a line are known, so its words can be
read by evaluation.  Main statement: what every line passes holds of every entry.
-/

namespace CommitLens.Text

variable {α : Type} {read? : List Char → Option α} {check : α → Bool} {lines : List String}

/-- The words of a line that is given as characters. -/
def wordsOf (cs : List Char) : List (List Char) :=
  ((splitOnChar '\n' cs).flatMap (splitOnChar ' ')).filter fun word => !word.isEmpty

/-- The entries of a line pass the check. -/
def Passes (read? : List Char → Option α) (check : α → Bool) (line : String) : Prop :=
  ((tableWords line).filterMap read?).all check = true

theorem passes_of_eq_ofList {line : String} {cs : List Char} (h : line = String.ofList cs)
    (hc : ((wordsOf cs).filterMap read?).all check = true) : Passes read? check line := by
  rw [Passes, tableWords, h, String.toList_ofList]
  exact hc

theorem check_of_mem_table (check : α → Bool) (h : ∀ line ∈ lines, Passes read? check line)
    {entry : α} (he : entry ∈ table read? lines) : check entry = true := by
  rw [table, List.mem_toArray] at he
  obtain ⟨word, hw, read⟩ := List.mem_filterMap.mp he
  obtain ⟨line, hl, hw⟩ := List.mem_flatMap.mp hw
  exact List.all_eq_true.mp (h line hl) entry (List.mem_filterMap.mpr ⟨word, hw, read⟩)

end CommitLens.Text
