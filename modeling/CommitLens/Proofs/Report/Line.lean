import CommitLens.Proofs.Report.Header
import CommitLens.Report.Render

/-!
# Numbers in reports

No notation of a number has a line feed, so that a line of a report is one line if the texts in
it are.
-/

namespace CommitLens

open Text (OneLine oneLine_ofList)

namespace Decimal

theorem oneLine_ofList_subset {s : String} {cs : List Char} (h : OneLine s) (hs : cs ⊆ s.toList) :
    OneLine (String.ofList cs) :=
  oneLine_ofList.mpr fun lineFeed => h (hs lineFeed)

@[simp] theorem oneLine_zeros (count : Nat) : OneLine (zeros count) := by
  rw [zeros, oneLine_ofList]
  simp

@[simp] theorem oneLine_digitText (n : Nat) : OneLine (digitText n) :=
  oneLine_toString n

@[simp] theorem oneLine_signText (negative : Bool) : OneLine (signText negative) := by
  cases negative <;> decide

theorem oneLine_positional {digits : String} (h : OneLine digits) (point : Int) :
    OneLine (positional digits point) := by
  have front (count : Nat) := oneLine_ofList_subset h (List.take_subset count digits.toList)
  have back (count : Nat) := oneLine_ofList_subset h (List.drop_subset count digits.toList)
  unfold positional
  dsimp only
  split_ifs <;> simp +decide [*]

@[simp] theorem oneLine_exponentText (exponent : Int) : OneLine (exponentText exponent) := by
  unfold exponentText
  dsimp only
  split_ifs <;> simp +decide [*]

theorem oneLine_scientific {digits : String} (h : OneLine digits) (exponent : Int) :
    OneLine (scientific digits exponent) := by
  have front (count : Nat) := oneLine_ofList_subset h (List.take_subset count digits.toList)
  have back := oneLine_ofList_subset h (List.tail_subset digits.toList)
  unfold scientific
  dsimp only
  split_ifs <;> simp +decide [*]

theorem oneLine_withPlaces (n places : Nat) : OneLine (withPlaces n places) := by
  have padded : OneLine (zeros (places + 1 - (digitText n).length) ++ digitText n) := by simp
  unfold withPlaces
  dsimp only
  split_ifs
  · exact padded
  · have front (count : Nat) := oneLine_ofList_subset padded (List.take_subset count _)
    have back (count : Nat) := oneLine_ofList_subset padded (List.drop_subset count _)
    rw [Text.oneLine_append, Text.oneLine_append]
    exact ⟨⟨front _, by decide⟩, back _⟩

@[simp] theorem oneLine_fixedText (places : Nat) (x : Float) : OneLine (fixedText places x) := by
  unfold fixedText
  split
  · decide
  · simp +decide
  · simpa [fixedMagnitude] using oneLine_withPlaces _ places

theorem oneLine_dropLastZeros {digits : String} (h : OneLine digits) :
    OneLine (dropLastZeros digits) := by
  refine oneLine_ofList_subset h fun c hc => ?_
  exact List.mem_reverse.mp ((List.dropWhile_suffix _).subset (List.mem_reverse.mp hc))

@[simp] theorem oneLine_generalText (count : Nat) (x : Float) : OneLine (generalText count x) := by
  unfold generalText
  split
  · decide
  · simp +decide
  · have digits (n : Nat) : OneLine (dropLastZeros (digitText n)) :=
      oneLine_dropLastZeros (oneLine_digitText n)
    split_ifs
    · simp +decide
    · dsimp only
      split_ifs
      · simpa using oneLine_positional (digits _) _
      · simpa using oneLine_scientific (digits _) _

end Decimal

@[simp] theorem oneLine_repr (n : Nat) : OneLine n.repr :=
  oneLine_toString n

@[simp] theorem oneLine_repr_int (n : Int) : OneLine n.repr := by
  cases n with
  | ofNat n => exact oneLine_repr n
  | negSucc n => exact Text.oneLine_append.mpr ⟨by decide, oneLine_repr _⟩

@[simp] theorem FileCounts.oneLine_line (counts : FileCounts) : OneLine counts.line := by
  simp +decide [FileCounts.line]

end CommitLens
