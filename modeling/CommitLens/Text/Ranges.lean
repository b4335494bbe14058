import CommitLens.Text.Blank

/-!
# Sets of characters given by code point ranges

Tables of the Unicode character database are written as text: hexadecimal code
points and ranges `lo-hi` in increasing order, separated by blanks.  `CodeSet`
is such a table in memory; membership is a binary search.
-/

namespace CommitLens.Text

/-- Inclusive code point ranges in increasing order. -/
structure CodeSet where
  ranges : Array (Nat × Nat)

/-- The value of a hexadecimal digit, either case. -/
def hexDigit? (c : Char) : Option Nat :=
  if '0' ≤ c ∧ c ≤ '9' then some (c.toNat - 48)
  else if 'a' ≤ c ∧ c ≤ 'f' then some (c.toNat - 87)
  else if 'A' ≤ c ∧ c ≤ 'F' then some (c.toNat - 55)
  else none

/-- The number written by the hexadecimal digits of a text; other characters
are passed over. -/
def hexValue (digits : List Char) : Nat :=
  digits.foldl (fun value c => match hexDigit? c with
    | some digit => 16 * value + digit
    | none => value) 0

/-- Has the text only characters below 128? -/
def isAscii (text : String) : Bool :=
  text.toList.all fun c => c.toNat < 128

/-- The words of a text, spaces and line ends between them dropped. -/
def tableWords (text : String) : List (List Char) :=
  ((splitOnChar '\n' text.toList).flatMap (splitOnChar ' ')).filter fun word => !word.isEmpty

/-- The entries of a table that is written line by line; words that are none are
passed over. -/
def table {α : Type} (read? : List Char → Option α) (lines : List String) : Array α :=
  ((lines.flatMap tableWords).filterMap read?).toArray

namespace CodeSet

/-- Read a table of code points and ranges. -/
def ofText (text : String) : CodeSet :=
  ⟨((tableWords text).map fun word =>
    match splitOnChar '-' word with
    | [lo, hi] => (hexValue lo, hexValue hi)
    | _ => (hexValue word, hexValue word)).toArray⟩

/-- Search the ranges with index in `[lo, lo + width)`. -/
def search (ranges : Array (Nat × Nat)) (code : Nat) : Nat → Nat → Nat → Bool
  | 0, _, _ => false
  | _ + 1, _, 0 => false
  | fuel + 1, lo, width + 1 =>
      let half := width / 2
      match ranges[lo + half]? with
      | none => false
      | some (first, last) =>
          if code < first then search ranges code fuel lo half
          else if last < code then search ranges code fuel (lo + half + 1) (width - half)
          else true

def contains (set : CodeSet) (c : Char) : Bool :=
  search set.ranges c.toNat (set.ranges.size + 1) 0 set.ranges.size

end CodeSet

end CommitLens.Text
