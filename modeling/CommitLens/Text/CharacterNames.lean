import CommitLens.Text.Blank
import CommitLens.Text.NameTable
import CommitLens.Text.Ranges

/-!
# Names of characters

A name is looked up without regard to case.  Syllables of Hangul are named after the letters in
them, and ideographs and the characters of some scripts after their code points; these are
found by their rules, and all others in the table.
-/

namespace CommitLens.Text

/-! ## Syllables -/

def hangulLeads : List String :=
  ["G", "GG", "N", "D", "DD", "R", "M", "B", "BB", "S", "SS", "", "J", "JJ", "C", "K", "T", "P",
    "H"]

def hangulVowels : List String :=
  ["A", "AE", "YA", "YAE", "EO", "E", "YEO", "YE", "O", "WA", "WAE", "OE", "YO", "U", "WEO", "WE",
    "WI", "YU", "EU", "YI", "I"]

def hangulTails : List String :=
  ["", "G", "GG", "GS", "N", "NJ", "NH", "D", "L", "LG", "LM", "LB", "LS", "LT", "LP", "LH", "M",
    "B", "BS", "S", "SS", "NG", "J", "C", "K", "T", "P", "H"]

/-- The position of the longest sound that the characters start with, and what follows it. -/
def takeSound? (sounds : List String) (cs : List Char) : Option (Nat × List Char) :=
  (sounds.zipIdx.foldl (fun longest (sound, i) =>
    if startsWith cs sound.toList && longest.all fun (size, _) => size < sound.length then
      some (sound.length, i)
    else longest) none).map fun (size, i) => (i, cs.drop size)

/-- The code point of a syllable. -/
def syllable? (cs : List Char) : Option Nat := do
  let (lead, cs) ← takeSound? hangulLeads cs
  let (vowel, cs) ← takeSound? hangulVowels cs
  let (tail, cs) ← takeSound? hangulTails cs
  if cs.isEmpty then
    some (0xac00 + (lead * hangulVowels.length + vowel) * hangulTails.length + tail)
  else none

/-! ## Characters with their code points in their names -/

/-- Where the unified ideographs are. -/
def unifiedIdeographs : List (Nat × Nat) :=
  [(0x3400, 0x4dbf), (0x4e00, 0x9fff), (0x20000, 0x2a6df), (0x2a700, 0x2b738),
    (0x2b740, 0x2b81d), (0x2b820, 0x2cea1), (0x2ceb0, 0x2ebe0), (0x30000, 0x3134a)]

/-- What the names of the other ones begin with, and where these are. -/
def numberedCharacters : List (String × List (Nat × Nat)) :=
  [("CJK COMPATIBILITY IDEOGRAPH-", [(0xf900, 0xfa6d), (0xfa70, 0xfad9), (0x2f800, 0x2fa1d)]),
    ("KHITAN SMALL SCRIPT CHARACTER-", [(0x18b00, 0x18cd5)]),
    ("NUSHU CHARACTER-", [(0x1b170, 0x1b2fb)])]

def isUpperHex (c : Char) : Bool :=
  c.isDigit || ('A' ≤ c && c ≤ 'F')

/-- The code point that four or five digits give. -/
def numberIn? (ranges : List (Nat × Nat)) (digits : List Char) : Option Nat :=
  let code := hexValue digits
  if (digits.length == 4 || digits.length == 5) && digits.all isUpperHex &&
      ranges.any fun (first, last) => first ≤ code && code ≤ last then some code
  else none

/-- A number is written without idle zeros in front. -/
def numbered? (name : List Char) : Option Nat :=
  numberedCharacters.findSome? fun (start, ranges) =>
    let digits := name.drop start.length
    if startsWith name start.toList then
      (numberIn? ranges digits).filter fun code =>
        digits.length == if code < 0x10000 then 4 else 5
    else none

/-! ## The table -/

/-- Cut a name behind its spaces and hyphens. -/
def nameParts : List Char → List (List Char)
  | [] => []
  | c :: cs =>
      if c == ' ' || c == '-' then [c] :: nameParts cs
      else match nameParts cs with
        | [] => [[c]]
        | part :: rest => (c :: part) :: rest

/-- Find a name, which ends with a space, in entries; the first of them comes with a code point
and the parts of the name before it. -/
def findName? (name : List Char) : Nat → List (List Char) → List (List Char) → Option Nat
  | _, _, [] => none
  | next, before, entry :: rest =>
      let (code, text) := match splitOnChar '=' (entry.dropWhile isBlank) with
        | [digits, text] => (hexValue digits, text)
        | parts => (next, parts.headD [])
      let kept := before.take (hexValue (text.take 1))
      let own := if text.length ≤ 1 then [] else nameParts (text.drop 1 ++ [' '])
      if (kept ++ own).flatten == name then some code
      else findName? name (code + 1) (kept ++ own) rest

/-- The code point with a name.  In those of syllables and of unified ideographs case counts. -/
def characterNamed? (name : String) : Option Nat :=
  let syllables := "HANGUL SYLLABLE "
  let ideographs := "CJK UNIFIED IDEOGRAPH-"
  if name.startsWith syllables then syllable? (name.toList.drop syllables.length)
  else if name.startsWith ideographs then
    numberIn? unifiedIdeographs (name.toList.drop ideographs.length)
  else
    let upper := name.toList.map Char.toUpper
    (numbered? upper).or
      (findName? (upper ++ [' ']) 0 [] (splitOnChar ';' characterNames.toList))

end CommitLens.Text
