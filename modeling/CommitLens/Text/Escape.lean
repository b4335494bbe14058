/-!
# Escape sequences

Sequences of characters that tell a terminal how to show a text.  They are left out of a
text that goes to something else.
-/

namespace CommitLens.Text

/-- Characters between the bracket and the letter of a sequence. -/
def isParameter (c : Char) : Bool :=
  c == ';' || c == '?' || c.isDigit

/-- The length of the sequence that a text starts with, nothing if there is none. -/
def sequenceLength : List Char → Nat
  | '\x1b' :: '[' :: rest =>
      let parameters := rest.takeWhile isParameter
      match rest.drop parameters.length with
      | c :: _ => if c.isAlpha then parameters.length + 3 else 0
      | [] => 0
  | _ => 0

/-- A text without its sequences, after some characters that are left out. -/
def dropSequences : Nat → List Char → List Char
  | _, [] => []
  | count + 1, _ :: cs => dropSequences count cs
  | 0, c :: cs =>
      match sequenceLength (c :: cs) with
      | 0 => c :: dropSequences 0 cs
      | count + 1 => dropSequences count cs

/-- A text as it is shown where there is no terminal. -/
def unstyled (text : String) : String :=
  String.ofList (dropSequences 0 text.toList)

end CommitLens.Text
