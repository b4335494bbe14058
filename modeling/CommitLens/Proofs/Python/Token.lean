import CommitLens.Proofs.Text.Line
import CommitLens.Python.Token

/-!
# Names among the tokens of a module

A name is a word, and a word has no line feed.  Main statement: the tokens of a text
keep to that, whether there is a fault in it or not.
-/

namespace CommitLens.Python

open Text

deriving instance ReflBEq, LawfulBEq for TokenKind

/-- Are the names among the tokens of one line? -/
def NamesOnOneLine (tokens : List Token) : Prop :=
  ∀ token ∈ tokens, token.kind = .name → OneLine token.text

def Lexer.Plain (lx : Lexer) : Prop :=
  NamesOnOneLine lx.done

def Lexed.Plain (lexed : Lexed) : Prop :=
  NamesOnOneLine lexed.tokens.toList

/-- What a step of the pass leaves, be it the last one or not. -/
def StepIsPlain {α : Type} (lexerOf : α → Lexer) : Except Lexed α → Prop
  | .error lexed => lexed.Plain
  | .ok value => (lexerOf value).Plain

variable {lx : Lexer} {kind : TokenKind} {text : String}

namespace Lexer.Plain

theorem push (h : lx.Plain) (ht : kind = .name → OneLine text) : (lx.push kind text).Plain :=
  List.forall_mem_cons.mpr ⟨ht, h⟩

theorem stop (h : lx.Plain) (fault : Option Fault) : (lx.stop fault).Plain := by
  intro token member
  exact h token (by simpa [Lexer.stop] using member)

/-- The ends of blocks are no names. -/
theorem foldl_push_dedent {β : Type} (h : lx.Plain) (levels : List β) :
    (levels.foldl (fun lx _ => lx.push .dedent "") lx).Plain := by
  induction levels generalizing lx with
  | nil => exact h
  | cons _ rest ih => exact ih (h.push nofun)

end Lexer.Plain

/-! ## Steps of the pass -/

theorem plain_indentTo (h : lx.Plain) (width tabs : Nat) :
    StepIsPlain id (indentTo lx width tabs) := by
  unfold indentTo
  dsimp only
  split
  · split
    · exact h
    · exact h.stop _
  · split
    · split
      · exact h.stop _
      · exact h.push nofun
    · split
      · exact h.stop _
      · refine Lexer.Plain.foldl_push_dedent ?_ _
        exact h

theorem plain_finished (h : lx.Plain) : (finished lx).Plain := by
  unfold finished
  dsimp only
  split
  · exact h.stop _
  · refine Lexer.Plain.stop (Lexer.Plain.push (.foldl_push_dedent ?_ _) ?_) _
    · exact h
    · exact nofun

theorem plain_readString (h : lx.Plain) (mark quoted : List Char) :
    StepIsPlain Prod.fst (readString lx mark quoted) := by
  unfold readString
  split
  · exact h.stop _
  · refine List.forall_mem_cons.mpr ⟨?_, h⟩
    exact nofun

theorem plain_readBracket (h : lx.Plain) (c : Char) : StepIsPlain id (readBracket lx c) := by
  unfold readBracket
  split
  · split
    · exact h.stop _
    · refine Lexer.Plain.push ?_ nofun
      exact h
  · split
    · split
      · refine Lexer.Plain.push ?_ nofun
        exact h
      · exact h.stop _
    · exact h.stop _

theorem oneLine_word (cs : List Char) : OneLine (String.ofList (cs.takeWhile isWordChar)) := by
  rw [oneLine_ofList]
  intro lineFeed
  exact absurd (List.mem_takeWhile_imp lineFeed) (by decide)

theorem plain_readToken (h : lx.Plain) (cs : List Char) :
    StepIsPlain Prod.fst (readToken lx cs) := by
  unfold readToken
  split
  · exact h
  · rename_i c rest
    dsimp only
    split
    · split
      · exact h.stop _
      · exact h.push nofun
    · split
      · exact plain_readString h _ _
      · split
        · split
          · exact plain_readString h _ _
          · split
            · exact h.push fun _ => oneLine_word (c :: rest)
            · exact h.stop _
        · split
          · have bracket := plain_readBracket h c
            cases hb : readBracket lx c with
            | error lexed => rwa [hb] at bracket
            | ok lx => rwa [hb] at bracket
          · split
            · exact h.stop _
            · exact h.push nofun

theorem plain_scan (fuel : Nat) (atStart : Bool) (h : lx.Plain) (cs : List Char) :
    (scan fuel atStart lx cs).Plain := by
  fun_induction scan fuel atStart lx cs
  -- where the pass ends
  case case1 | case2 | case4 | case16 | case18 => exact Lexer.Plain.stop h _
  case case3 | case9 => exact plain_finished h
  -- where it goes on with the tokens so far
  case case5 ih | case6 ih | case10 ih | case11 ih | case12 ih | case13 ih | case15 ih
  | case17 ih => exact ih h
  case case14 ih => exact ih (h.push nofun)
  -- at the start of a line
  case case7 _ _ _ lx _ width tabs _ indented _ _ _ =>
    have step := plain_indentTo (show lx.Plain from h) width tabs
    rwa [indented] at step
  case case8 _ _ _ lx _ width tabs _ indented _ _ _ ih =>
    have step := plain_indentTo (show lx.Plain from h) width tabs
    rw [indented] at step
    exact ih step
  -- within a line
  case case19 cs _ read _ _ _ _ _ _ _ _ _ =>
    have step := plain_readToken h cs
    rw [read] at step ⊢
    exact step
  case case20 cs _ _ read _ _ _ _ _ _ _ _ _ ih =>
    have step := plain_readToken h cs
    rw [read] at step ⊢
    exact ih step

/-- The names among the tokens of a text are of one line. -/
theorem plain_lexFrom (line : Nat) (cs : List Char) : (lexFrom line cs).Plain :=
  plain_scan _ _ (fun _ h => absurd h List.not_mem_nil) _

end CommitLens.Python
