import CommitLens.Proofs.Text.Line

/-!
# Paragraphs

Paragraphs are the runs of lines between empty ones.  How many empty lines there are, and
whether a text ends in line feeds, makes no difference to them.
-/

namespace CommitLens.Text

variable {lines : List String} {sections : List (List String)}

def paragraphs (lines : List String) : List (List String) :=
  (lines.splitOnP fun line => line.isEmpty).filter fun part => !part.isEmpty

@[simp] theorem paragraphs_nil : paragraphs [] = [] := rfl

/-- An empty line ends a paragraph. -/
theorem paragraphs_append (before after : List String) :
    paragraphs (before ++ "" :: after) = paragraphs before ++ paragraphs after := by
  rw [paragraphs, List.splitOnP_append_cons _ _ rfl, List.filter_append]
  rfl

@[simp] theorem paragraphs_cons_empty (lines : List String) :
    paragraphs ("" :: lines) = paragraphs lines :=
  paragraphs_append [] lines

theorem paragraphs_append_empty (lines : List String) :
    paragraphs (lines ++ [""]) = paragraphs lines := by
  rw [paragraphs_append, paragraphs_nil, List.append_nil]

/-- Lines, none of them empty. -/
structure IsParagraph (lines : List String) : Prop where
  ne_nil : lines ≠ []
  full : ∀ line ∈ lines, line ≠ ""

theorem IsParagraph.paragraphs_eq (h : IsParagraph lines) : paragraphs lines = [lines] := by
  have full : ∀ line ∈ lines, line.isEmpty = false := fun line hl => by simpa using h.full line hl
  rw [paragraphs, List.splitOnP_eq_singleton full]
  simpa using h.ne_nil

/-! ## Sections -/

/-- Sections with an empty line before each. -/
def spread (sections : List (List String)) : List String :=
  sections.flatMap ("" :: ·)

@[simp] theorem spread_nil : spread [] = [] := rfl

@[simp] theorem spread_cons (part : List String) (sections : List (List String)) :
    spread (part :: sections) = "" :: (part ++ spread sections) := rfl

@[simp] theorem spread_append (sections others : List (List String)) :
    spread (sections ++ others) = spread sections ++ spread others := List.flatMap_append

/-- The sections are the paragraphs of their lines. -/
theorem paragraphs_append_spread (front : List String) (h : ∀ part ∈ sections, IsParagraph part) :
    paragraphs (front ++ spread sections) = paragraphs front ++ sections := by
  induction sections generalizing front with
  | nil => simp
  | cons part sections ih =>
      rw [List.forall_mem_cons] at h
      rw [spread_cons, paragraphs_append, ih part h.2, h.1.paragraphs_eq, List.singleton_append]

/-! ## Lines of texts -/

theorem lines_of_oneLine {text : String} (h : OneLine text) : Text.lines text = [text] :=
  split_of_notMem h

theorem flatMap_lines_of_oneLine (h : ∀ line ∈ lines, OneLine line) :
    lines.flatMap Text.lines = lines := by
  induction lines with
  | nil => rfl
  | cons line lines ih =>
      rw [List.forall_mem_cons] at h
      rw [List.flatMap_cons, lines_of_oneLine h.1, ih h.2, List.singleton_append]

/-- A line feed at the end begins an empty line. -/
theorem lines_append_lineFeed (text : String) :
    Text.lines (text ++ "\n") = Text.lines text ++ [""] := by
  rw [Text.lines, split, String.toList_append]
  show (splitOnChar '\n' (text.toList ++ '\n' :: [])).map String.ofList = _
  rw [splitOnChar_append_cons, List.map_append]
  rfl

theorem paragraphs_lines_append_lineFeed (text : String) :
    paragraphs (Text.lines (text ++ "\n")) = paragraphs (Text.lines text) := by
  rw [lines_append_lineFeed, paragraphs_append_empty]

end CommitLens.Text
