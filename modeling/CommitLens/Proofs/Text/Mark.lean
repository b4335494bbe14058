import CommitLens.Text.Blank
import Mathlib.Data.List.Infix

/-!
# Marks in texts that are put together

A text is searched for a mark.  Main statement: if fixed words keep what stands before
them apart from what stands behind them, then the mark is found in the whole exactly if
it is found before the words or behind them.
-/

namespace CommitLens.Text

theorem hasPart_iff {part cs : List Char} : hasPart part cs = true ↔ part <:+: cs := by
  induction cs with
  | nil => rw [hasPart, List.isEmpty_iff, List.infix_nil]
  | cons c cs ih => rw [hasPart, Bool.or_eq_true, List.isPrefixOf_iff_prefix, ih, List.infix_cons_iff]

theorem containsText_iff {text part : String} :
    containsText text part = true ↔ part.toList <:+: text.toList :=
  hasPart_iff

/-- A mark that is found in a text has no letter in common with the words: it does not begin
in them, does not end in them, and does not go beyond them on both sides. -/
structure Separates (mark words : String) : Prop where
  uncovered : ¬words.toList <:+: mark.toList
  start : ∀ back ∈ words.toList.tails, back ≠ [] →
    ¬back <+: mark.toList ∧ ¬mark.toList <+: back
  stop : ∀ front ∈ words.toList.inits, front ≠ [] → ¬front <:+ mark.toList

instance (mark words : String) : Decidable (Separates mark words) :=
  decidable_of_iff
    (¬words.toList <:+: mark.toList ∧
      (∀ back ∈ words.toList.tails, back ≠ [] →
        ¬back <+: mark.toList ∧ ¬mark.toList <+: back) ∧
      ∀ front ∈ words.toList.inits, front ≠ [] → ¬front <:+ mark.toList)
    ⟨fun ⟨uncovered, start, stop⟩ => ⟨uncovered, start, stop⟩,
      fun ⟨uncovered, start, stop⟩ => ⟨uncovered, start, stop⟩⟩

namespace Separates

variable {mark words : String} (h : Separates mark words)

include h

theorem words_ne_nil : words.toList ≠ [] := by
  intro none
  exact h.uncovered (none ▸ List.nil_infix)

theorem mark_ne_nil : mark.toList ≠ [] := by
  intro none
  have whole : words.toList ∈ words.toList.tails := (List.mem_tails _ _).mpr (List.suffix_refl _)
  exact (h.start _ whole h.words_ne_nil).2 (none ▸ List.nil_prefix)

theorem mark_notWithin : ¬mark.toList <:+: words.toList := by
  rintro ⟨before, after, whole⟩
  have behind : mark.toList ++ after <:+ words.toList := ⟨before, by rw [← whole, List.append_assoc]⟩
  have filled : mark.toList ++ after ≠ [] := List.append_ne_nil_of_left_ne_nil h.mark_ne_nil after
  exact (h.start _ ((List.mem_tails _ _).mpr behind) filled).2 (List.prefix_append _ _)

/-- What begins before the words ends before them. -/
theorem infix_append_left {front : List Char} (hi : mark.toList <:+: front ++ words.toList) :
    mark.toList <:+: front := by
  rcases List.infix_append_iff.mp hi with there | inside | ⟨first, second, parts, hf, hs⟩
  · exact there
  · exact absurd inside h.mark_notWithin
  · by_cases none : second = []
    · rw [parts, none, List.append_nil]
      exact hf.isInfix
    · have last : second <:+ mark.toList := ⟨first, parts.symm⟩
      exact absurd last (h.stop second ((List.mem_inits _ _).mpr hs) none)

theorem infix_append {front back : List Char} :
    mark.toList <:+: front ++ words.toList ++ back ↔
      mark.toList <:+: front ∨ mark.toList <:+: back := by
  constructor
  · intro hi
    rcases List.infix_append_iff.mp hi with before | behind | ⟨first, second, parts, hf, hs⟩
    · exact .inl (h.infix_append_left before)
    · exact .inr behind
    · have start : first <+: mark.toList := ⟨second, parts.symm⟩
      rcases List.suffix_or_suffix_of_suffix hf (List.suffix_append front words.toList) with
        short | long
      · by_cases none : first = []
        · rw [parts, none, List.nil_append]
          exact .inr hs.isInfix
        · exact absurd start (h.start first ((List.mem_tails _ _).mpr short) none).1
      · exact absurd (long.isInfix.trans start.isInfix) h.uncovered
  · rintro (before | behind)
    · exact before.trans ⟨[], words.toList ++ back, by simp⟩
    · exact behind.trans (List.suffix_append _ _).isInfix

theorem containsText_between (front back : String) :
    containsText (front ++ words ++ back) mark = true ↔
      containsText front mark = true ∨ containsText back mark = true := by
  simp only [containsText_iff, String.toList_append, h.infix_append]

theorem containsText_empty : ¬containsText "" mark = true := by
  rw [containsText_iff]
  exact fun hi => h.mark_ne_nil (List.infix_nil.mp hi)

theorem containsText_behind (back : String) :
    containsText (words ++ back) mark = true ↔ containsText back mark = true := by
  simpa [h.containsText_empty] using h.containsText_between "" back

theorem containsText_before (front : String) :
    containsText (front ++ words) mark = true ↔ containsText front mark = true := by
  simpa [h.containsText_empty] using h.containsText_between front ""

end Separates

end CommitLens.Text
