import CommitLens.Proofs.Text
import Mathlib.Data.List.TakeWhile

/-!
# Lines of texts

A text is one line if it has no line feed.  Where lines may be continued, each line
feed stands behind a backslash.
-/

namespace CommitLens.Text

/-- Has the text no line feed? -/
def OneLine (text : String) : Prop :=
  '\n' ∉ text.toList

instance (text : String) : Decidable (OneLine text) :=
  inferInstanceAs (Decidable ('\n' ∉ text.toList))

@[simp] theorem oneLine_append {a b : String} : OneLine (a ++ b) ↔ OneLine a ∧ OneLine b := by
  simp [OneLine]

theorem oneLine_ofList {cs : List Char} : OneLine (String.ofList cs) ↔ '\n' ∉ cs := by
  rw [OneLine, String.toList_ofList]

theorem eq_of_ofNat_eq_lineFeed {code : Nat} (h : Char.ofNat code = '\n') : code = 10 := by
  by_cases valid : code.isValidChar
  · have same := congrArg Char.toNat h
    rwa [Char.ofNat, dif_pos valid] at same
  · rw [Char.ofNat, dif_neg valid] at h
    contradiction

theorem mem_of_mem_splitOnChar {separator : Char} {cs part : List Char}
    (h : part ∈ splitOnChar separator cs) : part ⊆ cs := by
  induction cs generalizing part with
  | nil =>
      obtain rfl := List.mem_singleton.mp h
      exact List.Subset.refl _
  | cons c cs ih =>
      rw [splitOnChar_cons] at h
      by_cases hc : c = separator
      · rw [if_pos hc, List.mem_cons] at h
        rcases h with rfl | h
        · exact List.nil_subset _
        · exact List.subset_cons_of_subset c (ih h)
      · obtain ⟨first, more, hcs⟩ := List.exists_cons_of_ne_nil (splitOnChar_ne_nil separator cs)
        rw [if_neg hc, hcs] at h
        rcases List.mem_cons.mp h with rfl | h
        · exact List.cons_subset_cons c (ih (hcs ▸ List.mem_cons_self))
        · exact List.subset_cons_of_subset c (ih (hcs ▸ List.mem_cons_of_mem first h))

theorem OneLine.of_mem_split {separator : Char} {text part : String} (h : OneLine text)
    (hp : part ∈ split separator text) : OneLine part := by
  obtain ⟨chars, hc, rfl⟩ := List.mem_map.mp hp
  exact oneLine_ofList.mpr fun lineFeed => h (mem_of_mem_splitOnChar hc lineFeed)

theorem OneLine.intercalate {separator : String} (hs : OneLine separator) {parts : List String}
    (h : ∀ part ∈ parts, OneLine part) : OneLine (separator.intercalate parts) := by
  induction parts with
  | nil => simp [OneLine]
  | cons part rest ih =>
      obtain ⟨here, later⟩ := List.forall_mem_cons.mp h
      by_cases hr : rest = []
      · subst hr
        simpa using here
      · rw [String.intercalate_cons_of_ne_nil hr, oneLine_append, oneLine_append]
        exact ⟨⟨here, hs⟩, ih later⟩

/-- Texts that are joined by line feeds keep their lines. -/
theorem lines_join {parts : List String} (ne : parts ≠ []) :
    lines (join "\n" parts) = parts.flatMap lines := by
  induction parts with
  | nil => contradiction
  | cons part rest ih =>
      by_cases hr : rest = []
      · subst hr
        simp [join]
      · have joined : (join "\n" (part :: rest)).toList =
            part.toList ++ '\n' :: (join "\n" rest).toList := by
          simp [join, String.intercalate_cons_of_ne_nil hr]
        rw [List.flatMap_cons, ← ih hr]
        simp only [lines, split, joined, splitOnChar_append_cons, List.map_append]

/-! ## The first line -/

/-- The text before the first line feed. -/
def firstLine (text : String) : String :=
  String.ofList (text.toList.takeWhile (· != '\n'))

theorem oneLine_firstLine (text : String) : OneLine (firstLine text) := by
  rw [firstLine, oneLine_ofList]
  intro lineFeed
  simpa using List.mem_takeWhile_imp lineFeed

theorem firstLine_of_oneLine {text : String} (h : OneLine text) : firstLine text = text := by
  have all : text.toList.takeWhile (· != '\n') = text.toList :=
    List.takeWhile_eq_self_iff.mpr fun c hc =>
      bne_iff_ne.mpr fun (he : c = '\n') => h (he ▸ hc)
  rw [firstLine, all, String.ofList_toList]

theorem firstLine_append {line : String} (h : OneLine line) (rest : String) :
    firstLine (line ++ "\n" ++ rest) = line := by
  have before : ∀ c ∈ line.toList, (c != '\n') = true := fun c hc =>
    bne_iff_ne.mpr fun he => h (he ▸ hc)
  have cut : (line ++ "\n" ++ rest).toList.takeWhile (· != '\n') = line.toList := by
    rw [String.toList_append, String.toList_append, List.append_assoc,
      List.takeWhile_append_of_pos before]
    simp
  rw [firstLine, cut, String.ofList_toList]

/-! ## Continued lines -/

/-- Does every line feed stand behind a backslash?  A carriage return may stand between
the two. -/
def Continued (text : String) : Prop :=
  ∀ before rest, text.toList = before ++ '\n' :: rest →
    ['\\'] <:+ before ∨ ['\\', '\r'] <:+ before

end CommitLens.Text
