import CommitLens.Glob.Pattern
import CommitLens.Proofs.Text

/-!
# What patterns match

A pattern is a list of segments, and so is a path.  Main statement: a path matches a
pattern exactly if some alternative of it covers the path segment by segment, where
`**` covers any number of segments.
-/

namespace CommitLens.Glob

/-! ## Covering -/

/-- The segment that stands for any number of segments. -/
def deepText : List Char :=
  ['*', '*']

/-- Segments of a pattern cover those of a path; `fits` says what a segment other than
`**` covers. -/
inductive Covers (fits : List Char → List Char → Prop) :
    List (List Char) → List (List Char) → Prop where
  | nil : Covers fits [] []
  | deep {patterns back : List (List Char)} (front : List (List Char)) :
      Covers fits patterns back → Covers fits (deepText :: patterns) (front ++ back)
  | single {pattern part : List Char} {patterns parts : List (List Char)} :
      pattern ≠ deepText → fits pattern part → Covers fits patterns parts →
      Covers fits (pattern :: patterns) (part :: parts)

section Covers

variable {fits : List Char → List Char → Prop} {pattern : List Char}
  {patterns parts : List (List Char)}

theorem covers_nil_iff : Covers fits [] parts ↔ parts = [] := by
  constructor
  · rintro ⟨⟩
    rfl
  · rintro rfl
    exact .nil

theorem covers_deep_iff :
    Covers fits (deepText :: patterns) parts ↔
      ∃ front back, parts = front ++ back ∧ Covers fits patterns back := by
  constructor
  · intro h
    cases h with
    | deep front h => exact ⟨front, _, rfl, h⟩
    | single hne => exact absurd rfl hne
  · rintro ⟨front, back, rfl, h⟩
    exact .deep front h

theorem covers_single_iff (h : pattern ≠ deepText) :
    Covers fits (pattern :: patterns) parts ↔
      ∃ part rest, parts = part :: rest ∧ fits pattern part ∧ Covers fits patterns rest := by
  constructor
  · intro hc
    cases hc with
    | deep => exact absurd rfl h
    | single _ hf hc => exact ⟨_, _, rfl, hf, hc⟩
  · rintro ⟨part, rest, rfl, hf, hc⟩
    exact .single h hf hc

/-- Without `**`, every segment covers one segment. -/
theorem covers_iff_forall₂ (h : deepText ∉ patterns) :
    Covers fits patterns parts ↔ List.Forall₂ fits patterns parts := by
  induction patterns generalizing parts with
  | nil =>
      rw [covers_nil_iff]
      constructor
      · rintro rfl
        exact .nil
      · rintro ⟨⟩
        rfl
  | cons pattern patterns ih =>
      have hne : pattern ≠ deepText := fun he => h (he ▸ List.mem_cons_self)
      have hrest : deepText ∉ patterns := fun hm => h (List.mem_cons_of_mem pattern hm)
      constructor
      · intro hc
        obtain ⟨part, rest, rfl, hf, hc⟩ := (covers_single_iff hne).mp hc
        exact .cons hf ((ih hrest).mp hc)
      · rintro (_ | ⟨hf, hc⟩)
        exact .single hne hf ((ih hrest).mpr hc)

end Covers

/-! ## The matcher -/

/-- What one segment covers. -/
def Fits (pattern part : List Char) : Prop :=
  matchPieces (pieces pattern) part

theorem mem_rests_iff {α : Type} {back parts : List α} :
    back ∈ rests parts ↔ ∃ front, parts = front ++ back := by
  induction parts with
  | nil => simp [rests]
  | cons part parts ih =>
      rw [rests, List.mem_cons, ih]
      constructor
      · rintro (rfl | ⟨front, rfl⟩)
        · exact ⟨[], rfl⟩
        · exact ⟨part :: front, rfl⟩
      · rintro ⟨front, h⟩
        cases front with
        | nil => exact .inl h.symm
        | cons first front => exact .inr ⟨front, (List.cons.inj h).2⟩

/-- The matcher skips a `**` behind another.  What the two leave out can be left out at
once, so it may as well try both. -/
theorem matchSegments_deep_iff (segments : List Segment) (parts : List (List Char)) :
    matchSegments (.deep :: segments) parts ↔
      ∃ front back, parts = front ++ back ∧ matchSegments segments back := by
  have tried (segments : List Segment) (parts : List (List Char)) :
      ((rests parts).any fun back => matchSegments segments back) = true ↔
        ∃ front back, parts = front ++ back ∧ matchSegments segments back := by
    simp only [List.any_eq_true, mem_rests_iff]
    constructor
    · rintro ⟨back, ⟨front, rfl⟩, h⟩
      exact ⟨front, back, rfl, h⟩
    · rintro ⟨front, back, rfl, h⟩
      exact ⟨back, ⟨front, rfl⟩, h⟩
  induction segments generalizing parts with
  | nil => exact tried [] parts
  | cons first rest ih =>
      cases first with
      | single pieces => exact tried (.single pieces :: rest) parts
      | deep =>
          rw [matchSegments]
          constructor
          · exact fun h => ⟨[], parts, rfl, h⟩
          · rintro ⟨front, back, rfl, h⟩
            obtain ⟨more, last, rfl, hlast⟩ := (ih back).mp h
            exact (ih _).mpr ⟨front ++ more, last, (List.append_assoc ..).symm, hlast⟩

theorem matchSegments_map_ofText_iff (patterns parts : List (List Char)) :
    matchSegments (patterns.map Segment.ofText) parts ↔ Covers Fits patterns parts := by
  induction patterns generalizing parts with
  | nil => simp [matchSegments, covers_nil_iff]
  | cons pattern patterns ih =>
      rw [List.map_cons]
      by_cases h : pattern = deepText
      · subst h
        have deep : Segment.ofText deepText = .deep := rfl
        simp only [deep, matchSegments_deep_iff, covers_deep_iff, ih]
      · have single : Segment.ofText pattern = .single (pieces pattern) := if_neg h
        rw [single, covers_single_iff h]
        cases parts with
        | nil => simp [matchSegments]
        | cons part parts => simp [matchSegments, Fits, ih]

/-- Of several `**` in a row one is enough. -/
theorem matchSegments_append_deep_deep (before after : List Segment)
    (parts : List (List Char)) :
    matchSegments (before ++ .deep :: .deep :: after) parts =
      matchSegments (before ++ .deep :: after) parts := by
  induction before generalizing parts with
  | nil => rfl
  | cons first rest ih =>
      rw [List.cons_append, List.cons_append]
      cases first with
      | deep =>
          rw [Bool.eq_iff_iff, matchSegments_deep_iff, matchSegments_deep_iff]
          simp only [ih]
      | single pieces =>
          cases parts with
          | nil => rfl
          | cons part parts => rw [matchSegments, matchSegments, ih]

/-! ## Segments of texts -/

/-- The segments of a path, with its backslashes as slashes. -/
def pathTexts (path : List Char) : List (List Char) :=
  segmentTexts (path.map fun c => if c = '\\' then '/' else c)

/-- The segments of an alternative, cut and cleared like those of a path; its backslashes
are no slashes, and a slash at its end adds a `**`. -/
def patternTexts (pattern : List Char) : List (List Char) :=
  segmentTexts pattern ++ if pattern.getLast? = some '/' then [deepText] else []

theorem slash_notMem_of_mem_segmentTexts {path part : List Char}
    (h : part ∈ segmentTexts path) : '/' ∉ part :=
  Text.separator_notMem_of_mem_splitOnChar (List.mem_filter.mp h).1

theorem segmentTexts_append_slash (front rest : List Char) :
    segmentTexts (front ++ '/' :: rest) = segmentTexts front ++ segmentTexts rest := by
  rw [segmentTexts, Text.splitOnChar_append_cons, List.filter_append]
  rfl

theorem segmentsOf_eq (pattern : List Char) :
    segmentsOf pattern = (patternTexts pattern).map Segment.ofText := by
  unfold segmentsOf patternTexts
  by_cases h : pattern.getLast? = some '/'
  · obtain ⟨front, rfl⟩ := List.getLast?_eq_some_iff.mp h
    have deep : segmentTexts ['*', '*'] = [deepText] := by decide
    have none : segmentTexts [] = [] := by decide
    simp [h, segmentTexts_append_slash, deep, none]
  · simp [h]

theorem matchSegments_segmentsOf_iff (pattern : List Char) (parts : List (List Char)) :
    matchSegments (segmentsOf pattern) parts ↔ Covers Fits (patternTexts pattern) parts := by
  rw [segmentsOf_eq, matchSegments_map_ofText_iff]

/-- A path matches a pattern exactly if an alternative of the pattern covers it.  The
number of `**` in a row makes no difference, and without any of them each segment of the
alternative covers one of the path, which has no slash. -/
theorem accepts_iff_covers (pattern path : String) :
    (accepts pattern path ↔ ∃ alternative ∈ expandBraces pattern,
      Covers Fits (patternTexts alternative.toList) (pathTexts path.toList)) ∧
    (∀ before after parts, matchSegments (before ++ .deep :: .deep :: after) parts =
      matchSegments (before ++ .deep :: after) parts) ∧
    (∀ part ∈ pathTexts path.toList, '/' ∉ part) ∧
    ∀ alternative, deepText ∉ patternTexts alternative →
      (matchSegments (segmentsOf alternative) (pathTexts path.toList) ↔
        List.Forall₂ Fits (patternTexts alternative) (pathTexts path.toList)) := by
  refine ⟨?_, matchSegments_append_deep_deep, fun _ => slash_notMem_of_mem_segmentTexts, ?_⟩
  · simp only [← matchSegments_segmentsOf_iff]
    exact List.any_eq_true
  · intro alternative h
    rw [matchSegments_segmentsOf_iff, covers_iff_forall₂ h]

end CommitLens.Glob
