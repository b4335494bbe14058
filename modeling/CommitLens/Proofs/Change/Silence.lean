import CommitLens.Proofs.Change.Names

/-!
# Comparisons without a delta

A surface does not differ from itself, and contents that differ are reported even where
their surfaces agree.  Main statement: a modified or renamed source text has no deltas of
its contents exactly if the contents are equal; so a renamed file whose comparison is cut
short is reported as if it had been compared.
-/

namespace CommitLens

@[simp] theorem without_self (items : List String) : without items items = [] := by
  simp [without]

namespace Surface

@[simp] theorem membersWithout_self (members : List InterfaceMember) :
    membersWithout members members = [] := by
  refine List.filter_eq_nil_iff.mpr fun member hm => ?_
  have found : (members.any fun other => other.name == member.name) = true :=
    List.any_eq_true.mpr ⟨member, hm, beq_self_eq_true member.name⟩
  simp [found]

/-! ## A surface and itself -/

variable {surface : Surface}

@[simp] theorem nameChange?_self (surface : Surface) (name : String) :
    nameChange? surface surface name = none := by
  unfold nameChange?
  cases surface.exports.contains name <;> cases surface.declarations.contains name <;> rfl

theorem nameDeltas_self (surface : Surface) : nameDeltas surface surface = [] := by
  simp [nameDeltas_eq, changedNames]

/-- An interface that is listed once is found with the members that it is listed with. -/
theorem interfaceDeltas_self (h : surface.Distinct) : interfaceDeltas surface surface = [] := by
  refine List.flatMap_eq_nil_iff.mpr fun (name, members) hm => ?_
  have found : surface.members? name = some members := h.members?_eq_some_iff.mpr hm
  simp [found, memberDeltas_eq]

theorem importDeltas_self (surface : Surface) : importDeltas surface surface = [] := by
  simp [importDeltas_eq]

theorem deltas_self (h : surface.Distinct) : deltas surface surface = [] := by
  rw [deltas, nameDeltas_self, interfaceDeltas_self h, importDeltas_self]
  rfl

theorem impact_self (surface : Surface) : impact surface surface = .minor := by
  simp [impact_eq_minor_iff]

end Surface

/-! ## Texts of one language -/

/-- Only an error names the path; what is read depends on the language. -/
theorem parseSource_eq_of_language {path other text : String} {surface : Surface}
    (h : Language.ofPath? path = Language.ofPath? other) (hs : parseSource path text = .ok surface) :
    parseSource other text = .ok surface := by
  unfold parseSource at hs ⊢
  rw [← h]
  split at hs
  · contradiction
  · split at hs
    · exact hs
    · contradiction
  · split at hs
    · exact hs
    · contradiction

namespace Change

theorem compare_of_renamed {change : Change} (hp : isCodePath change.path = true)
    (hk : change.kind = .renamed) : change.compare = change.compareRenamed := by
  simp [compare, compareSource, hp, hk]

variable {change : Change} {a b : String} {old new : Surface}

/-- A source text with both of its contents, which are read as the same language. -/
structure Compares (change : Change) (a b : String) (old new : Surface) : Prop where
  code : isCodePath change.path = true
  language : Language.ofPath? change.oldPath = Language.ofPath? change.path
  oldContent : change.old = some a
  newContent : change.new = some b
  oldParses : parseSource change.oldPath a = .ok old
  newParses : parseSource change.path b = .ok new

theorem Compares.oldSurface (h : change.Compares a b old new) : change.oldSurface = .ok old := by
  have code : isCodePath change.oldPath = true := by
    rw [isCodePath, h.language]
    exact h.code
  rw [Change.oldSurface, if_pos code, oldText, h.oldContent]
  exact h.oldParses

theorem Compares.newSurface (h : change.Compares a b old new) :
    parseSource change.path change.newText = .ok new := by
  rw [newText, h.newContent]
  exact h.newParses

/-- Equal contents have one surface. -/
theorem Compares.surface_eq (h : change.Compares a a old new) : old = new := by
  have same := parseSource_eq_of_language h.language h.oldParses
  rw [h.newParses] at same
  exact (Except.ok.inj same).symm

theorem Compares.old_eq_new_iff (h : change.Compares a b old new) :
    change.old = change.new ↔ a = b := by
  rw [h.oldContent, h.newContent, Option.some.injEq]

theorem Compares.deltasBetween_eq_nil_iff (h : change.Compares a b old new) :
    change.deltasBetween old new = [] ↔ a = b := by
  constructor
  · intro none
    by_cases hd : Surface.deltas old new = []
    · rw [deltasBetween_of_nil hd] at none
      split at none
      · exact h.old_eq_new_iff.mp ‹_›
      · contradiction
    · rw [deltasBetween_of_ne_nil hd] at none
      contradiction
  · rintro rfl
    obtain rfl := h.surface_eq
    have same : Surface.deltas old old = [] := Surface.deltas_self (parseSource_distinct h.newParses)
    rw [deltasBetween_of_nil same, if_pos (h.old_eq_new_iff.mpr rfl)]

/-- What is reported of a change of name: the new name first, then what is found in the
contents; the impact is moderate at least. -/
structure Moves (change : Change) (found moved : Comparison) : Prop where
  deltas : moved.deltas = change.renamingDelta :: found.deltas
  impact : moved.impact = found.impact.max .moderate

/-- Whether or not the contents are looked at, the report is the one of their
comparison. -/
theorem Compares.compareRenamed_moves (h : change.Compares a b old new) {found : Comparison}
    (hc : change.compareModified = .ok found) :
    ∃ moved, change.compareRenamed = .ok moved ∧ change.Moves found moved := by
  by_cases same : a = b
  · subst same
    obtain rfl := h.surface_eq
    obtain ⟨summary, compared⟩ := compareModified_ok h.oldSurface h.newSurface
    obtain rfl := Except.ok.inj (hc.symm.trans compared)
    obtain ⟨summary', short⟩ := compareRenamed_of_eq (h.old_eq_new_iff.mpr rfl)
    refine ⟨_, short, ?_, ?_⟩
    · rw [h.deltasBetween_eq_nil_iff.mpr rfl]
    · rw [Surface.impact_self]
      rfl
  · exact ⟨_, compareRenamed_of_ne (mt h.old_eq_new_iff.mp same) (by simp [h.oldContent])
      (by simp [h.newContent]) hc, rfl, rfl⟩

/-- What the comparison of two contents finds: nothing exactly if they are equal.  It is what
is reported of a modified file, and behind the new name of a renamed one. -/
structure Reports (change : Change) (a b : String) (found : Comparison) : Prop where
  deltas_eq_nil_iff : found.deltas = [] ↔ a = b
  modified : change.kind = .modified → change.compare = .ok found
  renamed : change.kind = .renamed →
    ∃ moved, change.compare = .ok moved ∧ change.Moves found moved

/-- A source text whose contents can be read has no delta of its contents exactly if they are
equal, and its renaming is reported as if the contents had been compared, also where they are
not. -/
theorem compareModified_reports (h : change.Compares a b old new) :
    ∃ found, change.compareModified = .ok found ∧ change.Reports a b found := by
  obtain ⟨summary, compared⟩ := compareModified_ok h.oldSurface h.newSurface
  refine ⟨_, compared, h.deltasBetween_eq_nil_iff, fun hk => ?_, fun hk => ?_⟩
  · rw [compare_of_modified h.code hk]
    exact compared
  · rw [compare_of_renamed h.code hk]
    exact h.compareRenamed_moves compared

/-- A file of another extension for the same language, with a blank more. -/
theorem compareModified_reports_renamed :
    let a := "import 'm'\nexport interface I { a: T; a?: U }\n"
    let b := "import 'm' \nexport interface I { a: T; a?: U }\n"
    let surface : Surface :=
      { exports := ["I"], interfaces := ["I"], imports := [⟨"m", []⟩]
        interfaceMembers := [("I", [⟨"a", false⟩, ⟨"a", true⟩])] }
    let change := Change.ofContents "b.mts" .renamed (some a) (some b) (some "a.ts")
    change.Compares a b surface surface ∧
      ∃ found, change.compareModified = .ok found ∧ change.Reports a b found := by
  intro a b surface change
  have h : change.Compares a b surface surface :=
    { code := by decide +kernel
      language := by decide +kernel
      oldContent := rfl
      newContent := rfl
      oldParses := by decide +kernel
      newParses := by decide +kernel }
  exact ⟨h, compareModified_reports h⟩

end Change

end CommitLens
