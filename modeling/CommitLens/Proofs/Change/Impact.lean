import CommitLens.Proofs.Change.Breaking

/-!
# The impact of breaking changes

A comparison tells twice whether something breaks, by the severities of its deltas
and by its impact.  Main statement: the impact is major exactly if a delta is
breaking, for every kind of change and also for a file that cannot be read.
-/

namespace CommitLens

/-- Impact and deltas agree on whether something breaks. -/
def Comparison.Agrees (found : Comparison) : Prop :=
  found.impact = .major ↔ Breaks found.deltas

theorem Impact.max_moderate_eq_major_iff {impact : Impact} :
    impact.max .moderate = .major ↔ impact = .major := by
  cases impact <;> simp [Impact.max, Impact.rank]

namespace Change

variable {change : Change} {found : Comparison}

theorem compareAdded_agrees (h : change.compareAdded = .ok found) : found.Agrees := by
  unfold compareAdded at h
  cases hp : parseSource change.path change.newText with
  | error error =>
      rw [hp] at h
      contradiction
  | ok surface =>
      rw [hp] at h
      obtain rfl := Except.ok.inj h
      cases surface.exports.isEmpty <;> simp [Comparison.Agrees]

theorem compareDeleted_agrees (h : change.compareDeleted = .ok found) : found.Agrees := by
  cases hp : parseSource change.path change.oldText with
  | error error =>
      rw [compareDeleted, hp] at h
      contradiction
  | ok surface =>
      rw [compareDeleted_ok hp] at h
      obtain rfl := Except.ok.inj h
      cases he : surface.exports.isEmpty <;> simp [Comparison.Agrees, deletionDelta, he]

/-- Both the impact and the deltas tell of lost exports. -/
theorem compareModified_agrees (h : change.compareModified = .ok found) : found.Agrees := by
  cases ho : change.oldSurface with
  | error error =>
      rw [compareModified, ho] at h
      contradiction
  | ok old =>
      cases hn : parseSource change.path change.newText with
      | error error =>
          rw [compareModified, ho, hn] at h
          contradiction
      | ok new =>
          obtain ⟨summary, hc⟩ := compareModified_ok ho hn
          rw [hc] at h
          obtain rfl := Except.ok.inj h
          show Surface.impact old new = .major ↔ Breaks (change.deltasBetween old new)
          rw [Surface.impact_eq_major_iff, breaks_deltasBetween, Surface.losesExport_iff]

/-- The delta for the new name never breaks anything, and the impact is raised to
moderate at most. -/
theorem compareRenamed_agrees (h : change.compareRenamed = .ok found) : found.Agrees := by
  unfold compareRenamed at h
  split at h
  · obtain rfl := Except.ok.inj h
    simp [Comparison.Agrees]
  · cases hc : change.compareModified with
    | error error =>
        rw [hc] at h
        contradiction
    | ok inner =>
        rw [hc] at h
        obtain rfl := Except.ok.inj h
        have hi : inner.impact = .major ↔ Breaks inner.deltas := compareModified_agrees hc
        simp [Comparison.Agrees, Impact.max_moderate_eq_major_iff, hi]

theorem compareSource_agrees (h : change.compareSource = .ok found) : found.Agrees := by
  unfold compareSource at h
  cases hk : change.kind with
  | added => exact compareAdded_agrees (by simpa only [hk] using h)
  | deleted => exact compareDeleted_agrees (by simpa only [hk] using h)
  | renamed => exact compareRenamed_agrees (by simpa only [hk] using h)
  | modified => exact compareModified_agrees (by simpa only [hk] using h)
  | other text => exact compareModified_agrees (by simpa only [hk] using h)

theorem compare_agrees (h : change.compare = .ok found) : found.Agrees := by
  unfold compare at h
  split at h
  · exact compareSource_agrees h
  · obtain rfl := Except.ok.inj h
    simp [Comparison.Agrees, describeOther]

end Change

namespace LinkedChange

variable (change : LinkedChange)

/-- A file that cannot be read has no deltas and a minor impact. -/
theorem compare_impact_eq_major_iff :
    change.compare.1.impact = .major ↔ Breaks change.compare.1.deltas := by
  cases h : change.toChange.compare with
  | ok found =>
      rw [compare_of_ok h]
      exact Change.compare_agrees h
  | error error =>
      rw [compare_of_error h]
      simp [withComparison]

end LinkedChange

end CommitLens
