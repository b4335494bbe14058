import CommitLens.Proofs.Change.Names
import CommitLens.Rules.Classify

/-!
# Breaking changes

A change is breaking if one of its deltas is.  Main statement: a file that is a
source text before and after breaks something exactly if it loses an export.  A
file that is no source text any more is not compared, and neither is one that
changes nothing but its name.
-/

namespace CommitLens

/-- One of the deltas is breaking. -/
def Breaks (deltas : List Delta) : Prop :=
  ∃ delta ∈ deltas, delta.severity = .breaking

@[simp] theorem not_breaks_nil : ¬ Breaks [] := by
  simp [Breaks]

@[simp] theorem breaks_cons {delta : Delta} {deltas : List Delta} :
    Breaks (delta :: deltas) ↔ delta.severity = .breaking ∨ Breaks deltas := by
  simp [Breaks]

theorem Severity.beq_breaking {severity : Severity} :
    (severity == .breaking) = true ↔ severity = .breaking := by
  cases severity with
  | other text => exact iff_of_false Bool.noConfusion Severity.noConfusion
  | _ => decide

theorem ComparedChange.isBreaking_iff {change : ComparedChange} :
    change.isBreaking = true ↔ Breaks change.deltas := by
  simp only [isBreaking, List.any_eq_true, Severity.beq_breaking, Breaks]

/-! ## Deltas between two surfaces -/

theorem NameChange.severity_delta {change : NameChange} {name : String} :
    (change.delta name).severity = .breaking ↔ change = .exportRemoved := by
  cases change <;> simp [delta]

namespace Surface

/-- The old version has an export that the new one does not have. -/
def LosesExport (old new : Surface) : Prop :=
  ∃ name ∈ old.exports, name ∉ new.exports

variable {old new : Surface}

theorem losesExport_iff :
    old.LosesExport new ↔ ∃ name, nameChange? old new name = some .exportRemoved := by
  simp only [LosesExport, nameChange?_eq_exportRemoved_iff]

theorem losesExport_empty : old.LosesExport {} ↔ old.exports.isEmpty = false := by
  rw [List.isEmpty_eq_false_iff_exists_mem]
  simp [LosesExport]

theorem nameChange?_of_mem_changedNames {change : NameChange} {names : List String}
    {delta : Delta} (h : delta ∈ changedNames old new change names) :
    ∃ name, nameChange? old new name = some change ∧ delta = change.delta name := by
  obtain ⟨name, hm, rfl⟩ := List.mem_map.mp h
  exact ⟨name, beq_iff_eq.mp (List.mem_filter.mp hm).2, rfl⟩

theorem nameChange?_of_mem_nameDeltas {delta : Delta} (h : delta ∈ nameDeltas old new) :
    ∃ change name, nameChange? old new name = some change ∧ delta = change.delta name := by
  rw [nameDeltas_eq] at h
  simp only [List.mem_append] at h
  rcases h with ((h | h) | h) | h <;> exact ⟨_, nameChange?_of_mem_changedNames h⟩

theorem severity_of_mem_interfaceDeltas {delta : Delta} (h : delta ∈ interfaceDeltas old new) :
    delta.severity ≠ .breaking := by
  obtain ⟨name, members, others, _, _, hd⟩ := mem_interfaceDeltas.mp h
  rcases mem_memberDeltas.mp hd with ⟨member, _, rfl⟩ | ⟨member, _, rfl⟩
  · simp [removedMember]
  · unfold addedMember
    split <;> simp

theorem severity_of_mem_importDeltas {delta : Delta} (h : delta ∈ importDeltas old new) :
    delta.severity ≠ .breaking := by
  rcases mem_importDeltas.mp h with ⟨module, _, rfl⟩ | ⟨module, _, rfl⟩
  · simp [addedImport]
  · simp [removedImport]

/-- The breaking deltas are those of the removed exports. -/
theorem mem_deltas_of_breaking {delta : Delta} (hs : delta.severity = .breaking) :
    delta ∈ deltas old new ↔ ∃ name, nameChange? old new name = some .exportRemoved ∧
      delta = NameChange.exportRemoved.delta name := by
  constructor
  · intro hd
    rcases List.mem_append.mp hd with hd | hd
    · rcases List.mem_append.mp hd with hd | hd
      · obtain ⟨change, name, hn, rfl⟩ := nameChange?_of_mem_nameDeltas hd
        obtain rfl := NameChange.severity_delta.mp hs
        exact ⟨name, hn, rfl⟩
      · exact absurd hs (severity_of_mem_interfaceDeltas hd)
    · exact absurd hs (severity_of_mem_importDeltas hd)
  · rintro ⟨name, hn, rfl⟩
    have hm : NameChange.exportRemoved.delta name ∈ nameDeltas old new := by
      rw [nameDeltas_eq]
      simp only [List.mem_append, List.append_assoc]
      left
      apply List.mem_map_of_mem
      rw [List.mem_filter, hn]
      exact ⟨(nameChange?_eq_exportRemoved_iff.mp hn).1, rfl⟩
    exact List.mem_append_left _ (List.mem_append_left _ hm)

theorem exportRemoved_mem_deltas {name : String} :
    NameChange.exportRemoved.delta name ∈ deltas old new ↔
      name ∈ old.exports ∧ name ∉ new.exports := by
  rw [mem_deltas_of_breaking rfl, ← nameChange?_eq_exportRemoved_iff]
  constructor
  · rintro ⟨other, hn, same⟩
    obtain rfl : name = other := Option.some.inj (congrArg Delta.affectedSymbol same)
    exact hn
  · exact fun hn => ⟨name, hn, rfl⟩

theorem breaks_deltas : Breaks (deltas old new) ↔ old.LosesExport new := by
  rw [losesExport_iff]
  constructor
  · rintro ⟨delta, hd, hs⟩
    obtain ⟨name, hn, -⟩ := (mem_deltas_of_breaking hs).mp hd
    exact ⟨name, hn⟩
  · rintro ⟨name, hn⟩
    exact ⟨_, (mem_deltas_of_breaking rfl).mpr ⟨name, hn, rfl⟩, rfl⟩

end Surface

namespace Change

variable {change : Change} {old new : Surface}

theorem breaks_deltasBetween : Breaks (change.deltasBetween old new) ↔ old.LosesExport new := by
  by_cases hn : Surface.deltas old new = []
  · have hl : ¬ old.LosesExport new := by
      rw [← Surface.breaks_deltas, hn]
      exact not_breaks_nil
    rw [deltasBetween_of_nil hn, iff_false_right hl]
    split
    · exact not_breaks_nil
    · simp [implementationDelta]
  · rw [deltasBetween_of_ne_nil hn, Surface.breaks_deltas]

/-! ## The kinds of change -/

/-- The path under which the old version is read: a deleted file is read under
its own. -/
def readPath (change : Change) : String :=
  if change.kind = .deleted then change.path else change.oldPath

/-- The versions of a file that is modified, deleted or renamed, the old one read
under the given path.  The file exports nothing after it has been deleted or is no
source text any more. -/
structure HasVersions (change : Change) (path : String) (old new : Surface) : Prop where
  kind : change.kind = .modified ∨ change.kind = .deleted ∨ change.kind = .renamed
  code : isCodePath path = true
  oldText : ∃ text, change.old = some text ∧ parseSource path text = .ok old
  newText : change.kind ≠ .deleted → isCodePath change.path = true →
    ∃ text, change.new = some text ∧ parseSource change.path text = .ok new
  gone : change.kind = .deleted ∨ isCodePath change.path = false → new = {}

/-- The file gets another name and keeps its content. -/
def OnlyRenamed (change : Change) : Prop :=
  change.kind = .renamed ∧ change.old = change.new

namespace HasVersions

variable (h : change.HasVersions change.readPath old new)
include h

theorem oldSurface (hk : change.kind ≠ .deleted) :
    change.oldSurface = .ok old := by
  obtain ⟨text, ht, hs⟩ := h.oldText
  have hp : change.readPath = change.oldPath := if_neg hk
  rw [Change.oldSurface, ← hp, if_pos h.code, Change.oldText, ht]
  exact hs

theorem parse_newText (hk : change.kind ≠ .deleted) (hp : isCodePath change.path = true) :
    parseSource change.path change.newText = .ok new := by
  obtain ⟨text, ht, hs⟩ := h.newText hk hp
  rw [Change.newText, ht]
  exact hs

theorem breaks_compareModified (hk : change.kind ≠ .deleted)
    (hp : isCodePath change.path = true) :
    ∃ found, change.compareModified = .ok found ∧ (Breaks found.deltas ↔ old.LosesExport new) := by
  obtain ⟨summary, hc⟩ := compareModified_ok (h.oldSurface hk) (h.parse_newText hk hp)
  exact ⟨_, hc, breaks_deltasBetween⟩

theorem breaks_compareDeleted (hk : change.kind = .deleted) :
    ∃ found, change.compareDeleted = .ok found ∧ (Breaks found.deltas ↔ old.LosesExport new) := by
  obtain ⟨text, ht, hs⟩ := h.oldText
  have hp : change.readPath = change.path := if_pos hk
  have hold : parseSource change.path change.oldText = .ok old := by
    rw [← hp, Change.oldText, ht]
    exact hs
  refine ⟨_, compareDeleted_ok hold, ?_⟩
  rw [h.gone (Or.inl hk), Surface.losesExport_empty]
  cases he : old.exports.isEmpty <;> simp [deletionDelta, he]

/-- The delta for the new name is not breaking; those of the contents stand behind
it, unless there is nothing to compare. -/
theorem breaks_compareRenamed (hk : change.kind = .renamed) (hp : isCodePath change.path = true) :
    ∃ found, change.compareRenamed = .ok found ∧
      (Breaks found.deltas ↔ change.old ≠ change.new ∧ old.LosesExport new) := by
  have hd : change.kind ≠ .deleted := by simp [hk]
  by_cases heq : change.old = change.new
  · obtain ⟨summary, hc⟩ := compareRenamed_of_eq heq
    exact ⟨_, hc, by simp [renamingDelta, heq]⟩
  · obtain ⟨oldText, ho, _⟩ := h.oldText
    obtain ⟨newText, hn, _⟩ := h.newText hd hp
    obtain ⟨found, hc, hb⟩ := h.breaks_compareModified hd hp
    refine ⟨_, compareRenamed_of_ne heq (by simp [ho]) (by simp [hn]) hc, ?_⟩
    simp [renamingDelta, heq, hb]

theorem breaks_compare (hp : isCodePath change.path = true) :
    ∃ found, change.compare = .ok found ∧
      (Breaks found.deltas ↔ ¬ change.OnlyRenamed ∧ old.LosesExport new) := by
  have hc : change.compare = change.compareSource := if_pos hp
  rw [hc]
  rcases h.kind with hk | hk | hk <;> simp only [compareSource, OnlyRenamed, hk]
  · simpa using h.breaks_compareModified (by simp [hk]) hp
  · simpa using h.breaks_compareDeleted hk
  · simpa using h.breaks_compareRenamed hk hp

end HasVersions

end Change

namespace LinkedChange

variable {change : LinkedChange} {old new : Surface}

/-- A file whose versions can be read is breaking exactly if it still is a source
text, is more than renamed, and loses an export. -/
theorem classify_breaking_iff (rules : List Rule) (h : change.HasVersions change.readPath old new) :
    (change.compare.1.classify rules).breaking = true ↔
      isCodePath change.path = true ∧ ¬ change.OnlyRenamed ∧ old.LosesExport new := by
  show change.compare.1.isBreaking = true ↔ _
  rw [ComparedChange.isBreaking_iff]
  by_cases hp : isCodePath change.path = true
  · obtain ⟨found, hc, hb⟩ := h.breaks_compare hp
    rw [compare_of_ok hc, and_iff_right hp]
    exact hb
  · have hc : change.toChange.compare = .ok change.describeOther := if_neg hp
    rw [compare_of_ok hc, iff_false_right fun hn => hp hn.1]
    exact not_breaks_nil

/-- A file that is renamed and stops exporting a name. -/
theorem classify_breaking_iff_renamed :
    let change : LinkedChange :=
      { Change.ofContents "b.py" .renamed (some "x = 1\n") (some "y = 1\n") (some "a.py") with }
    let old : Surface := { exports := ["x"], variableNames := ["x"] }
    let new : Surface := { exports := ["y"], variableNames := ["y"] }
    change.HasVersions change.readPath old new ∧
      ((change.compare.1.classify []).breaking = true ↔
        isCodePath change.path = true ∧ ¬ change.OnlyRenamed ∧ old.LosesExport new) := by
  intro change old new
  have h : change.HasVersions change.readPath old new :=
    { kind := by decide
      code := by decide +kernel
      oldText := ⟨"x = 1\n", rfl, by decide +kernel⟩
      newText := fun _ _ => ⟨"y = 1\n", rfl, by decide +kernel⟩
      gone := by decide +kernel }
  exact ⟨h, classify_breaking_iff [] h⟩

/-- A source text loses its export unnoticed if it becomes a note, if its name
says another language, and if its name did so before it is deleted. -/
theorem classify_breaking_unnoticed :
    let old : Surface := { exports := ["x"], variableNames := ["x"] }
    let note : LinkedChange :=
      { Change.ofContents "a.txt" .renamed (some "x = 1\n") (some "y\n") (some "a.py") with }
    let script : LinkedChange :=
      { Change.ofContents "a.js" .renamed (some "x = 1\n") (some "x = 1\n") (some "a.py") with }
    let deleted : LinkedChange :=
      { Change.ofContents "a.js" .deleted (some "x = 1\n") none (some "a.py") with }
    ∀ change ∈ [note, script, deleted], change.HasVersions change.oldPath old {} ∧
      ¬ ((change.compare.1.classify []).breaking = true ↔ old.LosesExport {}) := by
  intro old note script deleted change hm
  have lost : old.LosesExport {} := ⟨"x", by simp [old], by simp⟩
  have hold : parseSource "a.py" "x = 1\n" = .ok old := by decide +kernel
  have unnoticed : ∀ change ∈ [note, script, deleted],
      (change.compare.1.classify []).breaking = false := by decide +kernel
  refine ⟨?_, fun hc => ?_⟩
  · simp only [List.mem_cons, List.not_mem_nil, or_false] at hm
    rcases hm with rfl | rfl | rfl
    · exact
        { kind := by decide
          code := by decide +kernel
          oldText := ⟨"x = 1\n", rfl, hold⟩
          newText := fun _ hp => absurd hp (by decide +kernel)
          gone := fun _ => rfl }
    · exact
        { kind := by decide
          code := by decide +kernel
          oldText := ⟨"x = 1\n", rfl, hold⟩
          newText := fun _ _ => ⟨"x = 1\n", rfl, by decide +kernel⟩
          gone := fun _ => rfl }
    · exact
        { kind := by decide
          code := by decide +kernel
          oldText := ⟨"x = 1\n", rfl, hold⟩
          newText := fun hk => absurd rfl hk
          gone := fun _ => rfl }
  · have hb := hc.mpr lost
    rw [unnoticed change hm] at hb
    exact Bool.noConfusion hb

end LinkedChange

end CommitLens
