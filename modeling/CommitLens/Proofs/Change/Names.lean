import CommitLens.Proofs.Change.Comparison
import Mathlib.Data.List.Nodup

/-!
# Names in a modified file

A name is exported or not, and declared or not, by either version.  These four
facts decide what a modification reports about it.  Main statement: the deltas
report every name as they decide and at most once, removed exports first, and the
impact is read off the reported names.
-/

namespace CommitLens

/-- What can become of a name. -/
inductive NameChange where
  | exportRemoved
  | exportAdded
  | declarationRemoved
  | declarationAdded
  deriving Repr, DecidableEq

namespace NameChange

/-- The delta that reports it. -/
def delta : NameChange → String → Delta
  | exportRemoved, name =>
      ⟨.methodRemoved, "Removed export: " ++ name, .breaking, some name⟩
  | exportAdded, name =>
      ⟨.methodAdded, "Added export: " ++ name, .medium, some name⟩
  | declarationRemoved, name =>
      ⟨.implementationChanged, "Removed declaration: " ++ name, .medium, some name⟩
  | declarationAdded, name =>
      ⟨.implementationChanged, "Added declaration: " ++ name, .low, some name⟩

end NameChange

/-- Is the delta about the name?  The symbols of interface deltas are members,
not names of the file. -/
def Delta.reports (delta : Delta) (name : String) : Bool :=
  delta.kind ≠ .interfaceChanged && delta.affectedSymbol == some name

theorem NameChange.reports_delta (change : NameChange) (other name : String) :
    (change.delta other).reports name = (other == name) := by
  cases change <;> simp [delta, Delta.reports]

namespace Surface

/-- What becomes of a name between two versions.  A declaration counts only
while neither version exports the name. -/
def nameChange? (old new : Surface) (name : String) : Option NameChange :=
  match old.exports.contains name, new.exports.contains name with
  | true, true => none
  | true, false => some .exportRemoved
  | false, true => some .exportAdded
  | false, false =>
      match old.declarations.contains name, new.declarations.contains name with
      | true, false => some .declarationRemoved
      | false, true => some .declarationAdded
      | _, _ => none

/-- The deltas for those of the names that change in the given way. -/
def changedNames (old new : Surface) (change : NameChange) (names : List String) : List Delta :=
  (names.filter fun name => nameChange? old new name == some change).map change.delta

variable {old new : Surface} {name : String}

theorem nameChange?_eq_exportRemoved_iff :
    nameChange? old new name = some .exportRemoved ↔ name ∈ old.exports ∧ name ∉ new.exports := by
  by_cases ho : name ∈ old.exports <;> by_cases hn : name ∈ new.exports <;>
    simp [nameChange?, ho, hn]
  split <;> simp

theorem nameChange?_eq_exportAdded_iff :
    nameChange? old new name = some .exportAdded ↔ name ∈ new.exports ∧ name ∉ old.exports := by
  by_cases ho : name ∈ old.exports <;> by_cases hn : name ∈ new.exports <;>
    simp [nameChange?, ho, hn]
  split <;> simp

theorem nameChange?_eq_declarationRemoved_iff :
    nameChange? old new name = some .declarationRemoved ↔
      name ∈ old.declarations ∧ name ∉ new.declarations ∧
        name ∉ old.exports ∧ name ∉ new.exports := by
  by_cases ho : name ∈ old.exports <;> by_cases hn : name ∈ new.exports <;>
    by_cases hd : name ∈ old.declarations <;> by_cases he : name ∈ new.declarations <;>
    simp [nameChange?, ho, hn, hd, he]

theorem nameChange?_eq_declarationAdded_iff :
    nameChange? old new name = some .declarationAdded ↔
      name ∈ new.declarations ∧ name ∉ old.declarations ∧
        name ∉ old.exports ∧ name ∉ new.exports := by
  by_cases ho : name ∈ old.exports <;> by_cases hn : name ∈ new.exports <;>
    by_cases hd : name ∈ old.declarations <;> by_cases he : name ∈ new.declarations <;>
    simp [nameChange?, ho, hn, hd, he]

/-! ## The four groups -/

private theorem filter_eq_nameChange {names : List String} {change : NameChange}
    {p : String → Bool}
    (h : ∀ name ∈ names, p name = true ↔ nameChange? old new name = some change) :
    names.filter p = names.filter fun name => nameChange? old new name == some change := by
  apply List.filter_congr
  intro name hm
  rw [Bool.eq_iff_iff, h name hm, beq_iff_eq]

theorem removedExports_eq :
    removedExports old new =
      old.exports.filter fun name => nameChange? old new name == some .exportRemoved := by
  apply filter_eq_nameChange
  intro name hm
  simp [nameChange?_eq_exportRemoved_iff, hm]

theorem addedExports_eq :
    addedExports old new =
      new.exports.filter fun name => nameChange? old new name == some .exportAdded := by
  apply filter_eq_nameChange
  intro name hm
  simp [nameChange?_eq_exportAdded_iff, hm]

/-- Of the names that are left when the added exports are taken out, none is an
export of the old version, so only those exported now go. -/
theorem removedLocals_eq :
    removedLocals old new =
      old.declarations.filter fun name =>
        nameChange? old new name == some .declarationRemoved := by
  rw [removedLocals, localNames, without_without, without, List.filter_filter]
  apply filter_eq_nameChange
  intro name hm
  rw [nameChange?_eq_declarationRemoved_iff]
  simp only [addedExports, Bool.and_eq_true, Bool.not_eq_true', List.contains_eq_mem,
    decide_eq_false_iff_not, mem_without, hm, true_and]
  tauto

theorem addedLocals_eq :
    addedLocals old new =
      new.declarations.filter fun name =>
        nameChange? old new name == some .declarationAdded := by
  rw [addedLocals, localNames, without_without, without, List.filter_filter]
  apply filter_eq_nameChange
  intro name hm
  rw [nameChange?_eq_declarationAdded_iff]
  simp only [removedExports, Bool.and_eq_true, Bool.not_eq_true', List.contains_eq_mem,
    decide_eq_false_iff_not, mem_without, hm, true_and]
  tauto

theorem nameDeltas_eq :
    nameDeltas old new =
      changedNames old new .exportRemoved old.exports ++
        changedNames old new .exportAdded new.exports ++
        changedNames old new .declarationRemoved old.declarations ++
        changedNames old new .declarationAdded new.declarations := by
  simp only [nameDeltas, changedNames, removedExports_eq, addedExports_eq, removedLocals_eq,
    addedLocals_eq]
  rfl

/-! ## One report for each name -/

/-- A group without repetitions reports a name exactly if the name changes that
way. -/
theorem filter_reports_changedNames {change : NameChange} {names : List String}
    (hn : names.Nodup) (hm : nameChange? old new name = some change → name ∈ names) :
    (changedNames old new change names).filter (·.reports name) =
      if nameChange? old new name = some change then [change.delta name] else [] := by
  have hf : ((fun delta : Delta => delta.reports name) ∘ change.delta) =
      fun other => other == name := by
    funext other
    exact change.reports_delta other name
  rw [changedNames, List.filter_map, hf, List.filter_beq, (hn.filter _).count]
  by_cases h : nameChange? old new name = some change
  · simp [h, hm h]
  · simp [h]

theorem filter_reports_nameDeltas (hold : old.exports.Nodup) (hnew : new.exports.Nodup)
    (name : String) :
    (nameDeltas old new).filter (·.reports name) =
      ((nameChange? old new name).map fun change => change.delta name).toList := by
  rw [nameDeltas_eq]
  simp only [List.filter_append]
  rw [filter_reports_changedNames hold fun h => (nameChange?_eq_exportRemoved_iff.mp h).1,
    filter_reports_changedNames hnew fun h => (nameChange?_eq_exportAdded_iff.mp h).1,
    filter_reports_changedNames old.nodup_declarations fun h =>
      (nameChange?_eq_declarationRemoved_iff.mp h).1,
    filter_reports_changedNames new.nodup_declarations fun h =>
      (nameChange?_eq_declarationAdded_iff.mp h).1]
  cases nameChange? old new name with
  | none => simp
  | some change => cases change <;> simp

/-- Interfaces and imports say nothing about names. -/
theorem not_reports_of_mem {delta : Delta}
    (h : delta ∈ interfaceDeltas old new ∨ delta ∈ importDeltas old new) :
    delta.reports name = false := by
  rcases h with h | h
  · simp [Delta.reports, kind_of_mem_interfaceDeltas h]
  · rcases mem_importDeltas.mp h with ⟨module, _, rfl⟩ | ⟨module, _, rfl⟩ <;>
      simp [Delta.reports, addedImport, removedImport]

/-! ## The impact -/

theorem mem_removedExports :
    name ∈ removedExports old new ↔ nameChange? old new name = some .exportRemoved := by
  rw [removedExports, mem_without, nameChange?_eq_exportRemoved_iff]

theorem mem_addedExports :
    name ∈ addedExports old new ↔ nameChange? old new name = some .exportAdded := by
  rw [addedExports, mem_without, nameChange?_eq_exportAdded_iff]

theorem mem_removedLocals :
    name ∈ removedLocals old new ↔ nameChange? old new name = some .declarationRemoved := by
  rw [removedLocals_eq, List.mem_filter, beq_iff_eq]
  exact ⟨And.right, fun h => ⟨(nameChange?_eq_declarationRemoved_iff.mp h).1, h⟩⟩

theorem impact_eq_major_iff :
    impact old new = .major ↔ ∃ name, nameChange? old new name = some .exportRemoved := by
  simp only [← mem_removedExports, ← List.isEmpty_eq_false_iff_exists_mem, impact]
  cases (removedExports old new).isEmpty <;> cases (addedExports old new).isEmpty <;>
    cases (removedLocals old new).isEmpty <;> simp

theorem impact_eq_moderate_iff :
    impact old new = .moderate ↔
      (¬ ∃ name, nameChange? old new name = some .exportRemoved) ∧
        ((∃ name, nameChange? old new name = some .exportAdded) ∨
          ∃ name, nameChange? old new name = some .declarationRemoved) := by
  simp only [← mem_removedExports, ← mem_addedExports, ← mem_removedLocals,
    ← List.isEmpty_eq_false_iff_exists_mem, impact]
  cases (removedExports old new).isEmpty <;> cases (addedExports old new).isEmpty <;>
    cases (removedLocals old new).isEmpty <;> simp

theorem impact_eq_minor_iff :
    impact old new = .minor ↔
      (¬ ∃ name, nameChange? old new name = some .exportRemoved) ∧
        (¬ ∃ name, nameChange? old new name = some .exportAdded) ∧
          ¬ ∃ name, nameChange? old new name = some .declarationRemoved := by
  simp only [← mem_removedExports, ← mem_addedExports, ← mem_removedLocals,
    ← List.isEmpty_eq_false_iff_exists_mem, impact]
  cases (removedExports old new).isEmpty <;> cases (addedExports old new).isEmpty <;>
    cases (removedLocals old new).isEmpty <;> simp

end Surface

/-! ## The comparison of a modified file -/

open Surface in
/-- What the comparison of two surfaces tells about names. -/
structure Comparison.ReportsNames (found : Comparison) (old new : Surface) : Prop where
  /-- Of the deltas about a name, there is the one that its change asks for. -/
  once : ∀ name, found.deltas.filter (·.reports name) =
    ((nameChange? old new name).map fun change => change.delta name).toList
  /-- The deltas about names come first, in four groups.  The names of a group
  have the order of their surface. -/
  grouped : ∃ others, (∀ delta ∈ others, ∀ name, delta.reports name = false) ∧
    found.deltas =
      changedNames old new .exportRemoved old.exports ++
        changedNames old new .exportAdded new.exports ++
        changedNames old new .declarationRemoved old.declarations ++
        changedNames old new .declarationAdded new.declarations ++ others
  major : found.impact = .major ↔ ∃ name, nameChange? old new name = some .exportRemoved
  moderate : found.impact = .moderate ↔
    (¬ ∃ name, nameChange? old new name = some .exportRemoved) ∧
      ((∃ name, nameChange? old new name = some .exportAdded) ∨
        ∃ name, nameChange? old new name = some .declarationRemoved)
  minor : found.impact = .minor ↔
    (¬ ∃ name, nameChange? old new name = some .exportRemoved) ∧
      (¬ ∃ name, nameChange? old new name = some .exportAdded) ∧
        ¬ ∃ name, nameChange? old new name = some .declarationRemoved

namespace Change

/-- Behind the deltas about names stand others, or the delta that nothing but
the content changed. -/
theorem deltasBetween_eq_append (change : Change) (old new : Surface) :
    ∃ others, (∀ delta ∈ others, ∀ name, delta.reports name = false) ∧
      change.deltasBetween old new = Surface.nameDeltas old new ++ others := by
  by_cases hn : Surface.deltas old new = []
  · have hnames : Surface.nameDeltas old new = [] :=
      (List.append_eq_nil_iff.mp (List.append_eq_nil_iff.mp hn).1).1
    refine ⟨change.deltasBetween old new, ?_, by rw [hnames, List.nil_append]⟩
    intro delta hd name
    rw [deltasBetween_of_nil hn] at hd
    split at hd
    · contradiction
    · rw [List.mem_singleton.mp hd]
      simp [implementationDelta, Delta.reports]
  · refine ⟨Surface.interfaceDeltas old new ++ Surface.importDeltas old new, ?_, ?_⟩
    · intro delta hd name
      exact Surface.not_reports_of_mem (List.mem_append.mp hd)
    · rw [deltasBetween_of_ne_nil hn, Surface.deltas, List.append_assoc]

/-- A modified file whose two versions can be read reports every name as its
export and its declaration in either version decide. -/
theorem compareModified_reportsNames {change : Change} {old new : Surface}
    (hold : change.oldSurface = .ok old)
    (hnew : parseSource change.path change.newText = .ok new) :
    ∃ found, change.compareModified = .ok found ∧ found.ReportsNames old new := by
  obtain ⟨summary, hc⟩ := compareModified_ok hold hnew
  obtain ⟨others, ho, hd⟩ := change.deltasBetween_eq_append old new
  refine ⟨_, hc, ⟨?_, ⟨others, ho, ?_⟩, Surface.impact_eq_major_iff,
    Surface.impact_eq_moderate_iff, Surface.impact_eq_minor_iff⟩⟩
  · intro name
    have none : others.filter (·.reports name) = [] :=
      List.filter_eq_nil_iff.mpr fun delta hm => by simp [ho delta hm name]
    show (change.deltasBetween old new).filter (·.reports name) = _
    rw [hd, List.filter_append, none, List.append_nil]
    exact Surface.filter_reports_nameDeltas (oldSurface_distinct hold).exports
      (parseSource_distinct hnew).exports name
  · rw [← Surface.nameDeltas_eq]
    exact hd

/-- A file that stops exporting a name it still declares. -/
theorem compareModified_reportsNames_unlisted :
    let change := Change.ofContents "a.py" .modified
      (some "__all__ = ['a', 'b']\na = b = c = 1\n") (some "__all__ = ['b', 'd']\na = b = d = 1\n")
    let old : Surface := { exports := ["a", "b"], variableNames := ["a", "b", "c"] }
    let new : Surface := { exports := ["b", "d"], variableNames := ["a", "b", "d"] }
    change.oldSurface = .ok old ∧ parseSource change.path change.newText = .ok new ∧
      ∃ found, change.compareModified = .ok found ∧ found.ReportsNames old new := by
  intro change old new
  have hold : change.oldSurface = .ok old := by decide +kernel
  have hnew : parseSource change.path change.newText = .ok new := by decide +kernel
  exact ⟨hold, hnew, compareModified_reportsNames hold hnew⟩

end Change

end CommitLens
