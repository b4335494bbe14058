import CommitLens.Proofs.Change.Names
import CommitLens.Proofs.Report.Suggestion
import CommitLens.Proofs.Surface.Version

/-!
# Deltas that go over several lines

A delta describes what changed on one line, unless the name that it reports goes over
several ones.  Main statement: such a name is an export, a member or an import of the
version that has it.
-/

namespace CommitLens

open Text

namespace Change

def oldVersion (change : Change) : Version :=
  ⟨change.oldPath, change.oldText⟩

def newVersion (change : Change) : Version :=
  ⟨change.path, change.newText⟩

/-- Neither path of the change goes over several lines. -/
structure PathsOnOneLine (change : Change) : Prop where
  path : OneLine change.path
  previous : ∀ path, change.previousPath = some path → OneLine path

end Change

/-- The delta reports a name that one of the versions spells over several lines. -/
inductive Delta.SpansLines (old new : Version) : Delta → Prop
  | exportRemoved {name : String} (long : old.LongExport name) :
      SpansLines old new (NameChange.exportRemoved.delta name)
  | exportAdded {name : String} (long : new.LongExport name) :
      SpansLines old new (NameChange.exportAdded.delta name)
  | memberRemoved {interfaceName : String} {member : InterfaceMember}
      (long : old.LongMember member.name) :
      SpansLines old new (Surface.removedMember interfaceName member)
  | memberAdded {interfaceName : String} {member : InterfaceMember}
      (long : new.LongMember member.name) :
      SpansLines old new (Surface.addedMember interfaceName member)
  | importRemoved {module : String} (long : old.LongImport module) :
      SpansLines old new (Surface.removedImport module)
  | importAdded {module : String} (long : new.LongImport module) :
      SpansLines old new (Surface.addedImport module)

/-! ## Descriptions -/

section Descriptions

variable {name interfaceName : String} {member : InterfaceMember}

theorem NameChange.oneLine_description {change : NameChange} :
    OneLine (change.delta name).description ↔ OneLine name := by
  have front : ∀ words : String, OneLine words → (OneLine (words ++ name) ↔ OneLine name) :=
    fun words h => by rw [oneLine_append, and_iff_right h]
  cases change <;> exact front _ (by decide)

theorem Surface.oneLine_description_removedMember :
    OneLine (removedMember interfaceName member).description ↔
      OneLine member.name ∧ OneLine interfaceName := by
  have before : OneLine "Property '" := by decide
  have between : OneLine "' removed from interface " := by decide
  simp [removedMember, before, between]

theorem Surface.oneLine_description_addedMember :
    OneLine (addedMember interfaceName member).description ↔
      OneLine member.name ∧ OneLine interfaceName := by
  have before : OneLine "Property '" := by decide
  have between : OneLine "' added to interface " := by decide
  have optional : OneLine " (optional)" := by decide
  unfold addedMember
  split <;> simp [before, between, optional]

theorem Surface.oneLine_description_removedImport :
    OneLine (removedImport name).description ↔ OneLine name := by
  have before : OneLine "Removed import: " := by decide
  simp [removedImport, before]

theorem Surface.oneLine_description_addedImport :
    OneLine (addedImport name).description ↔ OneLine name := by
  have before : OneLine "Added import: " := by decide
  simp [addedImport, before]

end Descriptions

/-- A name of several lines is part of the description. -/
theorem Delta.SpansLines.not_oneLine {old new : Version} {delta : Delta}
    (h : delta.SpansLines old new) : ¬OneLine delta.description := by
  cases h with
  | exportRemoved long => exact NameChange.oneLine_description.not.mpr long.long
  | exportAdded long => exact NameChange.oneLine_description.not.mpr long.long
  | memberRemoved long => exact fun h => long.long (Surface.oneLine_description_removedMember.mp h).1
  | memberAdded long => exact fun h => long.long (Surface.oneLine_description_addedMember.mp h).1
  | importRemoved long => exact Surface.oneLine_description_removedImport.not.mpr long.long
  | importAdded long => exact Surface.oneLine_description_addedImport.not.mpr long.long

/-! ## Deltas between surfaces -/

namespace Surface

variable {before after : Version} {old new : Surface} {delta : Delta}

theorem oneLine_or_spansLines_changedNames {change : NameChange} {names : List String}
    (h : ∀ name ∈ names, OneLine name ∨ (change.delta name).SpansLines before after)
    (hd : delta ∈ changedNames old new change names) :
    OneLine delta.description ∨ delta.SpansLines before after := by
  obtain ⟨name, hn, rfl⟩ := List.mem_map.mp hd
  exact (h name (List.mem_of_mem_filter hn)).imp_left NameChange.oneLine_description.mpr

variable (ho : old.Spelled before.spelling) (hn : new.Spelled after.spelling)

include ho hn

theorem oneLine_or_spansLines_nameDeltas (hd : delta ∈ nameDeltas old new) :
    OneLine delta.description ∨ delta.SpansLines before after := by
  rw [nameDeltas_eq, List.mem_append, List.mem_append, List.mem_append] at hd
  rcases hd with ((hd | hd) | hd) | hd
  · exact oneLine_or_spansLines_changedNames
      (fun name hm => (ho.exported name hm).imp_right .exportRemoved) hd
  · exact oneLine_or_spansLines_changedNames
      (fun name hm => (hn.exported name hm).imp_right .exportAdded) hd
  · exact oneLine_or_spansLines_changedNames (fun name hm => .inl (ho.declared name hm)) hd
  · exact oneLine_or_spansLines_changedNames (fun name hm => .inl (hn.declared name hm)) hd

theorem oneLine_or_spansLines_interfaceDeltas (hd : delta ∈ interfaceDeltas old new) :
    OneLine delta.description ∨ delta.SpansLines before after := by
  obtain ⟨name, members, others, hm, found, hd⟩ := mem_interfaceDeltas.mp hd
  obtain ⟨interfaceName, olds⟩ := ho.interfaces (name, members) hm
  rcases mem_memberDeltas.mp hd with ⟨member, hi, rfl⟩ | ⟨member, hi, rfl⟩
  · refine (olds member (List.mem_of_mem_filter hi)).imp (fun line => ?_) .memberRemoved
    exact oneLine_description_removedMember.mpr ⟨line, interfaceName⟩
  · obtain ⟨entry, he, rfl⟩ := Option.map_eq_some_iff.mp found
    have news := (hn.interfaces entry (List.mem_of_find?_eq_some he)).2
    refine (news member (List.mem_of_mem_filter hi)).imp (fun line => ?_) .memberAdded
    exact oneLine_description_addedMember.mpr ⟨line, interfaceName⟩

theorem oneLine_or_spansLines_importDeltas (hd : delta ∈ importDeltas old new) :
    OneLine delta.description ∨ delta.SpansLines before after := by
  rcases mem_importDeltas.mp hd with ⟨module, hm, rfl⟩ | ⟨module, hm, rfl⟩
  · obtain ⟨ref, hr, rfl⟩ := mem_importedModules.mp (mem_without.mp hm).1
    exact (hn.imported ref hr).imp oneLine_description_addedImport.mpr .importAdded
  · obtain ⟨ref, hr, rfl⟩ := mem_importedModules.mp (mem_without.mp hm).1
    exact (ho.imported ref hr).imp oneLine_description_removedImport.mpr .importRemoved

theorem oneLine_or_spansLines_deltas (hd : delta ∈ deltas old new) :
    OneLine delta.description ∨ delta.SpansLines before after := by
  rw [deltas, List.mem_append, List.mem_append] at hd
  rcases hd with (hd | hd) | hd
  · exact oneLine_or_spansLines_nameDeltas ho hn hd
  · exact oneLine_or_spansLines_interfaceDeltas ho hn hd
  · exact oneLine_or_spansLines_importDeltas ho hn hd

end Surface

/-! ## Comparisons -/

theorem Path.oneLine_fileName {path : String} (h : OneLine path) : OneLine (fileName path) := by
  refine oneLine_ofList.mpr fun lineFeed => h ?_
  rw [← cutAfterLast_append '/' path.toList]
  exact List.mem_append_right _ lineFeed

theorem oneLine_describeModule (path : String) (surface : Surface) (content : String) :
    OneLine (describeModule path surface content) := by
  unfold describeModule
  dsimp only
  split_ifs <;> decide

namespace Change

variable {change : Change} {old new : Surface} {delta : Delta} {found : Comparison}

theorem spelled_oldSurface (h : change.oldSurface = .ok old) :
    old.Spelled change.oldVersion.spelling := by
  unfold oldSurface at h
  split at h
  · have parsed : parseSource change.oldVersion.path change.oldVersion.text = .ok old := h
    exact Version.spelled_of_parseSource parsed
  · cases h
    exact .empty

theorem spelled_newSurface (h : parseSource change.path change.newText = .ok new) :
    new.Spelled change.newVersion.spelling := by
  have parsed : parseSource change.newVersion.path change.newVersion.text = .ok new := h
  exact Version.spelled_of_parseSource parsed

theorem PathsOnOneLine.oldPath (hp : change.PathsOnOneLine) : OneLine change.oldPath := by
  unfold Change.oldPath
  cases h : present? change.previousPath with
  | none => exact hp.path
  | some previous => exact hp.previous previous (present?_eq_some_iff.mp h).1

/-- Every delta of the comparison is on one line, or it reports a long name. -/
def DeltasFit (change : Change) (found : Comparison) : Prop :=
  ∀ delta ∈ found.deltas,
    OneLine delta.description ∨ delta.SpansLines change.oldVersion change.newVersion

variable (hp : change.PathsOnOneLine)

include hp

theorem PathsOnOneLine.fileName : OneLine change.fileName :=
  Path.oneLine_fileName hp.path

theorem PathsOnOneLine.additionDelta : OneLine (change.additionDelta new).description := by
  have label := oneLine_describeModule change.path new change.newText
  exact oneLine_append.mpr ⟨oneLine_append.mpr ⟨oneLine_append.mpr
    ⟨by decide, label⟩, by decide⟩, hp.fileName⟩

theorem PathsOnOneLine.deletionDelta : OneLine (change.deletionDelta old).description :=
  oneLine_append.mpr ⟨by decide, hp.fileName⟩

theorem PathsOnOneLine.implementationDelta : OneLine change.implementationDelta.description :=
  oneLine_append.mpr ⟨by decide, hp.fileName⟩

theorem PathsOnOneLine.renamingDelta : OneLine change.renamingDelta.description :=
  oneLine_append.mpr ⟨oneLine_append.mpr ⟨oneLine_append.mpr
    ⟨by decide, Path.oneLine_fileName hp.oldPath⟩, by decide⟩, hp.fileName⟩

theorem oneLine_or_spansLines_deltasBetween (hold : change.oldSurface = .ok old)
    (hnew : parseSource change.path change.newText = .ok new)
    (hd : delta ∈ change.deltasBetween old new) :
    OneLine delta.description ∨ delta.SpansLines change.oldVersion change.newVersion := by
  rcases mem_deltasBetween hd with rfl | hd
  · exact .inl hp.implementationDelta
  · exact Surface.oneLine_or_spansLines_deltas (spelled_oldSurface hold)
      (spelled_newSurface hnew) hd

theorem oneLine_or_spansLines_finds {deltas : List Delta} (h : change.Finds deltas)
    (hd : delta ∈ deltas) :
    OneLine delta.description ∨ delta.SpansLines change.oldVersion change.newVersion := by
  cases h with
  | nothing => contradiction
  | added =>
      obtain rfl := List.mem_singleton.mp hd
      exact .inl hp.additionDelta
  | deleted =>
      obtain rfl := List.mem_singleton.mp hd
      exact .inl hp.deletionDelta
  | renamed =>
      obtain rfl := List.mem_singleton.mp hd
      exact .inl hp.renamingDelta
  | modified hold hnew => exact oneLine_or_spansLines_deltasBetween hp hold hnew hd
  | renamedToo hold hnew =>
      rcases List.mem_cons.mp hd with rfl | hd
      · exact .inl hp.renamingDelta
      · exact oneLine_or_spansLines_deltasBetween hp hold hnew hd

/-- A comparison describes what changed on one line, up to long names. -/
theorem deltasFit_compare (h : change.compare = .ok found) : change.DeltasFit found :=
  fun _ hd => oneLine_or_spansLines_finds hp (finds_of_compare h) hd

end Change

end CommitLens
