import CommitLens.Change.Compare
import CommitLens.Proofs.Surface

/-!
# What a comparison is made of

One statement for each step of the comparison of two versions: which names a
difference of lists holds, what the comparison of two surfaces returns, and what
the deltas of interfaces and imports have in common.
-/

namespace CommitLens

@[simp] theorem mem_without {items others : List String} {name : String} :
    name ∈ without items others ↔ name ∈ items ∧ name ∉ others := by
  simp [without]

theorem without_without (items others more : List String) :
    without (without items others) more =
      items.filter fun name => !others.contains name && !more.contains name := by
  simp only [without, List.filter_filter]
  congr 1
  funext name
  exact Bool.and_comm _ _

namespace Surface

/-! ## Deltas of interfaces and imports -/

/-- The members whose names do not occur among the others. -/
def membersWithout (members others : List InterfaceMember) : List InterfaceMember :=
  members.filter fun member => !others.any fun other => other.name == member.name

def removedMember (interfaceName : String) (member : InterfaceMember) : Delta :=
  ⟨.interfaceChanged, "Property '" ++ member.name ++ "' removed from interface " ++ interfaceName,
    .high, some (interfaceName ++ "." ++ member.name)⟩

/-- An optional member weighs less than one that must be given. -/
def addedMember (interfaceName : String) (member : InterfaceMember) : Delta :=
  let text := "Property '" ++ member.name ++ "' added to interface " ++ interfaceName
  if member.optional then
    ⟨.interfaceChanged, text ++ " (optional)", .low, some (interfaceName ++ "." ++ member.name)⟩
  else ⟨.interfaceChanged, text, .medium, some (interfaceName ++ "." ++ member.name)⟩

theorem memberDeltas_eq (interfaceName : String) (old new : List InterfaceMember) :
    memberDeltas interfaceName old new =
      (membersWithout old new).map (removedMember interfaceName) ++
        (membersWithout new old).map (addedMember interfaceName) := rfl

def addedImport (module : String) : Delta :=
  { kind := .dependencyAdded, description := "Added import: " ++ module }

def removedImport (module : String) : Delta :=
  { kind := .dependencyRemoved, description := "Removed import: " ++ module }

theorem importDeltas_eq (old new : Surface) :
    importDeltas old new =
      (without new.importedModules old.importedModules).map addedImport ++
        (without old.importedModules new.importedModules).map removedImport := rfl

theorem mem_memberDeltas {name : String} {old new : List InterfaceMember} {delta : Delta} :
    delta ∈ memberDeltas name old new ↔
      (∃ member ∈ membersWithout old new, delta = removedMember name member) ∨
        ∃ member ∈ membersWithout new old, delta = addedMember name member := by
  simp only [memberDeltas_eq, List.mem_append, List.mem_map, eq_comm]

theorem mem_deltas {old new : Surface} {delta : Delta} :
    delta ∈ deltas old new ↔
      delta ∈ nameDeltas old new ∨ delta ∈ interfaceDeltas old new ∨
        delta ∈ importDeltas old new := by
  rw [deltas, List.mem_append, List.mem_append, or_assoc]

theorem mem_importDeltas {old new : Surface} {delta : Delta} :
    delta ∈ importDeltas old new ↔
      (∃ module ∈ without new.importedModules old.importedModules, delta = addedImport module) ∨
        ∃ module ∈ without old.importedModules new.importedModules,
          delta = removedImport module := by
  simp only [importDeltas_eq, List.mem_append, List.mem_map, eq_comm]

@[simp] theorem kind_addedMember (interfaceName : String) (member : InterfaceMember) :
    (addedMember interfaceName member).kind = .interfaceChanged := by
  unfold addedMember
  split <;> rfl

theorem mem_interfaceDeltas {old new : Surface} {delta : Delta} :
    delta ∈ interfaceDeltas old new ↔
      ∃ name members others, (name, members) ∈ old.interfaceMembers ∧
        new.members? name = some others ∧ delta ∈ memberDeltas name members others := by
  simp only [interfaceDeltas, List.mem_flatMap]
  constructor
  · rintro ⟨⟨name, members⟩, hm, hd⟩
    cases ho : new.members? name with
    | none => simp [ho] at hd
    | some others => exact ⟨name, members, others, hm, ho, by simpa [ho] using hd⟩
  · rintro ⟨name, members, others, hm, ho, hd⟩
    exact ⟨(name, members), hm, by simpa [ho] using hd⟩

theorem kind_of_mem_interfaceDeltas {old new : Surface} {delta : Delta}
    (h : delta ∈ interfaceDeltas old new) : delta.kind = .interfaceChanged := by
  obtain ⟨name, members, others, _, _, hd⟩ := mem_interfaceDeltas.mp h
  rcases mem_memberDeltas.mp hd with ⟨member, _, rfl⟩ | ⟨member, _, rfl⟩
  · rfl
  · exact kind_addedMember name member

end Surface

namespace Change

/-! ## Modified files -/

/-- The delta of a change that no surface shows. -/
def implementationDelta (change : Change) : Delta :=
  { kind := .implementationChanged
    description := "Changed implementation of " ++ change.fileName }

variable {change : Change} {old new : Surface}

theorem deltasBetween_of_ne_nil (h : Surface.deltas old new ≠ []) :
    change.deltasBetween old new = Surface.deltas old new := by
  simp [deltasBetween, h]

theorem mem_deltasBetween {delta : Delta} (h : delta ∈ change.deltasBetween old new) :
    delta = change.implementationDelta ∨ delta ∈ Surface.deltas old new := by
  unfold deltasBetween at h
  dsimp only at h
  split at h
  · exact .inl (List.mem_singleton.mp h)
  · exact .inr h

theorem deltasBetween_of_nil (h : Surface.deltas old new = []) :
    change.deltasBetween old new =
      if change.old = change.new then [] else [change.implementationDelta] := by
  by_cases hc : change.old = change.new <;> simp [deltasBetween, h, hc, implementationDelta]

theorem oldSurface_distinct (h : change.oldSurface = .ok old) : old.Distinct := by
  unfold oldSurface at h
  split at h
  · exact parseSource_distinct h
  · cases h
    exact Surface.Distinct.empty

/-- Two surfaces decide the deltas and the impact of a modified file. -/
theorem compareModified_ok (hold : change.oldSurface = .ok old)
    (hnew : parseSource change.path change.newText = .ok new) :
    ∃ summary, change.compareModified =
      .ok ⟨change.deltasBetween old new, Surface.impact old new, summary⟩ := by
  simp only [compareModified, hold, hnew]
  exact ⟨_, rfl⟩

/-! ## Added, deleted and renamed files -/

/-- The delta of an added file has the label of its module. -/
def additionDelta (change : Change) (new : Surface) : Delta :=
  { kind := .fileAdded
    description :=
      "Added " ++ describeModule change.path new change.newText ++ ": " ++ change.fileName }

/-- The delta of a deleted file weighs what the lost exports weigh. -/
def deletionDelta (change : Change) (old : Surface) : Delta :=
  ⟨.fileDeleted, "Deleted file: " ++ change.fileName,
    if old.exports.isEmpty then .medium else .breaking, none⟩

theorem compareDeleted_ok (hold : parseSource change.path change.oldText = .ok old) :
    change.compareDeleted =
      .ok ⟨[change.deletionDelta old],
        if old.exports.isEmpty then .moderate else .major,
        "Deleted " ++ describeModule change.path old change.oldText ++ " with " ++
          toString old.exports.length ++ " exports"⟩ := by
  unfold compareDeleted deletionDelta
  rw [hold]
  show Except.ok _ = _
  cases old.exports.isEmpty <;> rfl

def renamingDelta (change : Change) : Delta :=
  ⟨.fileRenamed, "Renamed from " ++ Path.fileName change.oldPath ++ " to " ++ change.fileName,
    .medium, none⟩

theorem compareRenamed_of_eq (h : change.old = change.new) :
    ∃ summary, change.compareRenamed = .ok ⟨[change.renamingDelta], .moderate, summary⟩ := by
  simp only [compareRenamed, h, beq_self_eq_true, Bool.true_or, if_true]
  exact ⟨_, rfl⟩

/-- With two contents that differ, the file counts as modified too. -/
theorem compareRenamed_of_ne (h : change.old ≠ change.new) (ho : change.old.isSome = true)
    (hn : change.new.isSome = true) {found : Comparison} (hc : change.compareModified = .ok found) :
    change.compareRenamed =
      .ok ⟨change.renamingDelta :: found.deltas, found.impact.max .moderate, found.summary⟩ := by
  have hne : (change.old == change.new) = false := beq_eq_false_iff_ne.mpr h
  simp only [compareRenamed, hne, Option.isNone_eq_false_iff.mpr ho,
    Option.isNone_eq_false_iff.mpr hn, Bool.or_self, hc]
  rfl

/-! ## Dispatch -/

theorem compare_of_modified (hp : isCodePath change.path = true) (hk : change.kind = .modified) :
    change.compare = change.compareModified := by
  simp [compare, compareSource, hp, hk]

/-- The deltas that a comparison may find, with the surfaces that it reads. -/
inductive Finds (change : Change) : List Delta → Prop
  /-- Nothing is found in what is no source text. -/
  | nothing : Finds change []
  | added {new : Surface} (hnew : parseSource change.path change.newText = .ok new) :
      Finds change [change.additionDelta new]
  | deleted {old : Surface} (hold : parseSource change.path change.oldText = .ok old) :
      Finds change [change.deletionDelta old]
  | modified {old new : Surface} (hold : change.oldSurface = .ok old)
      (hnew : parseSource change.path change.newText = .ok new) :
      Finds change (change.deltasBetween old new)
  | renamed : Finds change [change.renamingDelta]
  /-- A renamed file with another content is a modified one too. -/
  | renamedToo {old new : Surface} (hold : change.oldSurface = .ok old)
      (hnew : parseSource change.path change.newText = .ok new) :
      Finds change (change.renamingDelta :: change.deltasBetween old new)

theorem compareModified_eq_ok {found : Comparison} (h : change.compareModified = .ok found) :
    ∃ old new, change.oldSurface = .ok old ∧ parseSource change.path change.newText = .ok new ∧
      found.deltas = change.deltasBetween old new := by
  cases hold : change.oldSurface with
  | error error =>
      rw [compareModified, hold] at h
      contradiction
  | ok old =>
      cases hnew : parseSource change.path change.newText with
      | error error =>
          rw [compareModified, hold, hnew] at h
          contradiction
      | ok new =>
          obtain ⟨summary, hc⟩ := compareModified_ok hold hnew
          rw [hc] at h
          obtain rfl := Except.ok.inj h
          exact ⟨old, new, rfl, rfl, rfl⟩

theorem finds_of_compareModified {found : Comparison} (h : change.compareModified = .ok found) :
    change.Finds found.deltas := by
  obtain ⟨old, new, hold, hnew, hd⟩ := compareModified_eq_ok h
  exact hd ▸ .modified hold hnew

theorem finds_of_compareRenamed {found : Comparison} (h : change.compareRenamed = .ok found) :
    change.Finds found.deltas := by
  unfold compareRenamed at h
  split at h
  · obtain rfl := Except.ok.inj h
    exact .renamed
  · cases hc : change.compareModified with
    | error error =>
        rw [hc] at h
        contradiction
    | ok inner =>
        rw [hc] at h
        obtain rfl := Except.ok.inj h
        obtain ⟨old, new, hold, hnew, hd⟩ := compareModified_eq_ok hc
        exact hd ▸ .renamedToo hold hnew

theorem finds_of_compareAdded {found : Comparison} (h : change.compareAdded = .ok found) :
    change.Finds found.deltas := by
  cases hnew : parseSource change.path change.newText with
  | error error =>
      rw [compareAdded, hnew] at h
      contradiction
  | ok new =>
      rw [compareAdded, hnew] at h
      obtain rfl := Except.ok.inj h
      exact .added hnew

theorem finds_of_compareDeleted {found : Comparison} (h : change.compareDeleted = .ok found) :
    change.Finds found.deltas := by
  cases hold : parseSource change.path change.oldText with
  | error error =>
      rw [compareDeleted, hold] at h
      contradiction
  | ok old =>
      rw [compareDeleted_ok hold] at h
      obtain rfl := Except.ok.inj h
      exact .deleted hold

theorem finds_of_compare {found : Comparison} (h : change.compare = .ok found) :
    change.Finds found.deltas := by
  unfold compare at h
  split at h
  · unfold compareSource at h
    split at h
    · exact finds_of_compareAdded h
    · exact finds_of_compareDeleted h
    · exact finds_of_compareRenamed h
    · exact finds_of_compareModified h
  · obtain rfl := Except.ok.inj h
    exact .nothing

end Change

namespace LinkedChange

variable {change : LinkedChange}

theorem compare_of_ok {found : Comparison} (h : change.toChange.compare = .ok found) :
    change.compare = (change.withComparison found true, none) := by
  simp only [compare, h]

theorem compare_of_error {error : ParseError} (h : change.toChange.compare = .error error) :
    change.compare =
      (change.withComparison ⟨[], .minor, "Could not parse " ++ change.fileName⟩ false,
        some ⟨change.path, "semantic", error.reason⟩) := by
  simp only [compare, h]

end LinkedChange

end CommitLens
