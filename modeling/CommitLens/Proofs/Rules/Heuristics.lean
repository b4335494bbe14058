import CommitLens.Proofs.Change.Names
import CommitLens.Proofs.Text.Mark
import CommitLens.Rules.Rule

/-!
# Heuristics about members of interfaces

Two heuristics look for a mark in the descriptions of deltas.  Main statement: they find
it where a delta reports the member that they ask for, and everywhere else only in the
names that a description quotes.
-/

namespace CommitLens

open Text

/-! ## Members that come and go -/

namespace Change

/-- Both versions have the interface, the old one and the new one with these members. -/
def SharesInterface (change : Change) (name : String) (members others : List InterfaceMember) :
    Prop :=
  ∃ old new, change.oldSurface = .ok old ∧ parseSource change.path change.newText = .ok new ∧
    (name, members) ∈ old.interfaceMembers ∧ new.members? name = some others

/-- An interface of both versions has the member in the old one only. -/
def LosesMember (change : Change) (interfaceName : String) (member : InterfaceMember) : Prop :=
  ∃ members others, change.SharesInterface interfaceName members others ∧
    member ∈ Surface.membersWithout members others

/-- An interface of both versions has the member in the new one only. -/
def GainsMember (change : Change) (interfaceName : String) (member : InterfaceMember) : Prop :=
  ∃ members others, change.SharesInterface interfaceName members others ∧
    member ∈ Surface.membersWithout others members

/-- The deltas that a comparison may find, each with the names that its description quotes. -/
inductive Quotes (change : Change) : Delta → List String → Prop
  | name (what : NameChange) (name : String) : Quotes change (what.delta name) [name]
  | lostMember {interfaceName : String} {member : InterfaceMember}
      (lost : change.LosesMember interfaceName member) :
      Quotes change (Surface.removedMember interfaceName member) [member.name, interfaceName]
  | gainedMember {interfaceName : String} {member : InterfaceMember}
      (gained : change.GainsMember interfaceName member) :
      Quotes change (Surface.addedMember interfaceName member) [member.name, interfaceName]
  | lostImport (module : String) : Quotes change (Surface.removedImport module) [module]
  | gainedImport (module : String) : Quotes change (Surface.addedImport module) [module]
  | implementation : Quotes change change.implementationDelta [change.fileName]
  | addition (new : Surface) : Quotes change (change.additionDelta new) [change.fileName]
  | deletion (old : Surface) : Quotes change (change.deletionDelta old) [change.fileName]
  | move : Quotes change change.renamingDelta [Path.fileName change.oldPath, change.fileName]

variable {change : Change} {old new : Surface} {delta : Delta} {deltas : List Delta}

theorem quotes_of_mem_nameDeltas (hd : delta ∈ Surface.nameDeltas old new) :
    ∃ names, change.Quotes delta names := by
  simp only [Surface.nameDeltas_eq, Surface.changedNames, List.mem_append, List.mem_map] at hd
  rcases hd with ((⟨name, -, rfl⟩ | ⟨name, -, rfl⟩) | ⟨name, -, rfl⟩) | ⟨name, -, rfl⟩ <;>
    exact ⟨[name], .name _ name⟩

theorem quotes_of_mem_deltasBetween (hold : change.oldSurface = .ok old)
    (hnew : parseSource change.path change.newText = .ok new)
    (hd : delta ∈ change.deltasBetween old new) : ∃ names, change.Quotes delta names := by
  rcases mem_deltasBetween hd with rfl | hd
  · exact ⟨_, .implementation⟩
  rcases Surface.mem_deltas.mp hd with hd | hd | hd
  · exact quotes_of_mem_nameDeltas hd
  · obtain ⟨name, members, others, had, has, hd⟩ := Surface.mem_interfaceDeltas.mp hd
    have shared : change.SharesInterface name members others := ⟨old, new, hold, hnew, had, has⟩
    rcases Surface.mem_memberDeltas.mp hd with ⟨member, lost, rfl⟩ | ⟨member, gained, rfl⟩
    · exact ⟨_, .lostMember ⟨members, others, shared, lost⟩⟩
    · exact ⟨_, .gainedMember ⟨members, others, shared, gained⟩⟩
  · rcases Surface.mem_importDeltas.mp hd with ⟨module, -, rfl⟩ | ⟨module, -, rfl⟩
    · exact ⟨_, .gainedImport module⟩
    · exact ⟨_, .lostImport module⟩

theorem Finds.quotes (h : change.Finds deltas) (hd : delta ∈ deltas) :
    ∃ names, change.Quotes delta names := by
  cases h with
  | nothing => contradiction
  | added =>
      obtain rfl := List.mem_singleton.mp hd
      exact ⟨_, .addition _⟩
  | deleted =>
      obtain rfl := List.mem_singleton.mp hd
      exact ⟨_, .deletion _⟩
  | renamed =>
      obtain rfl := List.mem_singleton.mp hd
      exact ⟨_, .move⟩
  | modified hold hnew => exact quotes_of_mem_deltasBetween hold hnew hd
  | renamedToo hold hnew =>
      rcases List.mem_cons.mp hd with rfl | hd
      · exact ⟨_, .move⟩
      · exact quotes_of_mem_deltasBetween hold hnew hd

end Change

theorem LinkedChange.exists_quotes {change : LinkedChange} {delta : Delta}
    (hd : delta ∈ change.compare.1.deltas) : ∃ names, change.toChange.Quotes delta names := by
  cases h : change.toChange.compare with
  | error error =>
      rw [compare_of_error h] at hd
      contradiction
  | ok found =>
      rw [compare_of_ok h] at hd
      exact (Change.finds_of_compare h).quotes hd

/-! ## Marks of members -/

/-- What a heuristic about members asks for. -/
inductive MemberEvent where
  | removed
  | optionalAdded
  deriving DecidableEq

namespace MemberEvent

def heuristic : MemberEvent → Heuristic
  | removed => .memberRemoved
  | optionalAdded => .optionalMemberAdded

/-- The text that the heuristic looks for. -/
def mark : MemberEvent → String
  | removed => "removed from interface"
  | optionalAdded => "(optional)"

/-- The delta reports a member of an interface to which that happened. -/
inductive Shown (change : Change) : MemberEvent → Delta → Prop
  | removed {interfaceName : String} {member : InterfaceMember}
      (lost : change.LosesMember interfaceName member) :
      Shown change removed (Surface.removedMember interfaceName member)
  | optionalAdded {interfaceName : String} {member : InterfaceMember}
      (gained : change.GainsMember interfaceName member) (optional : member.optional = true) :
      Shown change optionalAdded (Surface.addedMember interfaceName member)

variable {event : MemberEvent} {change : Change} {delta : Delta} {names : List String}

theorem heuristic_holds_iff {compared : ComparedChange} :
    event.heuristic.holds compared = true ↔
      ∃ delta ∈ compared.deltas, containsText delta.description event.mark = true := by
  cases event <;> exact List.any_eq_true

theorem Shown.contains (h : Shown change event delta) :
    containsText delta.description event.mark = true := by
  rw [containsText_iff]
  cases h with
  | @removed interfaceName member lost =>
      refine ⟨("Property '" ++ member.name ++ "' ").toList, (" " ++ interfaceName).toList, ?_⟩
      simp [mark, Surface.removedMember]
  | @optionalAdded interfaceName member gained optional =>
      refine ⟨("Property '" ++ member.name ++ "' added to interface " ++ interfaceName ++ " ").toList,
        [], ?_⟩
      simp [mark, Surface.addedMember, optional]

/-- How much a delta weighs that reports it. -/
def severity : MemberEvent → Severity
  | removed => .high
  | optionalAdded => .low

theorem Shown.kind_severity (h : Shown change event delta) :
    delta.kind = .interfaceChanged ∧ delta.severity = event.severity := by
  cases h with
  | removed => exact ⟨rfl, rfl⟩
  | optionalAdded gained optional =>
      unfold Surface.addedMember
      rw [if_pos optional]
      exact ⟨rfl, rfl⟩

/-- The labels of modules. -/
def labels : List String :=
  ["test file", "interface definition", "type definition", "enum definition", "class module",
    "function module", "React component", "module"]

theorem describeModule_mem_labels (path : String) (surface : Surface) (content : String) :
    describeModule path surface content ∈ labels := by
  unfold describeModule
  dsimp only
  split_ifs <;> decide

/-- The words around the names in the descriptions of deltas. -/
def frames : List String :=
  ["Removed export: ", "Added export: ", "Removed declaration: ", "Added declaration: ",
    "Property '", "' added to interface ", "Added import: ", "Removed import: ",
    "Changed implementation of ", "Deleted file: ", "Renamed from ", " to "] ++
    labels.map fun label => "Added " ++ label ++ ": "

theorem separates_frames (event : MemberEvent) : ∀ words ∈ frames, Separates event.mark words := by
  cases event <;> decide +kernel

theorem contains_behind (event : MemberEvent) {words : String} (h : words ∈ frames)
    (name : String) :
    containsText (words ++ name) event.mark = true ↔
      ∃ quoted ∈ [name], containsText quoted event.mark = true := by
  rw [(separates_frames event words h).containsText_behind]
  simp

theorem contains_between {before between : String} (hb : Separates event.mark before)
    (h : Separates event.mark between) (first second : String) :
    containsText (before ++ first ++ between ++ second) event.mark = true ↔
      ∃ quoted ∈ [first, second], containsText quoted event.mark = true := by
  rw [h.containsText_between, hb.containsText_behind]
  simp

/-- Where a delta does not report what the heuristic asks for, only names have the mark. -/
theorem contains_iff_of_not_shown (h : change.Quotes delta names)
    (hs : ¬Shown change event delta) :
    containsText delta.description event.mark = true ↔
      ∃ name ∈ names, containsText name event.mark = true := by
  have frame (words : String) (hw : words ∈ frames) : Separates event.mark words :=
    separates_frames event words hw
  have property : Separates event.mark "Property '" := frame _ (by decide)
  cases h with
  | name what name => cases what <;> exact contains_behind event (by decide) name
  | lostImport module => exact contains_behind event (by decide) module
  | gainedImport module => exact contains_behind event (by decide) module
  | implementation => exact contains_behind event (by decide) change.fileName
  | deletion old => exact contains_behind event (by decide) change.fileName
  | addition new =>
      refine contains_behind event (List.mem_append_right _ ?_) change.fileName
      exact List.mem_map.mpr ⟨_, describeModule_mem_labels _ _ _, rfl⟩
  | move => exact contains_between (frame _ (by decide)) (frame " to " (by decide)) _ _
  | lostMember lost =>
      cases event with
      | removed => exact absurd (.removed lost) hs
      | optionalAdded =>
          have removal : Separates optionalAdded.mark "' removed from interface " := by
            decide +kernel
          exact contains_between property removal _ _
  | @gainedMember interfaceName member gained =>
      have addition : Separates event.mark "' added to interface " := frame _ (by decide)
      have plain := contains_between property addition member.name interfaceName
      unfold Surface.addedMember
      split
      · rename_i optional
        cases event with
        | removed =>
            have suffix : Separates removed.mark " (optional)" := by decide +kernel
            exact (suffix.containsText_before _).trans plain
        | optionalAdded => exact absurd (.optionalAdded gained optional) hs
      · exact plain

/-- A heuristic finds what it asks for, and besides that names with its mark. -/
theorem heuristic_holds_compare_iff (event : MemberEvent) (change : LinkedChange) :
    event.heuristic.holds change.compare.1 = true ↔
      (∃ delta ∈ change.compare.1.deltas, Shown change.toChange event delta) ∨
        ∃ delta ∈ change.compare.1.deltas, ∃ names, change.toChange.Quotes delta names ∧
          ∃ name ∈ names, containsText name event.mark = true := by
  rw [heuristic_holds_iff]
  constructor
  · rintro ⟨delta, hd, found⟩
    by_cases hs : Shown change.toChange event delta
    · exact .inl ⟨delta, hd, hs⟩
    · obtain ⟨names, hq⟩ := LinkedChange.exists_quotes hd
      exact .inr ⟨delta, hd, names, hq, (contains_iff_of_not_shown hq hs).mp found⟩
  · rintro (⟨delta, hd, hs⟩ | ⟨delta, hd, names, hq, name, hn, found⟩)
    · exact ⟨delta, hd, hs.contains⟩
    · refine ⟨delta, hd, ?_⟩
      by_cases hs : Shown change.toChange event delta
      · exact hs.contains
      · exact (contains_iff_of_not_shown hq hs).mpr ⟨name, hn, found⟩

/-- A file, an import, an export and a member that must be given, each with a name that a
heuristic takes for what it asks for. -/
theorem heuristic_holds_of_names :
    let file (path old new : String) : LinkedChange :=
      { Change.ofContents path .modified (some old) (some new) with }
    ∀ misread ∈ ([
        (removed, file "removed from interface.ts" "" "f();\n"),
        (removed, file "a.ts" "" "import 'removed from interface';\n"),
        (optionalAdded, file "a.py" "" "__all__ = ['(optional)']\n"),
        (optionalAdded, file "a.ts" "interface I \x7b\x7d\n"
          "interface I \x7b '(optional)': string \x7d\n")] :
          List (MemberEvent × LinkedChange)),
      misread.1.heuristic.holds misread.2.compare.1 = true ∧
        ¬∃ delta ∈ misread.2.compare.1.deltas, Shown misread.2.toChange misread.1 delta := by
  intro file misread hm
  have unlike : misread.1.heuristic.holds misread.2.compare.1 = true ∧
      ∀ delta ∈ misread.2.compare.1.deltas,
        ¬(delta.kind = .interfaceChanged ∧ delta.severity = misread.1.severity) := by
    revert misread
    decide +kernel
  refine ⟨unlike.1, ?_⟩
  rintro ⟨delta, hd, shown⟩
  exact unlike.2 delta hd shown.kind_severity

end MemberEvent

end CommitLens
