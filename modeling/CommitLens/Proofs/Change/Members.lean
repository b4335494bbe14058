import CommitLens.Proofs.Change.Comparison
import CommitLens.Proofs.Script.Interfaces

/-!
# Members of interfaces in a modified file

Every interface that both versions record is compared by itself, and its members are told
apart by their names.  Main statement: of a member that only the old version has, every
occurrence is reported as lost; of one that only the new version has, every occurrence is
reported as gained, and whether it must be given; of all others nothing is reported.
-/

namespace CommitLens

/-- Is the delta about the member of the interface? -/
def Delta.concerns (delta : Delta) (interfaceName member : String) : Bool :=
  delta.affectedSymbol == some (interfaceName ++ "." ++ member)

namespace Surface

/-- The members of an interface with a name; there may be several. -/
def membersNamed (surface : Surface) (interfaceName member : String) : List InterfaceMember :=
  ((surface.members? interfaceName).getD []).filter fun other => other.name == member

/-- Both versions record the interface, and only the old one has a member of the name. -/
structure Loses (old new : Surface) (interfaceName member : String) : Prop where
  recorded : (new.members? interfaceName).isSome = true
  before : old.membersNamed interfaceName member ≠ []
  after : new.membersNamed interfaceName member = []

/-- Both versions record the interface, and only the new one has a member of the name. -/
structure Gains (old new : Surface) (interfaceName member : String) : Prop where
  recorded : (old.members? interfaceName).isSome = true
  before : old.membersNamed interfaceName member = []
  after : new.membersNamed interfaceName member ≠ []

/-- The deltas of one interface. -/
def deltasOf (old new : Surface) (interfaceName : String) : List Delta :=
  match old.members? interfaceName, new.members? interfaceName with
  | some members, some others => memberDeltas interfaceName members others
  | _, _ => []

variable {old new : Surface} {interfaceName name : String} {members others : List InterfaceMember}

/-! ## One interface -/

theorem severity_addedMember (interfaceName : String) (member : InterfaceMember) :
    (addedMember interfaceName member).severity = if member.optional then .low else .medium := by
  unfold addedMember
  split <;> rfl

theorem symbol_addedMember (interfaceName : String) (member : InterfaceMember) :
    (addedMember interfaceName member).affectedSymbol =
      some (interfaceName ++ "." ++ member.name) := by
  unfold addedMember
  split <;> rfl

@[simp] theorem concerns_removedMember (member : InterfaceMember) :
    (removedMember interfaceName member).concerns interfaceName name = (member.name == name) := by
  rw [Bool.eq_iff_iff]
  simp [removedMember, Delta.concerns, String.ext_iff]

@[simp] theorem concerns_addedMember (member : InterfaceMember) :
    (addedMember interfaceName member).concerns interfaceName name = (member.name == name) := by
  rw [Bool.eq_iff_iff]
  simp [symbol_addedMember, Delta.concerns, String.ext_iff]

/-- Members whose names others do not have: those of one name stay all or none. -/
theorem filter_membersWithout :
    (membersWithout members others).filter (fun member => member.name == name) =
      if others.filter (fun other => other.name == name) = [] then
        members.filter fun member => member.name == name
      else [] := by
  have absent : others.filter (fun other => other.name == name) = [] ↔
      (others.any fun other => other.name == name) = false := by
    simp [List.filter_eq_nil_iff]
  rw [membersWithout, List.filter_filter]
  by_cases none : others.filter (fun other => other.name == name) = []
  · rw [if_pos none]
    refine List.filter_congr fun member _ => ?_
    by_cases hn : member.name = name
    · simp [hn, absent.mp none]
    · simp [hn]
  · rw [if_neg none, List.filter_eq_nil_iff]
    rintro member - both
    simp only [Bool.and_eq_true, Bool.not_eq_true', beq_iff_eq] at both
    exact none (absent.mpr (both.1 ▸ both.2))

/-- What is reported of the members of one name. -/
theorem filter_memberDeltas :
    (memberDeltas interfaceName members others).filter (·.concerns interfaceName name) =
      (if others.filter (fun other => other.name == name) = [] then
          members.filter fun member => member.name == name
        else []).map (removedMember interfaceName) ++
      (if members.filter (fun member => member.name == name) = [] then
          others.filter fun other => other.name == name
        else []).map (addedMember interfaceName) := by
  rw [memberDeltas_eq, List.filter_append, List.filter_map, List.filter_map,
    ← filter_membersWithout, ← filter_membersWithout]
  congr 3 <;> funext member <;> simp

theorem deltasOf_of_none (h : old.members? interfaceName = none ∨ new.members? interfaceName = none) :
    deltasOf old new interfaceName = [] := by
  unfold deltasOf
  split
  · rename_i ho hn
    rw [ho, hn] at h
    simp at h
  · rfl

/-- The deltas of one member: one for each occurrence in the version that alone has it. -/
theorem filter_deltasOf (ho : (old.members? interfaceName).isSome = true)
    (hn : (new.members? interfaceName).isSome = true) (name : String) :
    (deltasOf old new interfaceName).filter (·.concerns interfaceName name) =
      (if new.membersNamed interfaceName name = [] then old.membersNamed interfaceName name
        else []).map (removedMember interfaceName) ++
      (if old.membersNamed interfaceName name = [] then new.membersNamed interfaceName name
        else []).map (addedMember interfaceName) := by
  obtain ⟨members, ho⟩ := Option.isSome_iff_exists.mp ho
  obtain ⟨others, hn⟩ := Option.isSome_iff_exists.mp hn
  simp only [deltasOf, membersNamed, ho, hn, Option.getD_some]
  exact filter_memberDeltas

theorem isSome_of_membersNamed_ne_nil (h : old.membersNamed interfaceName name ≠ []) :
    (old.members? interfaceName).isSome = true := by
  cases found : old.members? interfaceName with
  | none => simp [membersNamed, found] at h
  | some members => rfl

theorem Loses.filter_eq (h : Loses old new interfaceName name) :
    (deltasOf old new interfaceName).filter (·.concerns interfaceName name) =
      (old.membersNamed interfaceName name).map (removedMember interfaceName) := by
  rw [filter_deltasOf (isSome_of_membersNamed_ne_nil h.before) h.recorded, if_pos h.after,
    if_neg h.before, List.map_nil, List.append_nil]

theorem Gains.filter_eq (h : Gains old new interfaceName name) :
    (deltasOf old new interfaceName).filter (·.concerns interfaceName name) =
      (new.membersNamed interfaceName name).map (addedMember interfaceName) := by
  rw [filter_deltasOf h.recorded (isSome_of_membersNamed_ne_nil h.after), if_neg h.after,
    if_pos h.before, List.map_nil, List.nil_append]

/-- A member of both versions or of none is not reported. -/
theorem filter_eq_nil (hl : ¬Loses old new interfaceName name)
    (hg : ¬Gains old new interfaceName name) :
    (deltasOf old new interfaceName).filter (·.concerns interfaceName name) = [] := by
  by_cases ho : (old.members? interfaceName).isSome = true
  · by_cases hn : (new.members? interfaceName).isSome = true
    · rw [filter_deltasOf ho hn]
      by_cases before : old.membersNamed interfaceName name = [] <;>
        by_cases after : new.membersNamed interfaceName name = []
      · simp [before, after]
      · exact absurd ⟨ho, before, after⟩ hg
      · exact absurd ⟨hn, before, after⟩ hl
      · simp [before, after]
    · rw [deltasOf_of_none (.inr (by simpa using hn)), List.filter_nil]
  · rw [deltasOf_of_none (.inl (by simpa using ho)), List.filter_nil]

/-! ## All interfaces -/

theorem members?_eq_some_of_mem (h : (old.interfaceMembers.map Prod.fst).Nodup)
    {entry : String × List InterfaceMember} (he : entry ∈ old.interfaceMembers) :
    old.members? entry.1 = some entry.2 :=
  Option.map_eq_some_iff.mpr ⟨entry, (find?_name_eq_some_iff h).mpr ⟨he, rfl⟩, rfl⟩

/-- The interfaces of the old version are gone through, each one once. -/
theorem interfaceDeltas_eq_deltasOf (h : (old.interfaceMembers.map Prod.fst).Nodup) :
    interfaceDeltas old new = (old.interfaceMembers.map Prod.fst).flatMap (deltasOf old new) := by
  rw [interfaceDeltas, List.flatMap_map]
  refine List.flatMap_congr fun entry he => ?_
  simp only [deltasOf, members?_eq_some_of_mem h he]
  cases new.members? entry.1 <;> rfl

/-- Of the deltas between two surfaces only those of interfaces are of this kind. -/
theorem filter_kind_deltas (old new : Surface) :
    (deltas old new).filter (fun delta => delta.kind = .interfaceChanged) =
      interfaceDeltas old new := by
  have names : (nameDeltas old new).filter (fun delta => delta.kind = .interfaceChanged) = [] := by
    rw [List.filter_eq_nil_iff]
    intro delta hd
    simp only [nameDeltas, List.mem_append, List.mem_map] at hd
    rcases hd with ((⟨_, -, rfl⟩ | ⟨_, -, rfl⟩) | ⟨_, -, rfl⟩) | ⟨_, -, rfl⟩ <;> simp
  have imports : (importDeltas old new).filter
      (fun delta => delta.kind = .interfaceChanged) = [] := by
    rw [List.filter_eq_nil_iff]
    intro delta hd
    rcases mem_importDeltas.mp hd with ⟨_, -, rfl⟩ | ⟨_, -, rfl⟩ <;> simp [addedImport, removedImport]
  have interfaces : (interfaceDeltas old new).filter
      (fun delta => delta.kind = .interfaceChanged) = interfaceDeltas old new :=
    List.filter_eq_self.mpr fun delta hd => decide_eq_true (kind_of_mem_interfaceDeltas hd)
  rw [deltas, List.filter_append, List.filter_append, names, imports, interfaces, List.append_nil,
    List.nil_append]

theorem filter_kind_deltasBetween (change : Change) (old new : Surface) :
    (change.deltasBetween old new).filter (fun delta => delta.kind = .interfaceChanged) =
      interfaceDeltas old new := by
  rw [← filter_kind_deltas]
  by_cases none : deltas old new = []
  · rw [Change.deltasBetween_of_nil none, none]
    split
    · rfl
    · simp [Change.implementationDelta]
  · rw [Change.deltasBetween_of_ne_nil none]

/-! ## Symbols -/

/-- Without a dot in them, the interfaces of two equal symbols are one interface. -/
theorem eq_of_symbol_eq {first second name other : String} (hf : '.' ∉ first.toList)
    (hs : '.' ∉ second.toList) (h : first ++ "." ++ name = second ++ "." ++ other) :
    first = second := by
  have upToDot {part rest : List Char} (hp : '.' ∉ part) :
      (part ++ '.' :: rest).takeWhile (· != '.') = part := by
    have inside : ∀ c ∈ part, (c != '.') = true := by
      rintro c hc
      rw [bne_iff_ne]
      rintro rfl
      exact hp hc
    rw [List.takeWhile_append_of_pos inside]
    simp
  have parts : first.toList ++ '.' :: name.toList = second.toList ++ '.' :: other.toList := by
    simpa using congrArg String.toList h
  rw [← String.toList_inj, ← upToDot hf, parts, upToDot hs]

theorem affectedSymbol_of_mem_deltasOf {delta : Delta} (h : delta ∈ deltasOf old new interfaceName) :
    ∃ name, delta.affectedSymbol = some (interfaceName ++ "." ++ name) := by
  unfold deltasOf at h
  split at h
  · rcases mem_memberDeltas.mp h with ⟨member, -, rfl⟩ | ⟨member, -, rfl⟩
    · exact ⟨member.name, rfl⟩
    · exact ⟨member.name, symbol_addedMember interfaceName member⟩
  · contradiction

/-- The deltas of another interface are not about a member of this one. -/
theorem filter_concerns_deltasOf_of_ne {other : String} (ho : '.' ∉ other.toList)
    (hi : '.' ∉ interfaceName.toList) (h : other ≠ interfaceName) :
    (deltasOf old new other).filter (·.concerns interfaceName name) = [] := by
  rw [List.filter_eq_nil_iff]
  intro delta hd about
  obtain ⟨member, symbol⟩ := affectedSymbol_of_mem_deltasOf hd
  rw [Delta.concerns, symbol, beq_iff_eq, Option.some.injEq] at about
  exact h (eq_of_symbol_eq ho hi about)

theorem flatMap_eq_of_only {α β : Type} {keys : List α} {f : α → List β} {key : α}
    (once : keys.Nodup) (only : ∀ other ∈ keys, other ≠ key → f other = [])
    (absent : key ∉ keys → f key = []) : keys.flatMap f = f key := by
  induction keys with
  | nil => exact (absent List.not_mem_nil).symm
  | cons first rest ih =>
      rw [List.nodup_cons] at once
      rw [List.forall_mem_cons] at only
      rw [List.flatMap_cons]
      by_cases here : first = key
      · subst here
        have others : rest.flatMap f = [] := List.flatMap_eq_nil_iff.mpr fun other ho =>
          only.2 other ho fun same => once.1 (same ▸ ho)
        rw [others, List.append_nil]
      · rw [only.1 here, List.nil_append]
        refine ih once.2 only.2 fun none => absent ?_
        simpa [Ne.symm here] using none

theorem filter_concerns_interfaceDeltas (h : (old.interfaceMembers.map Prod.fst).Nodup)
    (dotless : ∀ other ∈ old.interfaceMembers.map Prod.fst, '.' ∉ other.toList)
    (hi : '.' ∉ interfaceName.toList) :
    (interfaceDeltas old new).filter (·.concerns interfaceName name) =
      (deltasOf old new interfaceName).filter (·.concerns interfaceName name) := by
  rw [interfaceDeltas_eq_deltasOf h, List.filter_flatMap]
  refine flatMap_eq_of_only h (fun other ho hne => ?_) fun absent => ?_
  · exact filter_concerns_deltasOf_of_ne (dotless other ho) hi hne
  · have none : old.members? interfaceName = none := by
      rw [members?, Option.map_eq_none_iff, List.find?_eq_none]
      exact fun entry he same => absent (List.mem_map.mpr ⟨entry, he, beq_iff_eq.mp same⟩)
    rw [deltasOf_of_none (.inl none), List.filter_nil]

/-! ## Exactness -/

/-- The deltas about a member: all high exactly if the member was lost, all low or medium
exactly if it was gained, and then one for each of its occurrences. -/
structure ReportsMember (old new : Surface) (interfaceName name : String) (found : List Delta) :
    Prop where
  high_iff : (∃ delta ∈ found, delta.severity = .high) ↔ Loses old new interfaceName name
  lesser_iff : (∃ delta ∈ found, delta.severity = .low ∨ delta.severity = .medium) ↔
    Gains old new interfaceName name
  lost : Loses old new interfaceName name → found.map (·.severity) =
    (old.membersNamed interfaceName name).map fun _ => .high
  gained : Gains old new interfaceName name → found.map (·.severity) =
    (new.membersNamed interfaceName name).map fun member => if member.optional then .low else .medium
  kept : ¬Loses old new interfaceName name → ¬Gains old new interfaceName name → found = []

theorem not_gains_of_loses (h : Loses old new interfaceName name) :
    ¬Gains old new interfaceName name := fun other => h.before other.before

theorem reportsMember_deltasOf (old new : Surface) (interfaceName name : String) :
    ReportsMember old new interfaceName name
      ((deltasOf old new interfaceName).filter (·.concerns interfaceName name)) := by
  by_cases hl : Loses old new interfaceName name
  · have hg := not_gains_of_loses hl
    rw [hl.filter_eq]
    refine ⟨⟨fun _ => hl, fun _ => ?_⟩, ⟨?_, fun h => absurd h hg⟩, fun _ => ?_,
      fun h => absurd h hg, fun h => absurd hl h⟩
    · obtain ⟨member, hm⟩ := List.exists_mem_of_ne_nil _ hl.before
      exact ⟨_, List.mem_map_of_mem hm, rfl⟩
    · rintro ⟨delta, hd, light⟩
      obtain ⟨member, -, rfl⟩ := List.mem_map.mp hd
      simp [removedMember] at light
    · rw [List.map_map]
      rfl
  · by_cases hg : Gains old new interfaceName name
    · rw [hg.filter_eq]
      refine ⟨⟨?_, fun h => absurd h hl⟩, ⟨fun _ => hg, fun _ => ?_⟩, fun h => absurd h hl,
        fun _ => ?_, fun _ h => absurd hg h⟩
      · rintro ⟨delta, hd, heavy⟩
        obtain ⟨member, -, rfl⟩ := List.mem_map.mp hd
        rw [severity_addedMember] at heavy
        split at heavy <;> contradiction
      · obtain ⟨member, hm⟩ := List.exists_mem_of_ne_nil _ hg.after
        refine ⟨_, List.mem_map_of_mem hm, ?_⟩
        rw [severity_addedMember]
        cases member.optional
        · exact .inr rfl
        · exact .inl rfl
      · rw [List.map_map]
        exact List.map_congr_left fun member _ => severity_addedMember interfaceName member
    · rw [filter_eq_nil hl hg]
      exact ⟨⟨by simp, fun h => absurd h hl⟩, ⟨by simp, fun h => absurd h hg⟩,
        fun h => absurd h hl, fun h => absurd h hg, fun _ _ => rfl⟩

/-- The deltas of members among those of a comparison.  They come interface by interface; as
long as no dot in a name makes a symbol ambiguous, the symbol alone tells what a delta is
about. -/
structure ReportsMembers (old new : Surface) (found : List Delta) : Prop where
  grouped : found.filter (fun delta => delta.kind = .interfaceChanged) =
    (old.interfaceMembers.map Prod.fst).flatMap (deltasOf old new)
  oneSided : ∀ interfaceName, (old.members? interfaceName).isSome = false ∨
    (new.members? interfaceName).isSome = false → deltasOf old new interfaceName = []
  inGroup : ∀ interfaceName name, ReportsMember old new interfaceName name
    ((deltasOf old new interfaceName).filter (·.concerns interfaceName name))
  bySymbol : (∀ other ∈ old.interfaceMembers.map Prod.fst, '.' ∉ other.toList) →
    ∀ interfaceName name, '.' ∉ interfaceName.toList →
      ReportsMember old new interfaceName name (found.filter fun delta =>
        delta.kind = .interfaceChanged ∧ delta.concerns interfaceName name = true)

/-- A comparison reports the members of interfaces exactly, and with the surface of a script
these are the members of all declarations of an interface. -/
theorem deltasBetween_reportsMembers (change : Change) (old new : Surface)
    (h : (old.interfaceMembers.map Prod.fst).Nodup) :
    ReportsMembers old new (change.deltasBetween old new) ∧
      ∀ dialect text surface, Script.parseSurface dialect text = .ok surface →
        ∀ interfaceName, surface.members? interfaceName = gathered interfaceName
          (Script.interfacesOf (.ofText dialect text) (Script.parse (.ofText dialect text))) := by
  refine ⟨⟨?_, fun interfaceName none => ?_, reportsMember_deltasOf old new, ?_⟩,
    fun dialect text surface read => Script.members?_of_parseSurface read⟩
  · rw [filter_kind_deltasBetween, interfaceDeltas_eq_deltasOf h]
  · exact deltasOf_of_none (by simpa using none)
  · intro dotless interfaceName name hi
    have parts : (change.deltasBetween old new).filter (fun delta =>
        delta.kind = .interfaceChanged ∧ delta.concerns interfaceName name = true) =
          (interfaceDeltas old new).filter (·.concerns interfaceName name) := by
      rw [← filter_kind_deltasBetween change, List.filter_filter]
      exact List.filter_congr fun delta _ => by simp [Bool.and_comm]
    rw [parts, filter_concerns_interfaceDeltas h dotless hi]
    exact reportsMember_deltasOf old new interfaceName name

/-- An interface in two parts, with a member given twice and one that becomes optional. -/
theorem deltasBetween_reportsMembers_parts :
    let before := "interface I { a(): T; a(x: T): T; b: U }\ninterface J { c: T }\n"
    let after := "interface I { b?: U }\ninterface I { d: T; e?: T }\n"
    let old : Surface :=
      { interfaces := ["I", "J"]
        interfaceMembers :=
          [("I", [⟨"a", false⟩, ⟨"a", false⟩, ⟨"b", false⟩]), ("J", [⟨"c", false⟩])] }
    let new : Surface :=
      { interfaces := ["I"]
        interfaceMembers := [("I", [⟨"b", true⟩, ⟨"d", false⟩, ⟨"e", true⟩])] }
    let change := Change.ofContents "i.ts" .modified (some before) (some after)
    Script.parseSurface .typed before = .ok old ∧
      Script.parseSurface .typed after = .ok new ∧
      (old.interfaceMembers.map Prod.fst).Nodup ∧
      ReportsMembers old new (change.deltasBetween old new) ∧
      new.members? "I" = gathered "I" [("I", [⟨"b", true⟩]), ("I", [⟨"d", false⟩, ⟨"e", true⟩])] := by
  intro before after old new change
  have once : (old.interfaceMembers.map Prod.fst).Nodup := by decide
  exact ⟨by decide +kernel, by decide +kernel, once,
    (deltasBetween_reportsMembers change old new once).1, by decide +kernel⟩

end Surface

end CommitLens
