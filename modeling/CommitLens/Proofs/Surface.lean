import CommitLens.Language
import Mathlib.Data.List.Induction
import Mathlib.Data.List.Nodup

/-!
# Surfaces list every name once

The exports of a surface that was read from a text are free of repetitions, and
so are the names of its interfaces.  The comparison of two versions relies on
it: a name is in a list or it is not.
-/

namespace CommitLens

/-- Leaving items out of a list shows in any picture of it. -/
theorem map_filter_eq_map_iff {α β : Type} {f : α → β} {p : α → Bool} {items : List α} :
    (items.filter p).map f = items.map f ↔ ∀ item ∈ items, p item = true := by
  constructor
  · intro same
    have long := congrArg List.length same
    rwa [List.length_map, List.length_map, List.length_filter_eq_length_iff] at long
  · intro all
    rw [List.filter_eq_self.mpr all]

/-! ## First occurrences -/

section Unique

variable {α : Type} [BEq α]

/-- A list with an item behind it, unless it has the item already. -/
def appendNew (kept : List α) (item : α) : List α :=
  if kept.contains item then kept else kept ++ [item]

theorem unique_eq_foldl (items : List α) : unique items = items.foldl appendNew [] := rfl

theorem unique_concat (items : List α) (item : α) :
    unique (items ++ [item]) = appendNew (unique items) item := by
  simp only [unique_eq_foldl, List.foldl_append, List.foldl_cons, List.foldl_nil]

variable [LawfulBEq α]

theorem appendNew_of_mem {kept : List α} {item : α} (h : item ∈ kept) :
    appendNew kept item = kept := by
  simp [appendNew, h]

theorem appendNew_of_not_mem {kept : List α} {item : α} (h : item ∉ kept) :
    appendNew kept item = kept ++ [item] := by
  simp [appendNew, h]

theorem appendNew_cons_of_ne {kept : List α} {a item : α} (h : a ≠ item) :
    appendNew (a :: kept) item = a :: appendNew kept item := by
  by_cases hi : item ∈ kept
  · rw [appendNew_of_mem hi, appendNew_of_mem (List.mem_cons_of_mem a hi)]
  · rw [appendNew_of_not_mem hi, appendNew_of_not_mem (by simp [hi, h.symm]), List.cons_append]

theorem mem_appendNew {kept : List α} {item a : α} :
    a ∈ appendNew kept item ↔ a ∈ kept ∨ a = item := by
  by_cases h : item ∈ kept
  · rw [appendNew_of_mem h]
    constructor
    · exact Or.inl
    · rintro (ha | rfl)
      · exact ha
      · exact h
  · rw [appendNew_of_not_mem h, List.mem_append, List.mem_singleton]

theorem nodup_appendNew {kept : List α} (item : α) (h : kept.Nodup) :
    (appendNew kept item).Nodup := by
  by_cases hi : item ∈ kept
  · rw [appendNew_of_mem hi]
    exact h
  · rw [appendNew_of_not_mem hi]
    exact h.append (List.nodup_singleton item) (List.disjoint_singleton.mpr hi)

private theorem mem_foldl_appendNew {items kept : List α} {a : α} :
    a ∈ items.foldl appendNew kept ↔ a ∈ kept ∨ a ∈ items := by
  induction items generalizing kept with
  | nil => simp
  | cons item rest ih => rw [List.foldl_cons, ih, mem_appendNew, List.mem_cons, or_assoc]

private theorem nodup_foldl_appendNew {items kept : List α} (h : kept.Nodup) :
    (items.foldl appendNew kept).Nodup := by
  induction items generalizing kept with
  | nil => exact h
  | cons item rest ih => exact ih (nodup_appendNew item h)

@[simp] theorem mem_unique {items : List α} {a : α} : a ∈ unique items ↔ a ∈ items := by
  rw [unique_eq_foldl, mem_foldl_appendNew]
  simp

theorem nodup_unique (items : List α) : (unique items).Nodup :=
  nodup_foldl_appendNew List.nodup_nil

theorem unique_eq_eraseDups (items : List α) : unique items = items.eraseDups := by
  induction items using List.reverseRecOn with
  | nil => rfl
  | append_singleton items item ih =>
      rw [unique_concat, List.eraseDups_append]
      by_cases h : item ∈ items
      · have none : [item].removeAll items = [] := by simp [List.removeAll, h]
        rw [appendNew_of_mem (mem_unique.mpr h), ih, none]
        exact (List.append_nil _).symm
      · have one : [item].removeAll items = [item] := by simp [List.removeAll, h]
        rw [appendNew_of_not_mem fun hm => h (mem_unique.mp hm), ih, one]
        rfl

theorem filter_appendNew (p : α → Bool) (kept : List α) (item : α) :
    (appendNew kept item).filter p =
      if p item then appendNew (kept.filter p) item else kept.filter p := by
  by_cases h : item ∈ kept
  · rw [appendNew_of_mem h]
    split
    · rename_i hp
      rw [appendNew_of_mem (List.mem_filter.mpr ⟨h, hp⟩)]
    · rfl
  · have hf : item ∉ kept.filter p := fun hm => h (List.mem_filter.mp hm).1
    rw [appendNew_of_not_mem h, appendNew_of_not_mem hf, List.filter_append]
    by_cases hp : p item <;> simp [hp]

/-- Leaving items out keeps the first occurrences of the others. -/
theorem unique_filter (p : α → Bool) (items : List α) :
    unique (items.filter p) = (unique items).filter p := by
  induction items using List.reverseRecOn with
  | nil => rfl
  | append_singleton items item ih =>
      rw [unique_concat, filter_appendNew, ← ih, List.filter_append]
      by_cases hp : p item <;> simp [hp, unique_concat]

/-- Only first occurrences decide which values of a function come first. -/
theorem unique_map_unique {β : Type} [BEq β] [LawfulBEq β] (f : α → β) (items : List α) :
    unique ((unique items).map f) = unique (items.map f) := by
  induction items using List.reverseRecOn with
  | nil => rfl
  | append_singleton items item ih =>
      rw [unique_concat, List.map_append, List.map_singleton, unique_concat]
      by_cases h : item ∈ items
      · have value : f item ∈ unique (items.map f) := mem_unique.mpr (List.mem_map_of_mem h)
        rw [appendNew_of_mem (mem_unique.mpr h), appendNew_of_mem value, ih]
      · rw [appendNew_of_not_mem fun hm => h (mem_unique.mp hm), List.map_append,
          List.map_singleton, unique_concat, ih]

theorem unique_unique (items : List α) : unique (unique items) = unique items := by
  simpa using unique_map_unique id items

end Unique

/-! ## The names of interfaces -/

section Members

variable {name : String} {members : List InterfaceMember}
  {entries : List (String × List InterfaceMember)}

/-- Adding members opens an interface where there was none. -/
theorem map_fst_addMembers :
    (addMembers name members entries).map Prod.fst =
      appendNew (entries.map Prod.fst) name := by
  induction entries with
  | nil => rfl
  | cons entry rest ih =>
      obtain ⟨other, known⟩ := entry
      by_cases h : other = name
      · rw [appendNew_of_mem (by simp [h])]
        simp [addMembers, h]
      · rw [List.map_cons, appendNew_cons_of_ne h, ← ih]
        simp [addMembers, h]

theorem map_fst_setMembers :
    (setMembers name members entries).map Prod.fst =
      appendNew (entries.map Prod.fst) name := by
  induction entries with
  | nil => rfl
  | cons entry rest ih =>
      obtain ⟨other, known⟩ := entry
      by_cases h : other = name
      · rw [appendNew_of_mem (by simp [h])]
        simp [setMembers, h]
      · rw [List.map_cons, appendNew_cons_of_ne h, ← ih]
        simp [setMembers, h]

theorem nodup_foldl_addMembers {more : List (String × List InterfaceMember)}
    (h : (entries.map Prod.fst).Nodup) :
    ((more.foldl (fun known (name, members) => addMembers name members known) entries).map
      Prod.fst).Nodup := by
  induction more generalizing entries with
  | nil => exact h
  | cons entry rest ih =>
      apply ih
      rw [map_fst_addMembers]
      exact nodup_appendNew entry.1 h

/-- With every name listed once, looking a name up finds its only entry. -/
theorem find?_name_eq_some_iff {entry : String × List InterfaceMember}
    (h : (entries.map Prod.fst).Nodup) :
    (entries.find? fun other => other.1 == name) = some entry ↔
      entry ∈ entries ∧ entry.1 = name := by
  induction entries with
  | nil => simp
  | cons first rest ih =>
      rw [List.map_cons, List.nodup_cons] at h
      by_cases hf : first.1 = name
      · have absent : ∀ other ∈ rest, other.1 ≠ name := by
          intro other ho he
          exact h.1 (List.mem_map.mpr ⟨other, ho, he.trans hf.symm⟩)
        simp only [List.find?_cons, hf, beq_self_eq_true, Option.some.injEq, List.mem_cons]
        constructor
        · rintro rfl
          exact ⟨Or.inl rfl, hf⟩
        · rintro ⟨rfl | hr, he⟩
          · rfl
          · exact absurd he (absent entry hr)
      · simp only [List.find?_cons, beq_false_of_ne hf, ih h.2, List.mem_cons]
        constructor
        · rintro ⟨hr, he⟩
          exact ⟨Or.inr hr, he⟩
        · rintro ⟨rfl | hr, he⟩
          · exact absurd he hf
          · exact ⟨hr, he⟩

end Members

/-! ## Surfaces of texts -/

/-- Neither the exports nor the names of the interfaces have repetitions. -/
structure Surface.Distinct (surface : Surface) : Prop where
  exports : surface.exports.Nodup
  interfaces : (surface.interfaceMembers.map Prod.fst).Nodup

namespace Surface

theorem nodup_declarations (surface : Surface) : surface.declarations.Nodup :=
  nodup_unique _

theorem Distinct.empty : Distinct {} :=
  ⟨List.nodup_nil, List.nodup_nil⟩

theorem Distinct.withoutRepetitions {surface : Surface}
    (h : (surface.interfaceMembers.map Prod.fst).Nodup) :
    surface.withoutRepetitions.Distinct :=
  ⟨nodup_unique surface.exports, h⟩

theorem Distinct.members?_eq_some_iff {surface : Surface} (h : surface.Distinct)
    {name : String} {members : List InterfaceMember} :
    surface.members? name = some members ↔ (name, members) ∈ surface.interfaceMembers := by
  unfold members?
  rw [Option.map_eq_some_iff]
  constructor
  · rintro ⟨entry, he, rfl⟩
    obtain ⟨hm, rfl⟩ := (find?_name_eq_some_iff h.interfaces).mp he
    exact hm
  · intro hm
    exact ⟨(name, members), (find?_name_eq_some_iff h.interfaces).mpr ⟨hm, rfl⟩, rfl⟩

/-- What is put together part by part is that of all parts. -/
theorem concat_eq_flatMap {α : Type} (field : Surface → List α) (empty : field {} = [])
    (each : ∀ a b, field (append a b) = field a ++ field b) (parts : List Surface) :
    field (concat parts) = parts.flatMap field := by
  have from_ (first : Surface) : field (parts.foldl append first) =
      field first ++ parts.flatMap field := by
    induction parts generalizing first with
    | nil => simp
    | cons part rest ih => rw [List.foldl_cons, ih, each, List.flatMap_cons, List.append_assoc]
  rw [concat, from_, empty, List.nil_append]

theorem nodup_interfaces_concat (parts : List Surface) :
    ((concat parts).interfaceMembers.map Prod.fst).Nodup := by
  apply List.foldlRecOn parts append
    (motive := fun done => (done.interfaceMembers.map Prod.fst).Nodup)
  · exact List.nodup_nil
  · intro done h part _
    exact nodup_foldl_addMembers h

end Surface

namespace Python

/-- Only a class can open an interface. -/
theorem nodup_interfaces_addStatement {surface : Surface} (statement : Statement)
    (h : (surface.interfaceMembers.map Prod.fst).Nodup) :
    ((addStatement surface statement).interfaceMembers.map Prod.fst).Nodup := by
  cases statement with
  | classDef name bases body =>
      simp only [addStatement, addClass]
      split
      · exact h
      · split
        · rw [map_fst_setMembers]
          exact nodup_appendNew name h
        · exact h
  | functionDef name => exact h
  | importModules items => exact h
  | importFrom level module items => exact h
  | assign targets value =>
      simp only [addStatement, addNames]
      split <;> exact h
  | annotate target mark value =>
      simp only [addStatement, addNames]
      split
      · exact h
      · split <;> exact h
  | other => exact h

theorem surfaceOf_distinct (statements : List Statement) : (surfaceOf statements).Distinct := by
  apply Surface.Distinct.withoutRepetitions
  apply List.foldlRecOn statements addStatement
    (motive := fun done => (done.interfaceMembers.map Prod.fst).Nodup)
  · exact List.nodup_nil
  · intro done h statement _
    exact nodup_interfaces_addStatement statement h

theorem exists_of_parseSurface {text : String} {surface : Surface}
    (h : parseSurface text = .ok surface) :
    ∃ statements, parseModule text = .ok statements ∧ surface = surfaceOf statements := by
  unfold parseSurface at h
  cases parsed : parseModule text with
  | error error => simp [parsed, Except.map] at h
  | ok statements =>
      simp only [parsed, Except.map, Except.ok.injEq] at h
      exact ⟨statements, rfl, h.symm⟩

theorem parseSurface_distinct {text : String} {surface : Surface}
    (h : parseSurface text = .ok surface) : surface.Distinct := by
  obtain ⟨statements, -, rfl⟩ := exists_of_parseSurface h
  exact surfaceOf_distinct statements

end Python

namespace Script

theorem surfaceOf_distinct (src : Source) (program : Tree) :
    (surfaceOf src program).Distinct :=
  Surface.Distinct.withoutRepetitions
    (Surface.nodup_interfaces_concat (program.namedChildren.map (statementSurface src)))

theorem of_parseSurface {dialect : Dialect} {text : String} {surface : Surface}
    (h : parseSurface dialect text = .ok surface) :
    firstBrokenLine? (.ofText dialect text) (parse (.ofText dialect text)) = none ∧
      surface = surfaceOf (.ofText dialect text) (parse (.ofText dialect text)) := by
  simp only [parseSurface] at h
  split at h
  · contradiction
  · rename_i whole
    cases h
    exact ⟨whole, rfl⟩

theorem parseSurface_distinct {dialect : Dialect} {text : String} {surface : Surface}
    (h : parseSurface dialect text = .ok surface) : surface.Distinct := by
  obtain ⟨-, rfl⟩ := of_parseSurface h
  exact surfaceOf_distinct _ _

end Script

/-- A source text is read in the language of its path. -/
theorem language_of_parseSource {path content : String} {surface : Surface}
    (h : parseSource path content = .ok surface) :
    (Language.ofPath? path = some .python ∧ Python.parseSurface content = .ok surface) ∨
      ∃ dialect, Language.ofPath? path = some (.script dialect) ∧
        Script.parseSurface dialect content = .ok surface := by
  unfold parseSource at h
  split at h
  · contradiction
  · rename_i language
    cases read : Python.parseSurface content with
    | error error => simp [read] at h
    | ok found =>
        simp only [read, Except.ok.injEq] at h
        exact .inl ⟨language, by rw [h]⟩
  · rename_i dialect language
    cases read : Script.parseSurface dialect content with
    | error line => simp [read] at h
    | ok found =>
        simp only [read, Except.ok.injEq] at h
        exact .inr ⟨dialect, language, by rw [read, h]⟩

/-- What is read from a text has every name once, in either language. -/
theorem parseSource_distinct {path content : String} {surface : Surface}
    (h : parseSource path content = .ok surface) : surface.Distinct := by
  rcases language_of_parseSource h with ⟨-, read⟩ | ⟨dialect, -, read⟩
  · exact Python.parseSurface_distinct read
  · exact Script.parseSurface_distinct read

end CommitLens
