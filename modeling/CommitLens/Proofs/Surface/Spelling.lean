import CommitLens.Proofs.Surface
import CommitLens.Proofs.Text.Line

/-!
# How the names of a surface are spelled

What a file declares has names of one line.  For exported names, members of interfaces
and imported modules each language has conditions of its own; parts of a surface that
meet them can be put together.
-/

namespace CommitLens

open Text

/-- The conditions on exported names, on members and on imported modules. -/
structure Spelling where
  exported : String → Prop
  member : String → Prop
  imported : String → Prop

/-- An interface with a name of one line and members that are spelled so. -/
def Spelling.Fits (spelling : Spelling) (entry : String × List InterfaceMember) : Prop :=
  OneLine entry.1 ∧ ∀ item ∈ entry.2, spelling.member item.name

namespace Surface

/-- The names of the surface are spelled so, and what it declares on one line. -/
structure Spelled (spelling : Spelling) (surface : Surface) : Prop where
  declared : ∀ name ∈ surface.declarations, OneLine name
  exported : ∀ name ∈ surface.exports, spelling.exported name
  interfaces : ∀ entry ∈ surface.interfaceMembers, spelling.Fits entry
  imported : ∀ ref ∈ surface.imports, spelling.imported ref.specifier

variable {spelling : Spelling}

theorem mem_declarations {surface : Surface} {name : String} :
    name ∈ surface.declarations ↔ name ∈ surface.classes ∨ name ∈ surface.interfaces ∨
      name ∈ surface.functions ∨ name ∈ surface.enums ∨ name ∈ surface.typeAliases ∨
      name ∈ surface.variableNames := by
  simp [declarations]

theorem mem_importedModules {surface : Surface} {name : String} :
    name ∈ surface.importedModules ↔ ∃ ref ∈ surface.imports, ref.specifier = name := by
  simp [importedModules]

section Members

variable {name : String} {members : List InterfaceMember}
  {known : List (String × List InterfaceMember)}

theorem fits_addMembers (hn : OneLine name) (hm : ∀ item ∈ members, spelling.member item.name)
    (h : ∀ entry ∈ known, spelling.Fits entry) :
    ∀ entry ∈ addMembers name members known, spelling.Fits entry := by
  induction known with
  | nil => exact List.forall_mem_singleton.mpr ⟨hn, hm⟩
  | cons first rest ih =>
      obtain ⟨first, old⟩ := first
      rw [List.forall_mem_cons] at h
      obtain ⟨here, later⟩ := h
      rw [addMembers]
      split
      · refine List.forall_mem_cons.mpr ⟨⟨here.1, fun item hi => ?_⟩, later⟩
        exact (List.mem_append.mp hi).elim (here.2 item) (hm item)
      · exact List.forall_mem_cons.mpr ⟨here, ih later⟩

theorem fits_setMembers (hn : OneLine name) (hm : ∀ item ∈ members, spelling.member item.name)
    (h : ∀ entry ∈ known, spelling.Fits entry) :
    ∀ entry ∈ setMembers name members known, spelling.Fits entry := by
  induction known with
  | nil => exact List.forall_mem_singleton.mpr ⟨hn, hm⟩
  | cons first rest ih =>
      obtain ⟨first, old⟩ := first
      rw [List.forall_mem_cons] at h
      obtain ⟨here, later⟩ := h
      rw [setMembers]
      split
      · exact List.forall_mem_cons.mpr ⟨⟨here.1, hm⟩, later⟩
      · exact List.forall_mem_cons.mpr ⟨here, ih later⟩

theorem fits_foldl_addMembers {more : List (String × List InterfaceMember)}
    (hm : ∀ entry ∈ more, spelling.Fits entry) (h : ∀ entry ∈ known, spelling.Fits entry) :
    ∀ entry ∈ more.foldl (fun known (name, members) => addMembers name members known) known,
      spelling.Fits entry := by
  induction more generalizing known with
  | nil => exact h
  | cons first rest ih =>
      rw [List.forall_mem_cons] at hm
      exact ih hm.2 (fits_addMembers hm.1.1 hm.1.2 h)

end Members

namespace Spelled

theorem empty : Spelled spelling {} := by
  constructor <;> exact fun _ h => nomatch h

theorem of_exports {names : List String} (h : ∀ name ∈ names, spelling.exported name) :
    Spelled spelling { exports := names } where
  declared _ h := by simp [mem_declarations] at h
  exported := h
  interfaces _ h := nomatch h
  imported _ h := nomatch h

theorem of_imports {refs : List ImportRef}
    (h : ∀ ref ∈ refs, spelling.imported ref.specifier) :
    Spelled spelling { imports := refs } where
  declared _ h := by simp [mem_declarations] at h
  exported _ h := nomatch h
  interfaces _ h := nomatch h
  imported := h

/-- What else is declared has names of one line as well. -/
theorem declaring {surface other : Surface} (h : surface.Spelled spelling)
    (declared : ∀ name ∈ other.declarations, name ∈ surface.declarations ∨ OneLine name)
    (exports : other.exports = surface.exports)
    (interfaces : ∀ entry ∈ other.interfaceMembers, spelling.Fits entry)
    (imports : other.imports = surface.imports) : other.Spelled spelling where
  declared name hn := (declared name hn).elim (h.declared name) id
  exported := exports ▸ h.exported
  interfaces := interfaces
  imported := imports ▸ h.imported

theorem mono {other : Spelling} {surface : Surface} (h : surface.Spelled spelling)
    (exported : ∀ name, spelling.exported name → other.exported name)
    (member : ∀ name, spelling.member name → other.member name)
    (imported : ∀ name, spelling.imported name → other.imported name) : surface.Spelled other where
  declared := h.declared
  exported name hm := exported name (h.exported name hm)
  interfaces entry he :=
    ⟨(h.interfaces entry he).1, fun item hi => member item.name ((h.interfaces entry he).2 item hi)⟩
  imported ref hr := imported ref.specifier (h.imported ref hr)

theorem append {a b : Surface} (ha : a.Spelled spelling) (hb : b.Spelled spelling) :
    (a ++ b).Spelled spelling where
  declared name h := by
    have parts : name ∈ a.declarations ∨ name ∈ b.declarations := by
      rw [mem_declarations] at h ⊢
      rw [mem_declarations]
      simp only [HAppend.hAppend, Append.append, Surface.append] at h
      simp only [List.append_eq, List.mem_append] at h
      tauto
    exact parts.elim (ha.declared name) (hb.declared name)
  exported name h := (List.mem_append.mp h).elim (ha.exported name) (hb.exported name)
  interfaces := fits_foldl_addMembers hb.interfaces ha.interfaces
  imported ref h := (List.mem_append.mp h).elim (ha.imported ref) (hb.imported ref)

theorem concat {parts : List Surface} (h : ∀ part ∈ parts, part.Spelled spelling) :
    (Surface.concat parts).Spelled spelling := by
  have each : ∀ whole : Surface, whole.Spelled spelling →
      (parts.foldl Surface.append whole).Spelled spelling := by
    induction parts with
    | nil => exact fun whole hw => hw
    | cons part rest ih =>
        intro whole hw
        rw [List.forall_mem_cons] at h
        exact ih h.2 _ (hw.append h.1)
  exact each {} empty

theorem withoutRepetitions {surface : Surface} (h : surface.Spelled spelling) :
    surface.withoutRepetitions.Spelled spelling where
  declared name hn := by
    refine h.declared name ?_
    rw [mem_declarations] at hn ⊢
    simpa [Surface.withoutRepetitions] using hn
  exported name hn := h.exported name (mem_unique.mp hn)
  interfaces := h.interfaces
  imported := h.imported

end Spelled

end Surface

end CommitLens
