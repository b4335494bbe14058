import CommitLens.Proofs.Change.Names
import Mathlib.Data.Multiset.Bind

/-!
# Modifications made and undone

Going from one content of a file to another and going back report the same
differences the other way round.  Main statement: the deltas of the two
modifications correspond one to one, what came in one of them having gone in the
other.
-/

namespace CommitLens

/-- What becomes of a name on the way back. -/
def NameChange.mirror : NameChange → NameChange
  | exportRemoved => exportAdded
  | exportAdded => exportRemoved
  | declarationRemoved => declarationAdded
  | declarationAdded => declarationRemoved

open Surface in
/-- Two deltas about the same name, member, module or content, the one
undoing what the other one reports. -/
inductive Delta.Mirrors : Delta → Delta → Prop
  | name (change : NameChange) (name : String) :
      Mirrors (change.delta name) (change.mirror.delta name)
  | memberRemoved (interfaceName : String) (member : InterfaceMember) :
      Mirrors (removedMember interfaceName member) (addedMember interfaceName member)
  | memberAdded (interfaceName : String) (member : InterfaceMember) :
      Mirrors (addedMember interfaceName member) (removedMember interfaceName member)
  | importAdded (module : String) : Mirrors (addedImport module) (removedImport module)
  | importRemoved (module : String) : Mirrors (removedImport module) (addedImport module)
  | implementation (change : Change) :
      Mirrors change.implementationDelta change.implementationDelta

namespace Surface

open Delta (Mirrors)

/-- Two groups that change places on the way back. -/
private theorem rel_exchange {α : Type} {f g : α → Delta} (hf : ∀ x, Mirrors (f x) (g x))
    (hg : ∀ x, Mirrors (g x) (f x)) (xs ys : List α) :
    Multiset.Rel Mirrors ↑(xs.map f ++ ys.map g) ↑(ys.map f ++ xs.map g) := by
  have pointwise : ∀ {f g : α → Delta} (_ : ∀ x, Mirrors (f x) (g x)) (xs : List α),
      Multiset.Rel Mirrors ↑(xs.map f) ↑(xs.map g) := by
    intro f g h xs
    rw [← Multiset.map_coe, ← Multiset.map_coe, Multiset.rel_map]
    exact Multiset.rel_refl_of_refl_on fun x _ => h x
  rw [← Multiset.coe_add, ← Multiset.coe_add, add_comm (↑(ys.map f) : Multiset Delta)]
  exact (pointwise hf xs).add (pointwise hg ys)

/-! ## Names and imports -/

theorem nameDeltas_mirrors (old new : Surface) :
    Multiset.Rel Mirrors ↑(nameDeltas old new) ↑(nameDeltas new old) := by
  have exports := rel_exchange (.name .exportRemoved) (.name .exportAdded)
    (removedExports old new) (addedExports old new)
  have locals := rel_exchange (.name .declarationRemoved) (.name .declarationAdded)
    (removedLocals old new) (addedLocals old new)
  have both := exports.add locals
  simp only [Multiset.coe_add, ← List.append_assoc] at both
  exact both

theorem importDeltas_mirrors (old new : Surface) :
    Multiset.Rel Mirrors ↑(importDeltas old new) ↑(importDeltas new old) :=
  rel_exchange .importAdded .importRemoved (without new.importedModules old.importedModules)
    (without old.importedModules new.importedModules)

/-! ## Interfaces

Only the interfaces of the old surface are gone through, each one looked up in
the new surface.  With every interface listed once, the interfaces found are
those of both surfaces, whichever is gone through. -/

/-- The interfaces of both surfaces with their members in the first one and in
the second one. -/
def commonInterfaces (old new : Surface) :
    List (String × List InterfaceMember × List InterfaceMember) :=
  old.interfaceMembers.filterMap fun (name, members) =>
    (new.members? name).map fun others => (name, members, others)

theorem interfaceDeltas_eq_flatMap (old new : Surface) :
    interfaceDeltas old new =
      (commonInterfaces old new).flatMap fun (name, members, others) =>
        memberDeltas name members others := by
  unfold interfaceDeltas commonInterfaces
  induction old.interfaceMembers with
  | nil => rfl
  | cons entry rest ih =>
      obtain ⟨name, members⟩ := entry
      cases h : new.members? name <;> simp [h, ih]

variable {old new : Surface}

theorem mem_commonInterfaces (hn : new.Distinct) {name : String}
    {members others : List InterfaceMember} :
    (name, members, others) ∈ commonInterfaces old new ↔
      (name, members) ∈ old.interfaceMembers ∧ (name, others) ∈ new.interfaceMembers := by
  simp only [commonInterfaces, List.mem_filterMap, Option.map_eq_some_iff]
  constructor
  · rintro ⟨⟨name', members'⟩, hm, others', ho, he⟩
    cases he
    exact ⟨hm, hn.members?_eq_some_iff.mp ho⟩
  · rintro ⟨hm, ho⟩
    exact ⟨(name, members), hm, others, hn.members?_eq_some_iff.mpr ho, rfl⟩

theorem nodup_commonInterfaces (ho : old.Distinct) : (commonInterfaces old new).Nodup := by
  apply List.Nodup.filterMap _ (List.Nodup.of_map _ ho.interfaces)
  rintro ⟨name, members⟩ ⟨name', members'⟩ found hf hf'
  obtain ⟨others, _, rfl⟩ := Option.map_eq_some_iff.mp hf
  obtain ⟨others', _, he⟩ := Option.map_eq_some_iff.mp hf'
  cases he
  rfl

/-- An interface with its members in the other order of the surfaces. -/
private def swapMembers :
    String × List InterfaceMember × List InterfaceMember →
      String × List InterfaceMember × List InterfaceMember
  | (name, members, others) => (name, others, members)

private theorem commonInterfaces_perm (ho : old.Distinct) (hn : new.Distinct) :
    (commonInterfaces new old).Perm ((commonInterfaces old new).map swapMembers) := by
  have inj : Function.Injective swapMembers := by
    rintro ⟨_, _, _⟩ ⟨_, _, _⟩ h
    cases h
    rfl
  rw [List.perm_ext_iff_of_nodup (nodup_commonInterfaces hn)
    ((nodup_commonInterfaces ho).map inj)]
  rintro ⟨name, others, members⟩
  rw [mem_commonInterfaces ho, List.mem_map]
  constructor
  · rintro ⟨hothers, hmembers⟩
    exact ⟨(name, members, others), (mem_commonInterfaces hn).mpr ⟨hmembers, hothers⟩, rfl⟩
  · rintro ⟨⟨_, _, _⟩, hm, he⟩
    cases he
    exact ((mem_commonInterfaces hn).mp hm).symm

theorem memberDeltas_mirrors (name : String) (members others : List InterfaceMember) :
    Multiset.Rel Mirrors ↑(memberDeltas name members others)
      ↑(memberDeltas name others members) :=
  rel_exchange (.memberRemoved name) (.memberAdded name) (membersWithout members others)
    (membersWithout others members)

theorem interfaceDeltas_mirrors (ho : old.Distinct) (hn : new.Distinct) :
    Multiset.Rel Mirrors ↑(interfaceDeltas old new) ↑(interfaceDeltas new old) := by
  simp only [interfaceDeltas_eq_flatMap, ← Multiset.coe_bind]
  rw [Multiset.coe_eq_coe.mpr (commonInterfaces_perm ho hn), ← Multiset.map_coe,
    Multiset.bind_map]
  apply Multiset.rel_bind (r := Eq)
  · rintro ⟨name, members, others⟩ _ rfl
    exact memberDeltas_mirrors name members others
  · exact Multiset.rel_eq_refl

theorem deltas_mirrors (ho : old.Distinct) (hn : new.Distinct) :
    Multiset.Rel Mirrors ↑(deltas old new) ↑(deltas new old) := by
  have all := ((nameDeltas_mirrors old new).add (interfaceDeltas_mirrors ho hn)).add
    (importDeltas_mirrors old new)
  simp only [Multiset.coe_add] at all
  exact all

end Surface

/-! ## A modification and its reversal -/

namespace Change

open Delta (Mirrors)

theorem deltasBetween_mirrors {forth back : Change} {old new : Surface} (ho : old.Distinct)
    (hn : new.Distinct) (path : back.path = forth.path) (before : back.old = forth.new)
    (after : back.new = forth.old) :
    Multiset.Rel Mirrors ↑(forth.deltasBetween old new) ↑(back.deltasBetween new old) := by
  have all := Surface.deltas_mirrors ho hn
  by_cases h : Surface.deltas old new = []
  · have hb : Surface.deltas new old = [] := by
      have size := Multiset.card_eq_card_of_rel all
      rw [h] at size
      exact List.eq_nil_of_length_eq_zero size.symm
    have same : back.implementationDelta = forth.implementationDelta := by
      simp only [implementationDelta, fileName, path]
    rw [deltasBetween_of_nil h, deltasBetween_of_nil hb, before, after, same]
    by_cases hc : forth.old = forth.new
    · rw [if_pos hc, if_pos hc.symm]
      exact .zero
    · rw [if_neg hc, if_neg (Ne.symm hc)]
      exact .cons (.implementation forth) .zero
  · have hb : Surface.deltas new old ≠ [] := by
      intro hb
      have size := Multiset.card_eq_card_of_rel all
      rw [hb] at size
      exact h (List.eq_nil_of_length_eq_zero size)
    rw [deltasBetween_of_ne_nil h, deltasBetween_of_ne_nil hb]
    exact all

end Change

namespace LinkedChange

open Delta (Mirrors)

/-- The change is a modification of the file at the path from one content to
another. -/
structure Modifies (change : LinkedChange) (path a b : String) : Prop where
  path : change.path = path
  kind : change.kind = .modified
  old : change.old = some a
  new : change.new = some b
  previousPath : present? change.previousPath = none

variable {path a b : String}

/-- A modification of a source text between two contents that can be read has
the deltas of their surfaces. -/
theorem Modifies.compare {change : LinkedChange} (h : change.Modifies path a b)
    (hp : isCodePath path = true) {old new : Surface} (ha : parseSource path a = .ok old)
    (hb : parseSource path b = .ok new) :
    change.compare.2 = none ∧
      change.compare.1.deltas = change.toChange.deltasBetween old new := by
  have hcode : isCodePath change.path = true := h.path ▸ hp
  have holdPath : change.oldPath = path := by
    rw [Change.oldPath, h.previousPath, Option.getD_none, h.path]
  have hold : change.oldSurface = .ok old := by
    rw [Change.oldSurface, holdPath, if_pos hp, Change.oldText, h.old]
    exact ha
  have hnew : parseSource change.path change.newText = .ok new := by
    rw [h.path, Change.newText, h.new]
    exact hb
  obtain ⟨summary, hc⟩ := Change.compareModified_ok hold hnew
  rw [← Change.compare_of_modified hcode h.kind] at hc
  rw [compare_of_ok hc]
  exact ⟨rfl, rfl⟩

/-- Going back undoes every delta: as many are reported, and they correspond to
those of the way there one to one. -/
theorem compare_mirrors_reversal {forth back : LinkedChange} (hf : forth.Modifies path a b)
    (hr : back.Modifies path b a) (hp : isCodePath path = true) {old new : Surface}
    (ha : parseSource path a = .ok old) (hb : parseSource path b = .ok new) :
    forth.compare.2 = none ∧ back.compare.2 = none ∧
      forth.compare.1.deltas.length = back.compare.1.deltas.length ∧
      Multiset.Rel Mirrors ↑forth.compare.1.deltas ↑back.compare.1.deltas := by
  obtain ⟨okForth, deltasForth⟩ := hf.compare hp ha hb
  obtain ⟨okBack, deltasBack⟩ := hr.compare hp hb ha
  have mirrors : Multiset.Rel Mirrors ↑forth.compare.1.deltas ↑back.compare.1.deltas := by
    rw [deltasForth, deltasBack]
    exact Change.deltasBetween_mirrors (parseSource_distinct ha) (parseSource_distinct hb)
      (hr.path.trans hf.path.symm) (hr.old.trans hf.new.symm) (hr.new.trans hf.old.symm)
  exact ⟨okForth, okBack, Multiset.card_eq_card_of_rel mirrors, mirrors⟩

/-- An interface with another member, and an import gone. -/
theorem compare_mirrors_reversal_interface :
    let a := "import 'm'\nexport interface I { a: T; b: T }\n"
    let b := "export interface I { b: T; c?: T; c?: T }\n"
    let forth : LinkedChange := { Change.ofContents "a.ts" .modified (some a) (some b) with }
    let back : LinkedChange := { Change.ofContents "a.ts" .modified (some b) (some a) with }
    forth.Modifies "a.ts" a b ∧ back.Modifies "a.ts" b a ∧
      forth.compare.2 = none ∧ back.compare.2 = none ∧
      forth.compare.1.deltas.length = back.compare.1.deltas.length ∧
      Multiset.Rel Mirrors ↑forth.compare.1.deltas ↑back.compare.1.deltas := by
  intro a b forth back
  have ha : parseSource "a.ts" a = .ok
      { exports := ["I"], interfaces := ["I"], imports := [⟨"m", []⟩]
        interfaceMembers := [("I", [⟨"a", false⟩, ⟨"b", false⟩])] } := by
    decide +kernel
  have hb : parseSource "a.ts" b = .ok
      { exports := ["I"], interfaces := ["I"]
        interfaceMembers := [("I", [⟨"b", false⟩, ⟨"c", true⟩, ⟨"c", true⟩])] } := by
    decide +kernel
  have hf : forth.Modifies "a.ts" a b := ⟨rfl, rfl, rfl, rfl, rfl⟩
  have hr : back.Modifies "a.ts" b a := ⟨rfl, rfl, rfl, rfl, rfl⟩
  exact ⟨hf, hr, compare_mirrors_reversal hf hr (by decide +kernel) ha hb⟩

end LinkedChange

end CommitLens
