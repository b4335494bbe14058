import CommitLens.Proofs.Python.Statements
import CommitLens.Proofs.Surface.Spelling

/-!
# How modules spell names

What a module declares, its members and what it imports have names of one line.  Main
statement: only the entries of a literal list of exports can be longer.
-/

namespace CommitLens.Python

open Text

/-- Is the name an entry of a literal list of exports? -/
def Listed (statements : List Statement) (name : String) : Prop :=
  ∃ statement ∈ statements, ∃ names, exportList? statement = some names ∧ name ∈ names

/-- How the names of a module are spelled. -/
def spelling (statements : List Statement) : Spelling where
  exported name := OneLine name ∨ Listed statements name
  member := OneLine
  imported := OneLine

variable {statements : List Statement} {surface : Surface} {statement : Statement}

/-! ## What statements add -/

theorem oneLine_of_mem_targetNamesOf {targets : List Expr} (h : ∀ target ∈ targets, target.Plain) :
    ∀ name ∈ targetNamesOf targets, OneLine name := by
  intro name hn
  obtain ⟨target, ht, hn⟩ := mem_targetNamesOf.mp hn
  exact h target ht name hn

theorem oneLine_relativeSpecifier {level : Nat} {module : Option String}
    (h : Parse.Found OneLine module) : OneLine (relativeSpecifier level module) := by
  refine oneLine_append.mpr ⟨oneLine_ofList.mpr fun lineFeed => ?_, ?_⟩
  · exact absurd (List.eq_of_mem_replicate lineFeed) (by decide)
  · cases module with
    | none => decide
    | some name => exact h name rfl

theorem spelled_addClass {name : String} {bases : List Expr} {body : List Statement}
    (h : (Statement.classDef name bases body).Plain) (hs : surface.Spelled (spelling statements)) :
    (addClass name bases body surface).Spelled (spelling statements) := by
  obtain ⟨hn, hm⟩ := h
  unfold addClass
  dsimp only
  split
  · refine hs.declaring ?_ rfl hs.interfaces rfl
    simp only [Surface.mem_declarations, List.mem_append, List.mem_singleton]
    grind
  · split
    · refine hs.declaring ?_ rfl (Surface.fits_setMembers hn hm hs.interfaces) rfl
      simp only [Surface.mem_declarations, List.mem_append, List.mem_singleton]
      grind
    · refine hs.declaring ?_ rfl hs.interfaces rfl
      simp only [Surface.mem_declarations, List.mem_append, List.mem_singleton]
      grind

theorem spelled_addNames (h : statement.Plain) (hs : surface.Spelled (spelling statements)) :
    (addNames statement surface).Spelled (spelling statements) := by
  unfold addNames
  split
  · refine hs.declaring ?_ rfl hs.interfaces rfl
    have names := oneLine_of_mem_targetNamesOf h
    simp only [Surface.mem_declarations, List.mem_append]
    grind
  · rename_i target mark value
    have names : ∀ name ∈ targetNames target, OneLine name := h
    split
    · refine hs.declaring ?_ rfl hs.interfaces rfl
      simp only [Surface.mem_declarations, List.mem_append]
      grind
    · refine hs.declaring ?_ rfl hs.interfaces rfl
      simp only [Surface.mem_declarations, List.mem_append]
      grind
  · exact hs

theorem spelled_addStatement (h : statement.Plain) (hs : surface.Spelled (spelling statements)) :
    (addStatement surface statement).Spelled (spelling statements) := by
  unfold addStatement
  split
  · exact spelled_addClass h hs
  · rename_i name
    have named : OneLine name := h
    refine hs.declaring ?_ rfl hs.interfaces rfl
    simp only [Surface.mem_declarations, List.mem_append, List.mem_singleton]
    grind
  · rename_i items
    refine ⟨hs.declared, hs.exported, hs.interfaces, fun ref hr => ?_⟩
    rcases List.mem_append.mp hr with hr | hr
    · exact hs.imported ref hr
    · obtain ⟨item, hi, rfl⟩ := List.mem_map.mp hr
      exact (h : ∀ item ∈ items, OneLine item.name) item hi
  · refine ⟨hs.declared, hs.exported, hs.interfaces, fun ref hr => ?_⟩
    rcases List.mem_append.mp hr with hr | hr
    · exact hs.imported ref hr
    · obtain rfl := List.mem_singleton.mp hr
      exact oneLine_relativeSpecifier h
  · split
    · exact hs
    · exact spelled_addNames h hs
  · split
    · exact hs
    · exact spelled_addNames h hs
  · exact hs

/-! ## Modules -/

theorem listed_of_getLast? {names : List String}
    (h : (statements.filterMap exportList?).getLast? = some names) {name : String}
    (hn : name ∈ names) : Listed statements name := by
  obtain ⟨statement, hs, found⟩ := List.mem_filterMap.mp (List.mem_of_getLast? h)
  exact ⟨statement, hs, names, found, hn⟩

theorem spelled_surfaceOf (h : ∀ statement ∈ statements, statement.Plain) :
    (surfaceOf statements).Spelled (spelling statements) := by
  have added : (statements.foldl addStatement {}).Spelled (spelling statements) := by
    refine List.foldlRecOn (motive := (Surface.Spelled (spelling statements))) _ _ .empty ?_
    exact fun surface hs statement member => spelled_addStatement (h statement member) hs
  refine Surface.Spelled.withoutRepetitions
    ⟨added.declared, fun name hn => ?_, added.interfaces, added.imported⟩
  dsimp only at hn
  cases listed : (statements.filterMap exportList?).getLast? with
  | none =>
      rw [listed] at hn
      exact .inl (added.declared name (List.mem_of_mem_filter hn))
  | some names =>
      rw [listed] at hn
      exact .inr (listed_of_getLast? listed hn)

/-- How a module can spell the names of its surface. -/
theorem parseSurface_spelled {text : String} {surface : Surface}
    (h : parseSurface text = .ok surface) :
    ∃ statements, parseModule text = .ok statements ∧
      surface.Spelled (spelling statements) := by
  obtain ⟨statements, parsed, rfl⟩ := exists_of_parseSurface h
  exact ⟨statements, parsed, spelled_surfaceOf (plain_of_parseModule parsed)⟩

end CommitLens.Python
