import CommitLens.Proofs.Change.Impact
import CommitLens.Proofs.Dependency.Outline
import CommitLens.Proofs.Python.Targets

/-!
# What a Python module declares

Every statement of the top level adds names, imports, bases and members to a surface, and
none takes anything away.  Main statement: a surface holds what its statements add, in their
order, and exports what the last literal list of exports says, or else the public names.  So
names that start with an underscore do not show when two modules are compared.
-/

namespace CommitLens

/-- The categories of declared names, in the order in which exports list them. -/
inductive Category where
  | classes
  | interfaces
  | functions
  | enums
  | typeAliases
  | variables
  deriving Repr, DecidableEq

def Category.inOrder : List Category :=
  [.classes, .interfaces, .functions, .enums, .typeAliases, .variables]

namespace Surface

def namesOf (surface : Surface) : Category → List String
  | .classes => surface.classes
  | .interfaces => surface.interfaces
  | .functions => surface.functions
  | .enums => surface.enums
  | .typeAliases => surface.typeAliases
  | .variables => surface.variableNames

def withNames (surface : Surface) (category : Category) (names : List String) : Surface :=
  match category with
  | .classes => { surface with classes := surface.classes ++ names }
  | .interfaces => { surface with interfaces := surface.interfaces ++ names }
  | .functions => { surface with functions := surface.functions ++ names }
  | .enums => { surface with enums := surface.enums ++ names }
  | .typeAliases => { surface with typeAliases := surface.typeAliases ++ names }
  | .variables => { surface with variableNames := surface.variableNames ++ names }

theorem namesOf_withNames (surface : Surface) (category other : Category)
    (names : List String) :
    (surface.withNames category names).namesOf other =
      surface.namesOf other ++ if category = other then names else [] := by
  cases category <;> cases other <;> simp [withNames, namesOf]

theorem declarations_eq (surface : Surface) :
    surface.declarations = unique (Category.inOrder.flatMap surface.namesOf) := by
  simp [declarations, Category.inOrder, namesOf]

theorem namesOf_withoutRepetitions (surface : Surface) (category : Category) :
    surface.withoutRepetitions.namesOf category = unique (surface.namesOf category) := by
  cases category <;> rfl

end Surface

/-- What is recorded for a name after members are set for one. -/
theorem find?_setMembers (name other : String) (members : List InterfaceMember)
    (entries : List (String × List InterfaceMember)) :
    ((setMembers name members entries).find? fun entry => entry.1 == other).map (·.2) =
      if name = other then some members
      else (entries.find? fun entry => entry.1 == other).map (·.2) := by
  induction entries with
  | nil =>
      by_cases same : name = other
      · simp [setMembers, same]
      · simp [setMembers, same]
  | cons entry rest ih =>
      obtain ⟨first, known⟩ := entry
      by_cases here : first = name
      · by_cases same : name = other
        · simp [setMembers, here, same]
        · simp [setMembers, here, same]
      · by_cases found : first = other
        · obtain rfl := found
          simp [setMembers, here, Ne.symm here]
        · simp [setMembers, here, found, ih]

namespace Python

/-! ## What a statement adds -/

/-- The category of a class: bases of enumerations decide before those of interfaces. -/
def categoryOfBases (bases : List Expr) : Category :=
  if ∃ base ∈ bases, baseName base ∈ enumBases then .enums
  else if ∃ base ∈ bases, baseName base ∈ interfaceBases then .interfaces
  else .classes

/-- The category of a name with a type. -/
def categoryOfMark (mark : Expr) : Category :=
  if mark.render.endsWith "TypeAlias" then .typeAliases else .variables

/-- A statement assigns a literal list with these items to the name of the exports. -/
inductive ListsExports : Statement → List Expr → Prop
  | assign {targets items : List Expr} {value : Expr} (named : Expr.name "__all__" ∈ targets)
      (literal : value = .list items ∨ value = .tuple items) :
      ListsExports (.assign targets value) items
  | annotate {mark value : Expr} {items : List Expr}
      (literal : value = .list items ∨ value = .tuple items) :
      ListsExports (.annotate (.name "__all__") mark (some value)) items

def IsExportList (statement : Statement) : Prop :=
  ∃ items, ListsExports statement items

theorem isAllName_iff {e : Expr} : isAllName e = true ↔ e = .name "__all__" := by
  cases e <;> simp [isAllName]

theorem listFor_eq_some_iff {targets : List Expr} {value : Expr} {names : List String} :
    exportList?.listFor targets value = some names ↔
      Expr.name "__all__" ∈ targets ∧
        ∃ items, (value = .list items ∨ value = .tuple items) ∧ names = literalTexts items := by
  have named : targets.any isAllName = true ↔ Expr.name "__all__" ∈ targets := by
    simp [List.any_eq_true, isAllName_iff]
  unfold exportList?.listFor
  by_cases h : Expr.name "__all__" ∈ targets
  · rw [if_pos (named.mpr h), and_iff_right h]
    cases value <;> simp [eq_comm]
  · rw [if_neg (mt named.mp h)]
    simp [h]

theorem exportList?_eq_some_iff {statement : Statement} {names : List String} :
    exportList? statement = some names ↔
      ∃ items, ListsExports statement items ∧ names = literalTexts items := by
  constructor
  · intro h
    unfold exportList? at h
    split at h
    · obtain ⟨named, items, literal, same⟩ := listFor_eq_some_iff.mp h
      exact ⟨items, .assign named literal, same⟩
    · obtain ⟨named, items, literal, same⟩ := listFor_eq_some_iff.mp h
      obtain rfl := List.mem_singleton.mp named
      exact ⟨items, .annotate literal, same⟩
    · contradiction
  · rintro ⟨items, lists, same⟩
    cases lists with
    | assign named literal => exact listFor_eq_some_iff.mpr ⟨named, items, literal, same⟩
    | annotate literal =>
        exact listFor_eq_some_iff.mpr ⟨List.mem_singleton.mpr rfl, items, literal, same⟩

theorem isSome_exportList?_iff {statement : Statement} :
    (exportList? statement).isSome = true ↔ IsExportList statement := by
  rw [Option.isSome_iff_exists]
  simp only [exportList?_eq_some_iff, IsExportList]
  constructor
  · rintro ⟨names, items, lists, same⟩
    exact ⟨items, lists⟩
  · rintro ⟨items, lists⟩
    exact ⟨_, items, lists, rfl⟩

instance (statement : Statement) : Decidable (IsExportList statement) :=
  decidable_of_iff _ isSome_exportList?_iff

/-- The names that a statement declares, each in its category. -/
def declared (statement : Statement) : List (Category × String) :=
  match statement with
  | .classDef name bases _ => [(categoryOfBases bases, name)]
  | .functionDef name => [(.functions, name)]
  | .assign targets _ =>
      if IsExportList statement then []
      else (plainNames (boundOf false targets)).map fun name => (.variables, name)
  | .annotate target mark _ =>
      if IsExportList statement then []
      else (plainNames (bound false target)).map fun name => (categoryOfMark mark, name)
  | .importModules _ | .importFrom _ _ _ | .other => []

/-- The imports of a statement; leading dots stay in front of the module. -/
def importsOf : Statement → List ImportRef
  | .importModules items => items.map fun item => ⟨item.name, [item.boundTo.getD item.name]⟩
  | .importFrom level module items =>
      [⟨String.ofList (List.replicate level '.') ++ module.getD "", items.map (·.name)⟩]
  | _ => []

/-- The bases with names, each with the name of the class. -/
def heritageOf : Statement → List (String × String)
  | .classDef name bases _ =>
      ((bases.map baseName).filter (!·.isEmpty)).map fun base => (name, base)
  | _ => []

/-- The members that a statement records for an interface of the given name. -/
def membersOf? (name : String) : Statement → Option (List InterfaceMember)
  | .classDef other bases body =>
      if other = name ∧ categoryOfBases bases = .interfaces then some (body.filterMap memberOf?)
      else none
  | _ => none

/-- The names of a category in source order. -/
def namesIn (category : Category) (statements : List Statement) : List String :=
  (statements.flatMap declared).filterMap fun found =>
    if found.1 = category then some found.2 else none

theorem namesIn_append (category : Category) (a b : List Statement) :
    namesIn category (a ++ b) = namesIn category a ++ namesIn category b := by
  simp [namesIn]

/-! ## The step -/

/-- What a statement adds to a surface before repetitions are left out. -/
structure Adds (statement : Statement) (surface next : Surface) : Prop where
  names : ∀ category,
    next.namesOf category = surface.namesOf category ++ namesIn category [statement]
  imports : next.imports = surface.imports ++ importsOf statement
  heritage : next.heritage = surface.heritage ++ heritageOf statement
  members : ∀ name, next.members? name = (membersOf? name statement).or (surface.members? name)
  interfaces : surface.interfaceMembers.map Prod.fst = unique surface.interfaces →
    next.interfaceMembers.map Prod.fst = unique next.interfaces
  reexports : next.reexports = surface.reexports
  hasMarkup : next.hasMarkup = surface.hasMarkup

variable {surface : Surface} {statements : List Statement}

theorem addClass_eq (name : String) (bases : List Expr) (body : List Statement) :
    addClass name bases body surface =
      let surface := { surface with
        heritage := surface.heritage ++ heritageOf (.classDef name bases body) }
      match categoryOfBases bases with
      | .enums => { surface with enums := surface.enums ++ [name] }
      | .interfaces => { surface with
          interfaces := surface.interfaces ++ [name]
          interfaceMembers :=
            setMembers name (body.filterMap memberOf?) surface.interfaceMembers }
      | _ => { surface with classes := surface.classes ++ [name] } := by
  have among (known : List String) : ((bases.map baseName).any known.contains = true) ↔
      ∃ base ∈ bases, baseName base ∈ known := by simp
  simp only [addClass, among, categoryOfBases, heritageOf]
  by_cases enum : ∃ base ∈ bases, baseName base ∈ enumBases
  · simp only [enum, if_true]
  · by_cases interface : ∃ base ∈ bases, baseName base ∈ interfaceBases
    · simp only [enum, interface, if_true, if_false]
    · simp only [enum, interface, if_false]

theorem categoryOfBases_cases (bases : List Expr) :
    categoryOfBases bases = .enums ∨ categoryOfBases bases = .interfaces ∨
      categoryOfBases bases = .classes := by
  unfold categoryOfBases
  split
  · exact .inl rfl
  · split
    · exact .inr (.inl rfl)
    · exact .inr (.inr rfl)

theorem namesIn_singleton {statement : Statement} {category : Category} {names : List String}
    (h : declared statement = names.map fun name => (category, name)) (other : Category) :
    namesIn other [statement] = if category = other then names else [] := by
  by_cases same : category = other
  · simp [namesIn, h, same]
  · simp [namesIn, h, same]

/-- A statement that adds names of one category, and maybe bases. -/
theorem adds_names {statement : Statement} {next : Surface} (category : Category)
    (names : List String) (other : category ≠ .interfaces)
    (same : next = { surface.withNames category names with
      heritage := surface.heritage ++ heritageOf statement })
    (declares : declared statement = names.map fun name => (category, name))
    (imports : importsOf statement = []) (members : ∀ name, membersOf? name statement = none) :
    Adds statement surface next := by
  obtain rfl := same
  constructor
  · intro found
    rw [namesIn_singleton declares, ← Surface.namesOf_withNames]
    cases found <;> rfl
  · rw [imports]
    cases category <;> simp [Surface.withNames]
  · rfl
  · intro name
    rw [members]
    cases category <;> rfl
  · intro same
    cases category with
    | interfaces => contradiction
    | _ => exact same
  · cases category <;> rfl
  · cases category <;> rfl

theorem adds_class (name : String) (bases : List Expr) (body : List Statement) :
    Adds (.classDef name bases body) surface (addClass name bases body surface) := by
  have declares {category : Category} (kind : categoryOfBases bases = category) :
      declared (.classDef name bases body) = [name].map fun name => (category, name) := by
    simp [declared, kind]
  rw [addClass_eq]
  rcases categoryOfBases_cases bases with kind | kind | kind
  · rw [kind]
    exact adds_names _ _ (by decide) rfl (declares kind) rfl fun _ => by simp [membersOf?, kind]
  · rw [kind]
    exact {
      names category := by
        rw [namesIn_singleton (declares kind), ← Surface.namesOf_withNames]
        cases category <;> rfl
      imports := (List.append_nil _).symm
      heritage := rfl
      members other := by
        rw [Surface.members?, find?_setMembers]
        by_cases same : name = other
        · simp [membersOf?, kind, same]
        · simp [membersOf?, same, Surface.members?]
      interfaces same := by rw [map_fst_setMembers, same, unique_concat]
      reexports := rfl
      hasMarkup := rfl }
  · rw [kind]
    exact adds_names _ _ (by decide) rfl (declares kind) rfl fun _ => by simp [membersOf?, kind]

theorem adds_nothing {statement : Statement} (none : declared statement = [])
    (imports : importsOf statement = []) (heritage : heritageOf statement = [])
    (members : ∀ name, membersOf? name statement = Option.none) :
    Adds statement surface surface :=
  adds_names .variables [] (by decide)
    (by simp [Surface.withNames, heritage]) none imports members

/-- A statement that adds imports. -/
theorem adds_imports {statement : Statement} {next : Surface}
    (same : next = { surface with imports := surface.imports ++ importsOf statement })
    (none : declared statement = []) (heritage : heritageOf statement = [])
    (members : ∀ name, membersOf? name statement = Option.none) :
    Adds statement surface next := by
  obtain rfl := same
  exact {
    names category := by
      simp only [namesIn, List.flatMap_cons, none]
      cases category <;> exact (List.append_nil _).symm
    imports := rfl
    heritage := by simp [heritage]
    members name := by simp [members, Surface.members?]
    interfaces same := same
    reexports := rfl
    hasMarkup := rfl }

theorem targetNamesOf_eq (targets : List Expr) :
    targetNamesOf targets = plainNames (boundOf false targets) := by
  have recorded := plainNames_bound false (.tuple targets)
  simpa [bound, targetNames] using recorded.symm

theorem targetNames_eq (target : Expr) : targetNames target = plainNames (bound false target) :=
  (plainNames_bound false target).symm

/-- By cases on the statement; an assignment adds names unless it is a list of exports. -/
theorem adds_addStatement (statement : Statement) :
    Adds statement surface (addStatement surface statement) := by
  cases statement with
  | classDef name bases body => exact adds_class name bases body
  | functionDef name =>
      exact adds_names .functions [name] (by decide)
        (by simp [addStatement, Surface.withNames, heritageOf]) rfl rfl fun _ => rfl
  | importModules items => exact adds_imports rfl rfl rfl fun _ => rfl
  | importFrom level module items => exact adds_imports rfl rfl rfl fun _ => rfl
  | assign targets value =>
      simp only [addStatement, isSome_exportList?_iff]
      by_cases list : IsExportList (.assign targets value)
      · rw [if_pos list]
        exact adds_nothing (if_pos list) rfl rfl fun _ => rfl
      · rw [if_neg list, addNames, targetNamesOf_eq]
        exact adds_names .variables _ (by decide)
          (by simp [Surface.withNames, heritageOf]) (if_neg list) rfl fun _ => rfl
  | annotate target mark value =>
      simp only [addStatement, isSome_exportList?_iff]
      by_cases list : IsExportList (.annotate target mark value)
      · rw [if_pos list]
        exact adds_nothing (if_pos list) rfl rfl fun _ => rfl
      · rw [if_neg list, addNames, targetNames_eq]
        have category : categoryOfMark mark ≠ .interfaces := by
          unfold categoryOfMark
          split <;> decide
        refine adds_names _ _ category ?_ (if_neg list) rfl fun _ => rfl
        unfold categoryOfMark
        split <;> simp [Surface.withNames, heritageOf]
  | other => exact adds_nothing rfl rfl rfl fun _ => rfl

/-! ## The run -/

/-- A surface has what some statements add, one after the other. -/
structure Holds (surface : Surface) (statements : List Statement) : Prop where
  names : ∀ category, surface.namesOf category = namesIn category statements
  imports : surface.imports = statements.flatMap importsOf
  heritage : surface.heritage = statements.flatMap heritageOf
  /-- A later interface takes the place of an earlier one of the same name. -/
  members : ∀ name, surface.members? name = (statements.filterMap (membersOf? name)).getLast?
  interfaces : surface.interfaceMembers.map Prod.fst = unique surface.interfaces
  reexports : surface.reexports = []
  hasMarkup : surface.hasMarkup = false

theorem Holds.empty : Holds {} [] where
  names category := by cases category <;> rfl
  imports := rfl
  heritage := rfl
  members _ := rfl
  interfaces := rfl
  reexports := rfl
  hasMarkup := rfl

theorem Holds.concat {statement : Statement} {next : Surface} (h : Holds surface statements)
    (added : Adds statement surface next) : Holds next (statements ++ [statement]) where
  names category := by rw [added.names, h.names, namesIn_append]
  imports := by simp [added.imports, h.imports]
  heritage := by simp [added.heritage, h.heritage]
  members name := by
    rw [added.members, h.members, List.filterMap_append, List.getLast?_append]
    cases found : membersOf? name statement <;> simp [found]
  interfaces := added.interfaces h.interfaces
  reexports := added.reexports.trans h.reexports
  hasMarkup := added.hasMarkup.trans h.hasMarkup

theorem holds_foldl (statements : List Statement) :
    Holds (statements.foldl addStatement {}) statements := by
  induction statements using List.reverseRecOn with
  | nil => exact .empty
  | append_singleton statements statement ih =>
      rw [List.foldl_append]
      exact ih.concat (adds_addStatement statement)

/-! ## Exports -/

theorem exportLists_eq_nil (h : ∀ statement ∈ statements, ¬ IsExportList statement) :
    statements.filterMap exportList? = [] := by
  refine List.filterMap_eq_nil_iff.mpr fun statement member => ?_
  exact Option.not_isSome_iff_eq_none.mp (mt isSome_exportList?_iff.mp (h statement member))

/-- The last literal list is the one that counts. -/
theorem getLast?_exportLists {before after : List Statement} {statement : Statement}
    {items : List Expr} (lists : ListsExports statement items)
    (last : ∀ later ∈ after, ¬ IsExportList later) :
    ((before ++ statement :: after).filterMap exportList?).getLast? =
      some (literalTexts items) := by
  have found : exportList? statement = some (literalTexts items) :=
    exportList?_eq_some_iff.mpr ⟨items, lists, rfl⟩
  rw [List.filterMap_append, List.filterMap_cons_some found, exportLists_eq_nil last]
  exact List.getLast?_concat

/-- The declared names that do not start with an underscore, each once, category by
category. -/
def publicNamesIn (statements : List Statement) : List String :=
  unique (publicNames (Category.inOrder.flatMap fun category => namesIn category statements))

theorem exports_surfaceOf_of_list {before after : List Statement} {statement : Statement}
    {items : List Expr} (lists : ListsExports statement items)
    (last : ∀ later ∈ after, ¬ IsExportList later) :
    (surfaceOf (before ++ statement :: after)).exports = unique (literalTexts items) := by
  simp only [surfaceOf, Surface.withoutRepetitions, getLast?_exportLists lists last,
    Option.getD_some]

theorem exports_surfaceOf_of_none (h : ∀ statement ∈ statements, ¬ IsExportList statement) :
    (surfaceOf statements).exports = publicNamesIn statements := by
  have names : (statements.foldl addStatement {}).declarations =
      unique (Category.inOrder.flatMap fun category => namesIn category statements) := by
    rw [Surface.declarations_eq]
    congr 1
    exact List.flatMap_congr fun category _ => (holds_foldl statements).names category
  simp only [surfaceOf, Surface.withoutRepetitions, exportLists_eq_nil h, List.getLast?_nil,
    Option.getD_none, names, publicNames, ← unique_filter, unique_unique]
  rfl

/-! ## Surfaces -/

/-- A surface is what the statements of a module say, and nothing else. -/
structure IsExact (surface : Surface) (statements : List Statement) : Prop where
  /-- The last literal list gives the exports. -/
  listed : ∀ before statement after items, statements = before ++ statement :: after →
    ListsExports statement items → (∀ later ∈ after, ¬ IsExportList later) →
    surface.exports = unique (literalTexts items)
  unlisted : (∀ statement ∈ statements, ¬ IsExportList statement) →
    surface.exports = publicNamesIn statements
  names : ∀ category, surface.namesOf category = unique (namesIn category statements)
  imports : surface.imports = statements.flatMap importsOf
  heritage : surface.heritage = statements.flatMap heritageOf
  /-- A later interface takes the place of an earlier one of the same name. -/
  members : ∀ name, surface.members? name = (statements.filterMap (membersOf? name)).getLast?
  interfaces : surface.interfaceMembers.map Prod.fst = surface.interfaces
  reexports : surface.reexports = []
  hasMarkup : surface.hasMarkup = false

theorem isExact_surfaceOf (statements : List Statement) :
    IsExact (surfaceOf statements) statements := by
  have added := holds_foldl statements
  exact {
    listed before statement after items same lists last := by
      rw [same]
      exact exports_surfaceOf_of_list lists last
    unlisted := exports_surfaceOf_of_none
    names category := by
      rw [surfaceOf, Surface.namesOf_withoutRepetitions, ← added.names]
      cases category <;> rfl
    imports := added.imports
    heritage := added.heritage
    members := added.members
    interfaces := added.interfaces
    reexports := added.reexports
    hasMarkup := added.hasMarkup }

/-- One of the statements declares the name. -/
def Declares (statements : List Statement) (name : String) : Prop :=
  ∃ statement ∈ statements, ∃ category, (category, name) ∈ declared statement

theorem mem_namesIn {category : Category} {name : String} :
    name ∈ namesIn category statements ↔
      ∃ statement ∈ statements, (category, name) ∈ declared statement := by
  simp only [namesIn, List.mem_filterMap, List.mem_flatMap]
  constructor
  · rintro ⟨⟨found, other⟩, ⟨statement, member, declares⟩, same⟩
    split at same
    · rename_i kind
      cases same
      exact ⟨statement, member, kind ▸ declares⟩
    · contradiction
  · rintro ⟨statement, member, declares⟩
    exact ⟨_, ⟨statement, member, declares⟩, if_pos rfl⟩

theorem mem_publicNamesIn {name : String} :
    name ∈ publicNamesIn statements ↔
      Declares statements name ∧ name.startsWith "_" = false := by
  have every (category : Category) : category ∈ Category.inOrder := by
    cases category <;> decide
  rw [publicNamesIn, mem_unique, publicNames, List.mem_filter, List.mem_flatMap]
  simp only [mem_namesIn, Declares, Bool.not_eq_true']
  refine and_congr_left fun _ => ?_
  constructor
  · rintro ⟨category, -, statement, member, declares⟩
    exact ⟨statement, member, category, declares⟩
  · rintro ⟨statement, member, category, declares⟩
    exact ⟨category, every category, statement, member, declares⟩

/-- Two modules without a list of exports declare the same names, up to names that start
with an underscore. -/
structure AgreeInPublic (old new : List Statement) : Prop where
  unlisted : ∀ statement ∈ old ++ new, ¬ IsExportList statement
  names : ∀ name, name.startsWith "_" = false → (Declares old name ↔ Declares new name)

namespace AgreeInPublic

variable {old new : List Statement}

theorem exports_old (h : AgreeInPublic old new) : (surfaceOf old).exports = publicNamesIn old :=
  exports_surfaceOf_of_none fun statement member =>
    h.unlisted statement (List.mem_append_left _ member)

theorem exports_new (h : AgreeInPublic old new) : (surfaceOf new).exports = publicNamesIn new :=
  exports_surfaceOf_of_none fun statement member =>
    h.unlisted statement (List.mem_append_right _ member)

theorem mem_exports (h : AgreeInPublic old new) (name : String) :
    name ∈ (surfaceOf old).exports ↔ name ∈ (surfaceOf new).exports := by
  rw [h.exports_old, h.exports_new, mem_publicNamesIn, mem_publicNamesIn]
  exact and_congr_left (h.names name)

theorem perm_exports (h : AgreeInPublic old new) :
    (surfaceOf old).exports.Perm (surfaceOf new).exports :=
  (List.perm_ext_iff_of_nodup (surfaceOf_distinct old).exports
    (surfaceOf_distinct new).exports).mpr h.mem_exports

/-- Declared in the same order in every category, the public names are exported in the same
order. -/
theorem exports_eq (h : AgreeInPublic old new)
    (order : ∀ category, publicNames (namesIn category old) = publicNames (namesIn category new)) :
    (surfaceOf old).exports = (surfaceOf new).exports := by
  have spelled (statements : List Statement) : publicNamesIn statements =
      unique (Category.inOrder.flatMap fun category =>
        publicNames (namesIn category statements)) := by
    simp only [publicNamesIn, publicNames, List.filter_flatMap]
  rw [h.exports_old, h.exports_new, spelled, spelled]
  simp only [order]

theorem compareModified {change : Change} (h : AgreeInPublic old new)
    (before : change.oldSurface = .ok (surfaceOf old))
    (after : parseSource change.path change.newText = .ok (surfaceOf new)) :
    ∃ found, change.compareModified = .ok found ∧ ¬ Breaks found.deltas ∧
      found.impact ≠ .major := by
  obtain ⟨summary, compared⟩ := Change.compareModified_ok before after
  have kept : ¬ Breaks (change.deltasBetween (surfaceOf old) (surfaceOf new)) := by
    rw [Change.breaks_deltasBetween]
    rintro ⟨name, exported, gone⟩
    exact gone ((h.mem_exports name).mp exported)
  exact ⟨_, compared, kept, mt (Change.compareModified_agrees compared).mp kept⟩

end AgreeInPublic

/-- The surface of a module is what its statements say.  Without a list of exports, two
modules that differ in names with an underscore only export the same names, and comparing them
is not breaking. -/
theorem surfaceOf_exact (statements : List Statement) :
    IsExact (surfaceOf statements) statements ∧
      ∀ others, AgreeInPublic statements others →
        (surfaceOf statements).exports.Perm (surfaceOf others).exports ∧
        ((∀ category, publicNames (namesIn category statements) =
            publicNames (namesIn category others)) →
          (surfaceOf statements).exports = (surfaceOf others).exports) ∧
        ∀ change : Change, change.oldSurface = .ok (surfaceOf statements) →
          parseSource change.path change.newText = .ok (surfaceOf others) →
          ∃ found, change.compareModified = .ok found ∧ ¬ Breaks found.deltas ∧
            found.impact ≠ .major := by
  refine ⟨isExact_surfaceOf statements, fun others h => ?_⟩
  exact ⟨h.perm_exports, h.exports_eq, fun change before after => h.compareModified before after⟩

/-- A private variable is added to a public one. -/
theorem surfaceOf_exact_private :
    let old : List Statement := [.assign [.name "x"] (.constant (.number "1"))]
    let new := old ++ [.assign [.name "_y"] (.constant (.number "2"))]
    let change := Change.ofContents "a.py" .modified (some "x = 1\n") (some "x = 1\n_y = 2\n") none
    AgreeInPublic old new ∧
      (∀ category, publicNames (namesIn category old) = publicNames (namesIn category new)) ∧
      change.oldSurface = .ok (surfaceOf old) ∧
      parseSource change.path change.newText = .ok (surfaceOf new) ∧
      (surfaceOf old).exports = (surfaceOf new).exports ∧
      ∃ found, change.compareModified = .ok found ∧ ¬ Breaks found.deltas ∧
        found.impact ≠ .major := by
  intro old new change
  have agree : AgreeInPublic old new := by
    refine ⟨by decide +kernel, fun name plain => ?_⟩
    have other : name ≠ "_y" := by
      rintro rfl
      exact absurd plain (by decide +kernel)
    have added : declared (.assign [.name "_y"] (.constant (.number "2"))) =
        [(.variables, "_y")] := by decide +kernel
    simp [Declares, new, or_and_right, exists_or, added, other]
  have order : ∀ category,
      publicNames (namesIn category old) = publicNames (namesIn category new) := by
    intro category
    cases category <;> decide +kernel
  have before : change.oldSurface = .ok (surfaceOf old) := by decide +kernel
  have after : parseSource change.path change.newText = .ok (surfaceOf new) := by
    decide +kernel
  obtain ⟨-, exports, compared⟩ := (surfaceOf_exact old).2 new agree
  exact ⟨agree, order, before, after, exports order, compared change before after⟩

end Python

end CommitLens
