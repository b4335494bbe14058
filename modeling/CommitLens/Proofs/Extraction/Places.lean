import CommitLens.Extraction
import CommitLens.Proofs.Git.Repository

/-!
# Places of contents

Each side of a listed file has a place where its content is read, unless the file is
binary or the side is not there.  What is read at a place, and whether a null character
stands in the way, is the same for both sides; a file is loaded side by side.
-/

namespace CommitLens

/-- Where the content of one side of a file is read. -/
inductive ContentPlace where
  | revision (name path : String)
  | index (path : String)
  | workingTree (path : String)

variable {repository : Repository} {range : ChangeRange} {world : World}

namespace ContentPlace

/-- The command that shows the content; a file of the working tree needs none. -/
def command? : ContentPlace → Option (List String)
  | revision name path => some ["show", name ++ ":" ++ path]
  | index path => some ["show", ":" ++ path]
  | workingTree _ => none

/-- Is there a null character in the question for the content? -/
def meetsNull (repository : Repository) : ContentPlace → Bool
  | revision name path => repository.meetsNull ["show", name ++ ":" ++ path]
  | index path => repository.meetsNull ["show", ":" ++ path]
  | workingTree path => Text.hasNull (Path.below repository.root path)

/-- The output of a command that succeeds. -/
def shown? (world : World) (arguments : List String) : Option String :=
  match world.command arguments with
  | .finished code output _ => if code = 0 then some output else none
  | .notStarted _ => none

/-- The content, if it can be read. -/
def content? (repository : Repository) (world : World) (place : ContentPlace) : Option String :=
  if place.meetsNull repository then none
  else match place with
    | revision name path => shown? world ["show", name ++ ":" ++ path]
    | index path => shown? world ["show", ":" ++ path]
    | workingTree path => (world.readText (Path.below repository.root path)).toOption

/-- A side that is not there has no content, which is no failure. -/
def side? (repository : Repository) (world : World) : Option ContentPlace → Option (Option String)
  | none => some none
  | some place => (place.content? repository world).map some

/-! ## Reading at a place -/

def read (repository : Repository) : ContentPlace → Session ContentError String
  | revision name path => repository.contentAt name path
  | index path => repository.stagedContent path
  | workingTree path => repository.workingContent path

def readSide (repository : Repository) :
    Option ContentPlace → Session ContentError (Option String)
  | none => pure none
  | some place => some <$> place.read repository

theorem contentBy_toOption (arguments : List String) (path absent : String) :
    ((repository.contentBy arguments path absent).result world).toOption =
      if repository.meetsNull arguments then none else shown? world arguments := by
  unfold Repository.contentBy shown?
  rw [Session.result_mapError, Repository.output_result]
  split
  · rfl
  · cases world.command arguments with
    | finished code output errors =>
        dsimp only
        split <;> rfl
    | notStarted reason => rfl

theorem workingContent_toOption (path : String) :
    ((repository.workingContent path).result world).toOption =
      (workingTree path).content? repository world := by
  unfold Repository.workingContent content? meetsNull
  dsimp only
  split
  · rfl
  · rw [Session.result_bind_of_ok Session.result_world]
    cases world.readText (Path.below repository.root path) <;> rfl

theorem read_toOption (place : ContentPlace) :
    ((place.read repository).result world).toOption = place.content? repository world := by
  cases place with
  | revision name path => exact contentBy_toOption ["show", name ++ ":" ++ path] path _
  | index path => exact contentBy_toOption ["show", ":" ++ path] path _
  | workingTree path => exact workingContent_toOption path

theorem contentBy_eq_nullCharacter_iff {arguments : List String} {path absent : String} :
    (repository.contentBy arguments path absent).result world = .error .nullCharacter ↔
      repository.meetsNull arguments = true := by
  unfold Repository.contentBy
  rw [Session.result_mapError, Repository.output_result]
  split
  · rename_i null
    exact ⟨fun _ => null, fun _ => rfl⟩
  · rename_i plain
    apply iff_of_false _ plain
    cases world.command arguments with
    | finished code output errors =>
        dsimp only
        split <;> exact nofun
    | notStarted reason => exact nofun

theorem workingContent_eq_nullCharacter_iff {path : String} :
    (repository.workingContent path).result world = .error .nullCharacter ↔
      Text.hasNull (Path.below repository.root path) = true := by
  unfold Repository.workingContent
  dsimp only
  split
  · rename_i null
    exact ⟨fun _ => null, fun _ => rfl⟩
  · rename_i plain
    apply iff_of_false _ plain
    rw [Session.result_bind_of_ok Session.result_world]
    cases world.readText (Path.below repository.root path) <;> exact nofun

/-- Nothing but a null character in the question breaks the reading off. -/
theorem read_eq_nullCharacter_iff {place : ContentPlace} :
    (place.read repository).result world = .error .nullCharacter ↔
      place.meetsNull repository = true := by
  cases place with
  | revision name path => exact contentBy_eq_nullCharacter_iff
  | index path => exact contentBy_eq_nullCharacter_iff
  | workingTree path => exact workingContent_eq_nullCharacter_iff

theorem readSide_toOption (place? : Option ContentPlace) :
    ((readSide repository place?).result world).toOption = side? repository world place? := by
  cases place? with
  | none => rfl
  | some place =>
      show (Session.result (place.read repository >>= fun content => pure (some content))
        world).toOption = (place.content? repository world).map some
      rw [← read_toOption, Session.result_bind]
      cases (place.read repository).result world <;> rfl

theorem readSide_eq_ok_iff {place? : Option ContentPlace} {content : Option String} :
    (readSide repository place?).result world = .ok content ↔
      side? repository world place? = some content := by
  rw [← readSide_toOption]
  cases (readSide repository place?).result world <;> simp [Except.toOption]

theorem readSide_eq_nullCharacter_iff {place? : Option ContentPlace} :
    (readSide repository place?).result world = .error .nullCharacter ↔
      ∃ place, place? = some place ∧ place.meetsNull repository = true := by
  cases place? with
  | none => exact ⟨nofun, nofun⟩
  | some place =>
      apply Session.result_map_eq_error_iff.trans
      rw [read_eq_nullCharacter_iff]
      simp

end ContentPlace

/-! ## The places of a file -/

/-- Where a range has the content of a file behind its changes. -/
def ChangeRange.newPlace (path : String) : ChangeRange → ContentPlace
  | revisions _ head => .revision head path
  | workingTree _ => .workingTree path
  | staged _ => .index path

namespace ListedChange

/-- The path that a file had before; only a renamed one had another. -/
def pathBefore (entry : ListedChange) : String :=
  if entry.kind == .renamed then (present? entry.previousPath).getD entry.path else entry.path

def oldPlace? (range : ChangeRange) (entry : ListedChange) : Option ContentPlace :=
  if Path.isBinary entry.path || entry.kind == .added then none
  else some (.revision range.base entry.pathBefore)

def newPlace? (range : ChangeRange) (entry : ListedChange) : Option ContentPlace :=
  if Path.isBinary entry.path || entry.kind == .deleted then none
  else some (range.newPlace entry.path)

def places (range : ChangeRange) (entry : ListedChange) : List ContentPlace :=
  (entry.oldPlace? range).toList ++ (entry.newPlace? range).toList

/-- The content before the change; a file that is added had none. -/
def oldContent (repository : Repository) (range : ChangeRange) (entry : ListedChange) :
    Session ContentError (Option String) :=
  if entry.kind == .added then pure none
  else some <$> repository.contentAt range.base ((present? entry.renamedFrom).getD entry.path)

/-- The content after the change; a file that is deleted has none. -/
def newContent (repository : Repository) (range : ChangeRange) (entry : ListedChange) :
    Session ContentError (Option String) :=
  if entry.kind == .deleted then pure none
  else some <$> repository.newContent range entry.path

theorem load_eq (entry : ListedChange) :
    entry.load repository range =
      if Path.isBinary entry.path then
        pure (Change.ofContents entry.path entry.kind none none entry.renamedFrom)
      else do
        let old ← entry.oldContent repository range
        let new ← entry.newContent repository range
        return Change.ofContents entry.path entry.kind old new entry.renamedFrom := by
  unfold load oldContent newContent
  by_cases ha : (entry.kind == .added) = true <;>
    by_cases hd : (entry.kind == .deleted) = true <;>
    simp only [ha, hd, if_true, if_false, Bool.false_eq_true]

theorem getD_present?_renamedFrom (entry : ListedChange) :
    (present? entry.renamedFrom).getD entry.path = entry.pathBefore := by
  unfold renamedFrom pathBefore
  split <;> rfl

theorem oldContent_eq {entry : ListedChange} (text : Path.isBinary entry.path = false) :
    entry.oldContent repository range =
      ContentPlace.readSide repository (entry.oldPlace? range) := by
  unfold oldContent oldPlace?
  rw [text, Bool.false_or]
  split
  · rfl
  · rw [getD_present?_renamedFrom]
    rfl

theorem newContent_eq {entry : ListedChange} (text : Path.isBinary entry.path = false) :
    entry.newContent repository range =
      ContentPlace.readSide repository (entry.newPlace? range) := by
  unfold newContent newPlace?
  rw [text, Bool.false_or]
  split
  · rfl
  · cases range <;> rfl

theorem places?_of_binary {entry : ListedChange} (range : ChangeRange)
    (binary : Path.isBinary entry.path = true) :
    entry.oldPlace? range = none ∧ entry.newPlace? range = none := by
  simp [oldPlace?, newPlace?, binary]

/-- The sides of a file are read one after the other; a binary file has none. -/
theorem load_eq_readSide (entry : ListedChange) :
    entry.load repository range = do
      let old ← ContentPlace.readSide repository (entry.oldPlace? range)
      let new ← ContentPlace.readSide repository (entry.newPlace? range)
      return Change.ofContents entry.path entry.kind old new entry.renamedFrom := by
  rw [load_eq]
  cases hb : Path.isBinary entry.path with
  | true =>
      obtain ⟨old, new⟩ := places?_of_binary range hb
      rw [old, new]
      rfl
  | false => rw [if_neg (by simp), oldContent_eq hb, newContent_eq hb]

/-- A null character stands in the question for a content, and the file is read as far as
there. -/
inductive BreaksOff (repository : Repository) (range : ChangeRange) (world : World)
    (entry : ListedChange) : Prop
  | old {place : ContentPlace} (asked : entry.oldPlace? range = some place)
      (null : place.meetsNull repository = true)
  | new {place : ContentPlace} {content : Option String}
      (before : ContentPlace.side? repository world (entry.oldPlace? range) = some content)
      (asked : entry.newPlace? range = some place) (null : place.meetsNull repository = true)

/-- Nothing breaks off a file whose places are free of null characters. -/
theorem not_breaksOff_of_places {entry : ListedChange}
    (plain : ∀ place ∈ entry.places range, place.meetsNull repository = false) :
    ¬entry.BreaksOff repository range world := by
  intro breaks
  cases breaks with
  | @old place asked null =>
      have inside : place ∈ entry.places range := by simp [places, asked]
      simp [plain place inside] at null
  | @new place content before asked null =>
      have inside : place ∈ entry.places range := by simp [places, asked]
      simp [plain place inside] at null

theorem load_eq_nullCharacter_iff {entry : ListedChange} :
    (entry.load repository range).result world = .error .nullCharacter ↔
      entry.BreaksOff repository range world := by
  rw [load_eq_readSide, Session.result_bind_eq_error_iff,
    ContentPlace.readSide_eq_nullCharacter_iff]
  constructor
  · rintro (⟨place, asked, null⟩ | ⟨content, before, h⟩)
    · exact .old asked null
    · rcases Session.result_bind_eq_error_iff.mp h with h | ⟨_, _, h⟩
      · obtain ⟨place, asked, null⟩ := ContentPlace.readSide_eq_nullCharacter_iff.mp h
        exact .new (ContentPlace.readSide_eq_ok_iff.mp before) asked null
      · exact nomatch h
  · intro breaks
    cases breaks with
    | old asked null => exact .inl ⟨_, asked, null⟩
    | @new place content before asked null =>
        have h : (ContentPlace.readSide repository (entry.newPlace? range)).result world =
            .error .nullCharacter :=
          ContentPlace.readSide_eq_nullCharacter_iff.mpr ⟨place, asked, null⟩
        exact .inr ⟨content, ContentPlace.readSide_eq_ok_iff.mpr before,
          Session.result_bind_eq_error_iff.mpr (.inl h)⟩

end ListedChange

end CommitLens
