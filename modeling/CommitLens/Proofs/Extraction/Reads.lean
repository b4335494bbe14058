import CommitLens.Proofs.Git.Missing

/-!
# What an extraction reads

The contents of the listed files are read at their places, where a command is run for each
but a file of the working tree.  Main statement: behind its listing an extraction runs the
commands that show these contents, file by file, and no others; its changes are the files
all of whose contents could be read; and what becomes of one file is known from its own
contents.
-/

namespace CommitLens

variable {ε : Type} {repository : Repository} {range : ChangeRange} {world world' : World}

/-! ## One file -/

namespace ContentPlace

theorem contentBy_commands {arguments : List String} (path absent : String)
    (plain : repository.meetsNull arguments = false) :
    (repository.contentBy arguments path absent).commands world = [arguments] := by
  show (repository.output arguments).commands world = [arguments]
  rw [Repository.output_commands, if_neg (by simp [plain])]

theorem readSide_commands_eq {place? : Option ContentPlace}
    (plain : ∀ place, place? = some place → place.meetsNull repository = false) :
    (readSide repository place?).commands world = (place?.bind command?).toList := by
  cases place? with
  | none => rfl
  | some place =>
      rw [readSide, Session.commands_map]
      cases place with
      | revision name path => exact contentBy_commands _ _ (plain _ rfl)
      | index path => exact contentBy_commands _ _ (plain _ rfl)
      | workingTree path => exact repository.workingContent_commands path

end ContentPlace

namespace ListedChange

variable {entry : ListedChange}

/-- The commands for one file: the new content is asked for once the old one is known. -/
def readCommands (repository : Repository) (range : ChangeRange) (world : World)
    (entry : ListedChange) : List (List String) :=
  ((entry.oldPlace? range).bind ContentPlace.command?).toList ++
    if (ContentPlace.side? repository world (entry.oldPlace? range)).isSome then
      ((entry.newPlace? range).bind ContentPlace.command?).toList
    else []

/-- The change of a file all of whose contents can be read. -/
def change? (repository : Repository) (range : ChangeRange) (world : World)
    (entry : ListedChange) : Option Change := do
  let old ← ContentPlace.side? repository world (entry.oldPlace? range)
  let new ← ContentPlace.side? repository world (entry.newPlace? range)
  return Change.ofContents entry.path entry.kind old new entry.renamedFrom

/-- A file is loaded if its contents can be read, and then it has these contents. -/
theorem load_toOption (entry : ListedChange) :
    ((entry.load repository range).result world).toOption =
      entry.change? repository range world := by
  rw [load_eq_readSide, Session.result_bind]
  simp only [change?, ← ContentPlace.readSide_toOption, Session.result_bind]
  cases (ContentPlace.readSide repository (entry.oldPlace? range)).result world with
  | error error => rfl
  | ok old =>
      cases (ContentPlace.readSide repository (entry.newPlace? range)).result world <;> rfl

/-- Whether the second command is run is told by the content that the first one shows. -/
theorem load_commands_eq (whole : ¬entry.BreaksOff repository range world) :
    (entry.load repository range).commands world = entry.readCommands repository range world := by
  have old : ∀ place, entry.oldPlace? range = some place → place.meetsNull repository = false := by
    intro place asked
    rw [← Bool.not_eq_true]
    intro null
    exact whole (.old asked null)
  rw [load_eq_readSide, Session.commands_bind, ContentPlace.readSide_commands_eq old, readCommands,
    ← ContentPlace.readSide_toOption]
  cases before : (ContentPlace.readSide repository (entry.oldPlace? range)).result world with
  | error error => rfl
  | ok content =>
      have new : ∀ place, entry.newPlace? range = some place →
          place.meetsNull repository = false := by
        intro place asked
        rw [← Bool.not_eq_true]
        intro null
        exact whole (.new (ContentPlace.readSide_eq_ok_iff.mp before) asked null)
      dsimp only
      rw [Session.commands_bind, ContentPlace.readSide_commands_eq new]
      cases (ContentPlace.readSide repository (entry.newPlace? range)).result world <;>
        simp [Except.toOption]

theorem loads_iff {change : Change} :
    entry.Loads repository range world change ↔
      entry.change? repository range world = some change := by
  rw [← load_toOption, Loads]
  cases (entry.load repository range).result world <;> simp [Except.toOption]

theorem FailsToLoad.change?_eq_none {failure : FileFailure}
    (h : entry.FailsToLoad repository range world failure) :
    entry.change? repository range world = none ∧ failure.path = entry.path := by
  obtain ⟨path, reason, failed, rfl⟩ := h
  exact ⟨by rw [← load_toOption, failed]; rfl, rfl⟩

/-- Two worlds in which the same can be read of a file. -/
def SameContents (repository : Repository) (range : ChangeRange) (world world' : World)
    (entry : ListedChange) : Prop :=
  ∀ place ∈ entry.places range,
    place.content? repository world = place.content? repository world'

theorem SameContents.change?_eq (h : entry.SameContents repository range world world') :
    entry.change? repository range world = entry.change? repository range world' := by
  have same : ∀ place? : Option ContentPlace,
      (∀ place ∈ place?.toList, place ∈ entry.places range) →
      ContentPlace.side? repository world place? = ContentPlace.side? repository world' place? := by
    intro place? inside
    cases place? with
    | none => rfl
    | some place => exact congrArg (Option.map some) (h place (inside place (by simp)))
  have old := same (entry.oldPlace? range) fun _ => List.mem_append_left _
  have new := same (entry.newPlace? range) fun _ => List.mem_append_right _
  simp only [change?, old, new]

end ListedChange

/-! ## Listings -/

/-- The commands before the files are listed. -/
def ChangeRange.checks : ChangeRange → List (List String)
  | revisions base head => [["rev-parse", "--is-inside-work-tree"], verify base, verify head]
  | workingTree base | staged base => [["rev-parse", "--is-inside-work-tree"], verify base]
where
  verify (revision : String) : List String :=
    ["rev-parse", "--verify", "--quiet", revision ++ "^\x7bcommit\x7d"]

namespace Repository

section Answered

variable {α : Type} {arguments : List String}

/-- A question that is answered was put. -/
theorem run_bind_commands_of_ok {f : Int × String × String → Session QuestionError α} {answer : α}
    (silent : ∀ found, (f found).commands world = [])
    (h : Session.result (repository.run arguments >>= f) world = .ok answer) :
    Session.commands (repository.run arguments >>= f) world = [arguments] := by
  obtain ⟨found, ran, _⟩ := Session.result_bind_eq_ok_iff.mp h
  rw [Session.commands_bind_of_ok ran, silent, List.append_nil, run_commands, if_neg]
  intro null
  exact nomatch ran.symm.trans (run_eq_nullCharacter_iff.mpr null)

theorem output_commands_of_ok {output : String}
    (h : (repository.output arguments).result world = .ok output) :
    (repository.output arguments).commands world = [arguments] := by
  apply run_bind_commands_of_ok _ h
  intro ⟨code, output, errors⟩
  dsimp only
  split <;> rfl

theorem read_output_commands_of_ok {read : String → List ListedChange}
    {listed : List ListedChange}
    (h : Session.result (do return read (← repository.output arguments)) world = .ok listed) :
    Session.commands (do return read (← repository.output arguments)) world = [arguments] := by
  obtain ⟨output, shown, _⟩ := Session.result_bind_eq_ok_iff.mp h
  rw [Session.commands_bind_of_ok shown, output_commands_of_ok shown]
  rfl

end Answered

theorem ensure_commands_of_ok (h : repository.ensure.result world = .ok ()) :
    repository.ensure.commands world = [["rev-parse", "--is-inside-work-tree"]] := by
  apply run_bind_commands_of_ok _ h
  intro ⟨code, output, _⟩
  dsimp only
  split <;> rfl

theorem verify_commands_of_ok {revision : String}
    (h : (repository.verify revision).result world = .ok ()) :
    (repository.verify revision).commands world = [ChangeRange.checks.verify revision] := by
  apply run_bind_commands_of_ok _ h
  intro ⟨code, _, _⟩
  dsimp only
  split <;> rfl

/-- A listing that succeeds has made all its checks. -/
theorem list_commands_of_ok {listed : List ListedChange}
    (h : (repository.list range).result world = .ok listed) :
    (repository.list range).commands world = range.checks ++ [range.listing] := by
  obtain ⟨_, ensured, h⟩ := Session.result_bind_eq_ok_iff.mp h
  obtain ⟨_, verified, h⟩ := Session.result_bind_eq_ok_iff.mp h
  unfold list
  rw [Session.commands_bind_of_ok ensured, ensure_commands_of_ok ensured,
    Session.commands_bind_of_ok verified, verify_commands_of_ok verified]
  cases range with
  | workingTree base =>
      dsimp only [states]
      rw [read_output_commands_of_ok h]
      rfl
  | staged base =>
      dsimp only [stagedDifferences]
      rw [read_output_commands_of_ok h]
      rfl
  | revisions base head =>
      obtain ⟨_, verified, h⟩ := Session.result_bind_eq_ok_iff.mp h
      dsimp only [differences]
      rw [Session.commands_bind_of_ok verified, verify_commands_of_ok verified,
        read_output_commands_of_ok h]
      rfl

end Repository

/-! ## Extractions -/

namespace Divided

variable {α β γ : Type} {kept : α → β → Prop} {lost : α → γ → Prop}
  {as : List α} {bs : List β} {cs : List γ}

/-- What is kept is a function of the items. -/
theorem eq_filterMap {f : α → Option β} (h : Divided kept lost as bs cs)
    (hk : ∀ a b, kept a b → f a = some b) (hl : ∀ a c, lost a c → f a = none) :
    bs = as.filterMap f := by
  induction h with
  | nil => rfl
  | keep hb _ ih => rw [List.filterMap_cons_some (hk _ _ hb), ih]
  | lose hc _ ih => rw [List.filterMap_cons_none (hl _ _ hc), ih]

/-- And so is what is left of the others. -/
theorem map_lost {δ : Type} {f : α → Option β} {g : γ → δ} {key : α → δ}
    (h : Divided kept lost as bs cs) (hk : ∀ a b, kept a b → f a = some b)
    (hl : ∀ a c, lost a c → f a = none ∧ g c = key a) :
    cs.map g = (as.filter fun a => (f a).isNone).map key := by
  induction h with
  | nil => rfl
  | keep hb _ ih => rw [List.filter_cons_of_neg (by simp [hk _ _ hb]), ih]
  | lose hc _ ih =>
      obtain ⟨none, same⟩ := hl _ _ hc
      rw [List.filter_cons_of_pos (by simp [none]), List.map_cons, List.map_cons, ih, same]

end Divided

/-- The files of a listing that the filter accepts. -/
def acceptedEntries (filter? : Option PathFilter) (listed : List ListedChange) :
    List ListedChange :=
  listed.filter fun entry => filter?.all fun filter => filter.accepts entry.path

/-- What an extraction does with the files that are listed and accepted: the commands that it
runs, the changes that it returns and the record that it leaves. -/
structure ReadsExactly (repository : Repository) (range : ChangeRange) (world : World)
    (entries : List ListedChange) (commands : List (List String)) (changes : List Change)
    (record : ExtractionRecord) : Prop where
  /-- Behind the listing, the files are read one after the other. -/
  issued : commands = range.checks ++ range.listing ::
    entries.flatMap (ListedChange.readCommands repository range world)
  returned : changes = entries.filterMap (ListedChange.change? repository range world)
  /-- The other files are set aside. -/
  setAside : record.failures.map (·.path) =
    (entries.filter fun entry => (entry.change? repository range world).isNone).map (·.path)
  counted : record.detected = entries.length
  /-- In another world, other files may be there or not; a file with the same contents in
  both worlds gives the same change in both, or none. -/
  isolated : ∀ (other : World) (before after : List ListedChange) (entry : ListedChange),
    entries = before ++ entry :: after → entry.SameContents repository range world other →
      ∃ part : Option Change,
        changes = before.filterMap (ListedChange.change? repository range world) ++ part.toList ++
          after.filterMap (ListedChange.change? repository range world) ∧
        entries.filterMap (ListedChange.change? repository range other) =
          before.filterMap (ListedChange.change? repository range other) ++ part.toList ++
            after.filterMap (ListedChange.change? repository range other)

theorem filterMap_append_cons {α β : Type} (f : α → Option β) (before after : List α) (a : α) :
    (before ++ a :: after).filterMap f =
      before.filterMap f ++ (f a).toList ++ after.filterMap f := by
  cases h : f a <;> simp [h]

/-- An extraction that comes to changes has read what its files need, and nothing else. -/
theorem extractChanges_readsExactly {filter? : Option PathFilter} {record after : ExtractionRecord}
    {changes : List Change}
    (h : (extractChanges repository filter? range record : Session ε _).result world =
      .ok (.ok changes, after)) :
    ∃ listed, (repository.list range).result world = .ok listed ∧
      ReadsExactly repository range world (acceptedEntries filter? listed)
        ((extractChanges repository filter? range record : Session ε _).commands world)
        changes after := by
  cases hl : (repository.list range).result world with
  | error error =>
      rw [extractChanges_of_error hl] at h
      exact nomatch h
  | ok listed =>
      obtain ⟨found, failures, hr, loading⟩ := extractChanges_of_listed (ε := ε) filter? record hl
      rw [hr] at h
      cases h
      have divided := loading.divided
      have kept : ∀ (entry : ListedChange) (change : Change),
          entry.Loads repository range world change →
            entry.change? repository range world = some change := fun _ _ =>
        ListedChange.loads_iff.mp
      have lost : ∀ (entry : ListedChange) (failure : FileFailure),
          entry.FailsToLoad repository range world failure →
            entry.change? repository range world = none ∧ failure.path = entry.path := fun _ _ =>
        ListedChange.FailsToLoad.change?_eq_none
      have same : changes = (acceptedEntries filter? listed).filterMap
          (ListedChange.change? repository range world) :=
        divided.eq_filterMap kept fun entry failure hf => (lost entry failure hf).1
      refine ⟨listed, rfl, ?_, same, divided.map_lost kept lost, rfl, ?_⟩
      · rw [extractChanges_commands, Repository.list_commands_of_ok hl, hl]
        dsimp only
        rw [loadChanges_commands_of_divided divided, List.append_assoc]
        -- No file breaks off, as all of them are changes or failures.
        exact congrArg _ (congrArg _ (List.flatMap_congr fun entry member =>
          ListedChange.load_commands_eq (loading.not_breaksOff entry member)))
      · intro other before after entry cut contents
        -- The part of one file is what its own contents give, in either world.
        refine ⟨entry.change? repository range world, ?_, ?_⟩
        · rw [same, cut, filterMap_append_cons]
        · rw [cut, filterMap_append_cons, contents.change?_eq]

/-- A file is read where it was before it was renamed, one of a new file and a deleted file
has one content, a binary file none, and one file is left out; the file whose old content is
lost is not asked for its new one. -/
theorem extractChanges_readsExactly_mixed :
    let repository : Repository := ⟨"/work"⟩
    let range := ChangeRange.revisions "one" "two"
    let filter? : Option PathFilter := some ⟨[], ["left.py"]⟩
    let world : World :=
      { command := fun
          | ["rev-parse", "--is-inside-work-tree"] => .finished 0 "true\n" ""
          | ["diff", "--name-status", "-M", "one", "two"] => .finished 0
              ("R090\told.py\tnew.py\nM\tlost.py\nA\tadded.py\nD\tgone.py\n" ++
                "M\tleft.py\nM\timage.png\n") ""
          | ["show", "one:lost.py"] => .finished 128 "" "fatal: bad object\n"
          | ["show", "one:old.py"] => .finished 0 "x = 0\n" ""
          | _ => .finished 0 "x = 1\n" ""
        files := {}
        directory := "/work" }
    let session : Session Unit _ := extractChanges repository filter? range {}
    let changes := [Change.ofContents "new.py" .renamed (some "x = 0\n") (some "x = 1\n")
        (some "old.py"),
      Change.ofContents "added.py" .added none (some "x = 1\n"),
      Change.ofContents "gone.py" .deleted (some "x = 1\n") none,
      Change.ofContents "image.png" .modified none none]
    let record := ExtractionRecord.mk [⟨"lost.py", "extraction", "fatal: bad object"⟩] 5
    session.result world = .ok (.ok changes, record) ∧
      session.commands world =
        [["rev-parse", "--is-inside-work-tree"],
          ["rev-parse", "--verify", "--quiet", "one^\x7bcommit\x7d"],
          ["rev-parse", "--verify", "--quiet", "two^\x7bcommit\x7d"],
          ["diff", "--name-status", "-M", "one", "two"],
          ["show", "one:old.py"], ["show", "two:new.py"], ["show", "one:lost.py"],
          ["show", "two:added.py"], ["show", "one:gone.py"]] ∧
      ∃ listed, (repository.list range).result world = .ok listed ∧
        ReadsExactly repository range world (acceptedEntries filter? listed)
          (session.commands world) changes record := by
  intro repository range filter? world session changes record
  have h : session.result world = .ok (.ok changes, record) := by decide +kernel
  exact ⟨h, by decide +kernel, extractChanges_readsExactly h⟩

end CommitLens
