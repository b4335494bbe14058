import CommitLens.Proofs.Extraction
import Mathlib.Data.List.Forall2

/-!
# Commands that cannot be started

Where Git or the directory of the repository is missing, no command can be started.
Main statement: such a command ends an extraction with a `RepositoryFault` if it
checks the repository or lists its files; if it is to show the content of a file, it
only costs the extraction this file.
-/

namespace CommitLens

variable {ε : Type} {repository : Repository} {range : ChangeRange} {world : World}

/-- Does a command show the content of a file? -/
def showsContent (arguments : List String) : Bool :=
  arguments.head? == some "show"

namespace Repository

/-- The error says that Git cannot be run. -/
def TellsFault (repository : Repository) (reason : String) (error : QuestionError) : Prop :=
  error = .git (.repository (.cannotRun repository.root reason))

/-- The content of a file is unknown because Git cannot be run. -/
def TellsContent (repository : Repository) (reason : String) (error : ContentError) : Prop :=
  ∃ path, error = .unreadable path (RepositoryFault.cannotRun repository.root reason).message

/-! ## Checks and listings -/

theorem run_commands (arguments : List String) :
    (repository.run arguments).commands world =
      if repository.meetsNull arguments then [] else [arguments] := by
  unfold run
  split
  · rfl
  · rw [Session.commands_bind_of_ok (a := world.command arguments) rfl]
    cases world.command arguments <;> rfl

theorem output_commands (arguments : List String) :
    (repository.output arguments).commands world =
      if repository.meetsNull arguments then [] else [arguments] := by
  unfold output
  rw [Session.commands_bind, run_commands]
  cases (repository.run arguments).result world with
  | error error => exact List.append_nil _
  | ok found =>
      dsimp only
      split <;> split <;> rfl

/-- No other command is run. -/
theorem eq_of_mem_output_commands {arguments issued : List String}
    (h : issued ∈ (repository.output arguments).commands world) : issued = arguments := by
  rw [output_commands] at h
  split at h
  · cases h
  · exact List.mem_singleton.mp h

theorem run_heeds (arguments : List String) :
    (repository.run arguments).Heeds repository.TellsFault world := by
  intro issued member reason missing
  rw [run_commands] at member
  split at member
  · cases member
  · rename_i plain
    obtain rfl := List.mem_singleton.mp member
    exact ⟨_, by rw [run_result, if_neg plain, missing], rfl⟩

theorem output_heeds (arguments : List String) :
    (repository.output arguments).Heeds repository.TellsFault world := by
  refine .bind (run_heeds arguments) fun found => .of_commands_eq_nil ?_
  dsimp only
  split <;> rfl

theorem ensure_heeds : repository.ensure.Heeds repository.TellsFault world := by
  refine .bind (run_heeds _) fun found => .of_commands_eq_nil ?_
  dsimp only
  split <;> rfl

theorem verify_heeds (revision : String) :
    (repository.verify revision).Heeds repository.TellsFault world := by
  refine .bind (run_heeds _) fun found => .of_commands_eq_nil ?_
  dsimp only
  split <;> rfl

theorem list_heeds : (repository.list range).Heeds repository.TellsFault world := by
  have listed (read : String → List ListedChange) (arguments : List String) :
      Session.Heeds repository.TellsFault (do return read (← repository.output arguments)) world :=
    .bind (output_heeds arguments) fun _ => .of_commands_eq_nil rfl
  refine .bind ensure_heeds fun _ => .bind (verify_heeds range.base) fun _ => ?_
  cases range with
  | revisions base head => exact .bind (verify_heeds head) fun _ => listed _ _
  | workingTree base => exact listed _ _
  | staged base => exact listed _ _

theorem list_commands :
    ∀ arguments ∈ (repository.list range).commands world, showsContent arguments = false := by
  have ran {arguments : List String} (h : showsContent arguments = false) :
      ∀ issued ∈ (repository.run arguments).commands world, showsContent issued = false := by
    intro issued member
    rw [run_commands] at member
    split at member
    · cases member
    · rwa [List.mem_singleton.mp member]
  have listed (read : String → List ListedChange) {arguments : List String}
      (h : showsContent arguments = false) :
      ∀ issued ∈ Session.commands (do return read (← repository.output arguments)) world,
        showsContent issued = false := by
    refine Session.forall_commands_bind (fun issued member => ?_) fun _ => by simp
    rwa [eq_of_mem_output_commands member]
  have verified (revision : String) : ∀ issued ∈ (repository.verify revision).commands world,
      showsContent issued = false := by
    refine Session.forall_commands_bind (ran rfl) fun found => ?_
    dsimp only
    split <;> simp
  refine Session.forall_commands_bind (Session.forall_commands_bind (ran rfl) fun found => ?_)
    fun _ => Session.forall_commands_bind (verified _) fun _ => ?_
  · dsimp only
    split <;> simp
  · cases range with
    | revisions base head => exact Session.forall_commands_bind (verified head) fun _ => listed _ rfl
    | workingTree base => exact listed _ rfl
    | staged base => exact listed _ rfl

/-! ## Contents -/

theorem isEmpty_message (root reason : String) :
    (RepositoryFault.cannotRun root reason).message.isEmpty = false := by
  rw [Bool.eq_false_iff, ne_eq, String.isEmpty_iff]
  unfold RepositoryFault.message
  simp

theorem contentBy_heeds (arguments : List String) (path absent : String) :
    (repository.contentBy arguments path absent).Heeds repository.TellsContent world := by
  refine .mapError (output_heeds arguments) ?_
  rintro reason _ rfl
  have spoken := isEmpty_message repository.root reason
  have told : (GitError.repository (.cannotRun repository.root reason)).message =
      (RepositoryFault.cannotRun repository.root reason).message := by
    rw [GitError.message]
  refine ⟨path, ?_⟩
  dsimp only
  rw [told, if_neg (by simp [spoken])]

theorem workingContent_commands (path : String) :
    (repository.workingContent path).commands world = [] := by
  unfold workingContent
  dsimp only
  split
  · rfl
  · rw [Session.commands_bind_of_ok Session.result_world]
    cases world.readText (Path.below repository.root path) <;> simp

end Repository

namespace ContentPlace

theorem read_heeds (place : ContentPlace) :
    (place.read repository).Heeds repository.TellsContent world := by
  cases place with
  | revision name path => exact repository.contentBy_heeds _ _ _
  | index path => exact repository.contentBy_heeds _ _ _
  | workingTree path => exact .of_commands_eq_nil (repository.workingContent_commands path)

theorem readSide_heeds (place? : Option ContentPlace) :
    (readSide repository place?).Heeds repository.TellsContent world := by
  cases place? with
  | none => exact .of_commands_eq_nil rfl
  | some place => exact place.read_heeds.map some

theorem readSide_commands (place? : Option ContentPlace) :
    ∀ arguments ∈ (readSide repository place?).commands world, showsContent arguments := by
  intro arguments member
  cases place? with
  | none => cases member
  | some place =>
      rw [readSide, Session.commands_map] at member
      cases place with
      | revision name path =>
          rw [Repository.eq_of_mem_output_commands member]
          rfl
      | index path =>
          rw [Repository.eq_of_mem_output_commands member]
          rfl
      | workingTree path =>
          rw [read, Repository.workingContent_commands] at member
          cases member

end ContentPlace

namespace ListedChange

theorem load_heeds (entry : ListedChange) :
    (entry.load repository range).Heeds repository.TellsContent world := by
  rw [load_eq_readSide]
  apply Session.Heeds.bind (ContentPlace.readSide_heeds _)
  intro old
  apply Session.Heeds.bind (ContentPlace.readSide_heeds _)
  intro new
  exact .of_commands_eq_nil rfl

theorem load_commands (entry : ListedChange) :
    ∀ arguments ∈ (entry.load repository range).commands world, showsContent arguments := by
  rw [load_eq_readSide]
  apply Session.forall_commands_bind (ContentPlace.readSide_commands _)
  intro old
  apply Session.forall_commands_bind (ContentPlace.readSide_commands _)
  intro new
  exact nofun

end ListedChange

/-! ## Extractions -/

/-- Behind files that are loaded or fail, the next ones have their turn. -/
theorem loadChanges_commands_append {before : List ListedChange} {changes : List Change}
    {failures : List FileFailure}
    (divided : Divided (ListedChange.Loads repository range world)
      (ListedChange.FailsToLoad repository range world) before changes failures)
    (rest : List ListedChange) :
    (loadChanges repository range (before ++ rest) : Session ε _).commands world =
      (before.flatMap fun entry => (entry.load repository range).commands world) ++
        (loadChanges repository range rest : Session ε _).commands world := by
  induction divided with
  | nil => rfl
  | @keep entry change before changes failures loads _ ih =>
      obtain ⟨found, lost, hr, _⟩ :=
        loadChanges_ends (ε := ε) repository range world (before ++ rest)
      have hl : (entry.load repository range).result world = .ok change := loads
      rw [List.cons_append, loadChanges, Session.commands_bind_of_ok (Session.result_attempt _),
        Session.commands_attempt, hl, List.flatMap_cons, List.append_assoc, ← ih]
      dsimp only
      rw [Session.commands_bind_of_ok hr]
      simp
  | @lose entry failure before changes failures fails _ ih =>
      obtain ⟨found, lost, hr, _⟩ :=
        loadChanges_ends (ε := ε) repository range world (before ++ rest)
      obtain ⟨path, reason, hl, _⟩ := fails
      rw [List.cons_append, loadChanges, Session.commands_bind_of_ok (Session.result_attempt _),
        Session.commands_attempt, hl, List.flatMap_cons, List.append_assoc, ← ih]
      dsimp only
      rw [Session.commands_bind_of_ok (Session.result_log _ _), Session.commands_bind_of_ok hr]
      simp

theorem loadChanges_commands_of_divided {entries : List ListedChange} {changes : List Change}
    {failures : List FileFailure}
    (divided : Divided (ListedChange.Loads repository range world)
      (ListedChange.FailsToLoad repository range world) entries changes failures) :
    (loadChanges repository range entries : Session ε _).commands world =
      entries.flatMap fun entry => (entry.load repository range).commands world := by
  simpa [loadChanges] using loadChanges_commands_append (ε := ε) divided []

theorem loadChanges_commands_of_breaksOff {entry : ListedChange}
    (breaks : entry.BreaksOff repository range world) (rest : List ListedChange) :
    (loadChanges repository range (entry :: rest) : Session ε _).commands world =
      (entry.load repository range).commands world := by
  rw [loadChanges, Session.commands_bind_of_ok (Session.result_attempt _),
    Session.commands_attempt, ListedChange.load_eq_nullCharacter_iff.mpr breaks]
  exact List.append_nil _

/-- An extraction runs the commands of the listing, and then those of the files that
its filter accepts. -/
theorem extractChanges_commands (filter? : Option PathFilter) (record : ExtractionRecord) :
    (extractChanges repository filter? range record : Session ε _).commands world =
      (repository.list range).commands world ++
        match (repository.list range).result world with
        | .error _ => []
        | .ok listed =>
            (loadChanges repository range
              (listed.filter fun entry => filter?.all fun filter => filter.accepts entry.path) :
                Session ε _).commands world := by
  unfold extractChanges
  rw [Session.commands_bind_of_ok (Session.result_attempt _), Session.commands_attempt]
  cases hl : (repository.list range).result world with
  | error error => rfl
  | ok listed =>
      obtain ⟨changes, failures, hr, _⟩ := loadChanges_ends (ε := ε) repository range world
        (listed.filter fun entry => filter?.all fun filter => filter.accepts entry.path)
      dsimp only
      rw [Session.commands_bind_of_ok hr]
      simp

/-- A file whose content cannot be asked for is set aside. -/
theorem ListedChange.exists_failure_of_notStarted {entries : List ListedChange}
    {changes : List Change} {failures : List FileFailure}
    (divided : Divided (ListedChange.Loads repository range world)
      (ListedChange.FailsToLoad repository range world) entries changes failures)
    {entry : ListedChange} (member : entry ∈ entries) {arguments : List String} {reason : String}
    (issued : arguments ∈ (entry.load repository range).commands world)
    (missing : world.command arguments = .notStarted reason) :
    ⟨entry.path, "extraction", (RepositoryFault.cannotRun repository.root reason).message⟩ ∈
      failures := by
  obtain ⟨_, hload, path, rfl⟩ := entry.load_heeds arguments issued reason missing
  have unloaded (change : Change) : ¬entry.Loads repository range world change := by
    intro h
    exact nomatch hload.symm.trans h
  obtain ⟨failure, hfailure, path', reason', hload', rfl⟩ :=
    divided.exists_lost_of_mem member unloaded
  obtain ⟨rfl, rfl⟩ := ContentError.unreadable.inj (Except.error.inj (hload.symm.trans hload'))
  exact hfailure

/-- A content that cannot be asked for costs the extraction this file alone. -/
theorem loadChanges_of_notStarted {entries : List ListedChange} {arguments : List String}
    {reason : String}
    (issued : arguments ∈ (loadChanges repository range entries : Session ε _).commands world)
    (missing : world.command arguments = .notStarted reason) :
    ∃ entry : ListedChange, arguments ∈ (entry.load repository range).commands world ∧
      ∃ result failures,
        (loadChanges repository range entries : Session ε _).result world =
          .ok (result, failures) ∧
        (∀ error, result = .error error → error = .nullCharacter) ∧
        ⟨entry.path, "extraction", (RepositoryFault.cannotRun repository.root reason).message⟩ ∈
          failures := by
  obtain ⟨result, failures, hr, loading⟩ := loadChanges_ends (ε := ε) repository range world entries
  cases loading with
  | finished divided =>
      rw [loadChanges_commands_of_divided divided] at issued
      obtain ⟨entry, member, issued⟩ := List.mem_flatMap.mp issued
      exact ⟨entry, issued, _, _, hr, fun _ h => (nomatch h),
        ListedChange.exists_failure_of_notStarted divided member issued missing⟩
  | @brokenOff before rest last changes failures divided breaks =>
      rw [loadChanges_commands_append divided, loadChanges_commands_of_breaksOff breaks,
        List.mem_append] at issued
      rcases issued with issued | issued
      · obtain ⟨entry, member, issued⟩ := List.mem_flatMap.mp issued
        exact ⟨entry, issued, _, _, hr, fun _ h => (Except.error.inj h).symm,
          ListedChange.exists_failure_of_notStarted divided member issued missing⟩
      · -- The file that breaks off had its old content read.
        obtain ⟨_, hload, path, rfl⟩ := last.load_heeds arguments issued reason missing
        have broken := ListedChange.load_eq_nullCharacter_iff.mpr breaks
        exact nomatch hload.symm.trans broken

/-- A command that cannot be started ends the extraction, unless it shows the content
of a file: then the extraction goes on, and has a failure for that file.  What may end it
later is only a question with a null character in it. -/
theorem extractChanges_of_notStarted {filter? : Option PathFilter} {record : ExtractionRecord}
    {arguments : List String} {reason : String}
    (issued : arguments ∈
      (extractChanges repository filter? range record : Session ε _).commands world)
    (missing : world.command arguments = .notStarted reason) :
    let fault := RepositoryFault.cannotRun repository.root reason
    let found := (extractChanges repository filter? range record : Session ε _).result world
    (showsContent arguments = false →
      found = .ok (.error (.git (.repository fault)), { record with failures := [] })) ∧
    (showsContent arguments = true →
      ∃ entry : ListedChange, arguments ∈ (entry.load repository range).commands world ∧
        ∃ result failures count, found = .ok (result, ⟨failures, count⟩) ∧
          (∀ error, result = .error error → error = .nullCharacter) ∧
          ⟨entry.path, "extraction", fault.message⟩ ∈ failures) := by
  intro fault found
  rw [extractChanges_commands, List.mem_append] at issued
  rcases issued with issued | issued
  · have check := Repository.list_commands arguments issued
    obtain ⟨_, hl, rfl⟩ := Repository.list_heeds arguments issued reason missing
    exact ⟨fun _ => extractChanges_of_error hl, by simp [check]⟩
  · cases hl : (repository.list range).result world with
    | error error =>
        rw [hl] at issued
        cases issued
    | ok listed =>
        rw [hl] at issued
        obtain ⟨entry, shown, result, failures, loaded, broken, lost⟩ :=
          loadChanges_of_notStarted issued missing
        have content := entry.load_commands arguments shown
        exact ⟨by simp [content], fun _ => ⟨entry, shown, result, failures, _,
          extractChanges_of_loaded filter? record hl loaded, broken, lost⟩⟩

/-- Git is gone when the files are to be listed. -/
theorem extractChanges_of_notStarted_listing :
    let repository : Repository := ⟨"/work"⟩
    let range := ChangeRange.staged "one"
    let world : World :=
      { command := fun
          | ["rev-parse", "--is-inside-work-tree"] => .finished 0 "true\n" ""
          | ["rev-parse", "--verify", "--quiet", _] => .finished 0 "1\n" ""
          | _ => .notStarted "gone"
        files := {}
        directory := "/work" }
    let arguments := ["diff", "--cached", "--name-status", "-M", "one"]
    let session : Session Unit _ := extractChanges repository none range {}
    let fault := RepositoryFault.cannotRun "/work" "gone"
    arguments ∈ session.commands world ∧ world.command arguments = .notStarted "gone" ∧
      (showsContent arguments = false →
        session.result world = .ok (.error (.git (.repository fault)), {})) ∧
      (showsContent arguments = true →
        ∃ entry : ListedChange, arguments ∈ (entry.load repository range).commands world ∧
          ∃ result failures count, session.result world = .ok (result, ⟨failures, count⟩) ∧
            (∀ error, result = .error error → error = .nullCharacter) ∧
            ⟨entry.path, "extraction", fault.message⟩ ∈ failures) := by
  intro repository range world arguments session fault
  have issued : arguments ∈ session.commands world := by decide +kernel
  have missing : world.command arguments = .notStarted "gone" := rfl
  exact ⟨issued, missing, extractChanges_of_notStarted issued missing⟩

/-- Git is gone when the second content of the second file is to be read.  The
extraction goes on. -/
theorem extractChanges_without_git :
    let repository : Repository := ⟨"/work"⟩
    let range := ChangeRange.revisions "one" "two"
    let world : World :=
      { command := fun
          | ["rev-parse", "--is-inside-work-tree"] => .finished 0 "true\n" ""
          | ["diff", "--name-status", "-M", "one", "two"] =>
              .finished 0 "M\ta.txt\nM\tb.txt\n" ""
          | ["show", "two:b.txt"] => .notStarted "gone"
          | _ => .finished 0 "x\n" ""
        files := {}
        directory := "/work" }
    let session : Session Unit _ := extractChanges repository none range {}
    ["show", "two:b.txt"] ∈ session.commands world ∧
      world.command ["show", "two:b.txt"] = .notStarted "gone" ∧
      (∃ changes failures count, session.result world = .ok (.ok changes, ⟨failures, count⟩) ∧
        ⟨"b.txt", "extraction", "Unable to run git in /work: gone"⟩ ∈ failures) ∧
      ¬∃ fault record, session.result world = .ok (.error (.git (.repository fault)), record) := by
  intro repository range world session
  have issued : ["show", "two:b.txt"] ∈ session.commands world := by decide +kernel
  have missing : world.command ["show", "two:b.txt"] = .notStarted "gone" := rfl
  have hr : session.result world =
      .ok (.ok [Change.ofContents "a.txt" .modified (some "x\n") (some "x\n")],
        ⟨[⟨"b.txt", "extraction", "Unable to run git in /work: gone"⟩], 2⟩) := by
    decide +kernel
  refine ⟨issued, missing, ⟨_, _, _, hr, by simp⟩, ?_⟩
  rintro ⟨fault, record, h⟩
  exact nomatch hr.symm.trans h

end CommitLens
