import CommitLens.Extraction
import CommitLens.Proofs.Session

/-!
# Answers of a repository

A question to a repository is a command.  Its answer is missing if it cannot be put
because of a null character, if the command cannot be started, or if it fails; and only a
listing lets a failure of a command through.  Main statements: the listing of files fails
with a message of a command exactly if a repository that was found to be in order refuses
it; and it comes to a null character only in the root or in a revision.
-/

namespace CommitLens

namespace ChangeRange

/-- The command that lists the changed files. -/
def listing : ChangeRange → List String
  | revisions base head => ["diff", "--name-status", "-M", base, head]
  | workingTree _ => ["status", "--porcelain", "--untracked-files=all"]
  | staged base => ["diff", "--cached", "--name-status", "-M", base]

/-- The changed files in the output of that command. -/
def readListing : ChangeRange → String → List ListedChange
  | revisions _ _ | staged _ => Git.readDifferences
  | workingTree _ => Git.readStates

end ChangeRange

namespace Repository

variable {repository : Repository} {range : ChangeRange} {world : World}

/-! ## Single questions -/

theorem run_result (arguments : List String) :
    (repository.run arguments).result world =
      if repository.meetsNull arguments then .error .nullCharacter
      else match world.command arguments with
        | .finished code output errors => .ok (code, output, errors)
        | .notStarted reason => .error (.git (.repository (.cannotRun repository.root reason))) := by
  unfold run
  split
  · rfl
  · rw [Session.result_bind_of_ok (a := world.command arguments) rfl]
    cases world.command arguments <;> rfl

/-- What a command that fails has to say. -/
def complaint (output errors : String) : String :=
  if (Text.trim errors).isEmpty then Text.trim output else Text.trim errors

/-- The output of a command that is run, or its complaint if it fails. -/
theorem output_result (arguments : List String) :
    (repository.output arguments).result world =
      if repository.meetsNull arguments then .error .nullCharacter
      else match world.command arguments with
        | .finished code output errors =>
            if code = 0 then .ok output else .error (.git (.command (complaint output errors)))
        | .notStarted reason => .error (.git (.repository (.cannotRun repository.root reason))) := by
  unfold output
  rw [Session.result_bind, run_result]
  by_cases null : repository.meetsNull arguments = true
  · rw [if_pos null, if_pos null]
  · rw [if_neg null, if_neg null]
    cases world.command arguments with
    | finished code output errors =>
        dsimp only
        by_cases hcode : code = 0
        · rw [if_pos (by simp [hcode]), if_pos hcode]
          rfl
        · rw [if_neg (by simp [hcode]), if_neg hcode]
          rfl
    | notStarted reason => rfl

/-- A command that is run fails by its exit code alone. -/
theorem output_eq_command_iff {arguments : List String} {message : String}
    (plain : repository.meetsNull arguments = false) :
    (repository.output arguments).result world = .error (.git (.command message)) ↔
      ∃ code output errors, world.command arguments = .finished code output errors ∧
        code ≠ 0 ∧ complaint output errors = message := by
  rw [output_result, if_neg (by simp [plain])]
  cases hcommand : world.command arguments with
  | finished code output errors =>
      dsimp only
      by_cases hcode : code = 0
      · rw [if_pos hcode]
        simp [hcode]
      · rw [if_neg hcode]
        constructor
        · intro h
          cases h
          exact ⟨code, output, errors, rfl, hcode, rfl⟩
        · rintro ⟨_, _, _, same, _, rfl⟩
          cases same
          rfl
  | notStarted reason => simp

/-- A listing is made of the output of one command. -/
theorem read_output_result (read : String → List ListedChange) (arguments : List String) :
    Session.result (do return read (← repository.output arguments)) world =
      ((repository.output arguments).result world).map read := by
  rw [Session.result_bind]
  cases (repository.output arguments).result world <;> rfl

/-! ## Null characters -/

theorem meetsNull_eq_false_iff {arguments : List String} :
    repository.meetsNull arguments = false ↔
      Text.hasNull repository.root = false ∧ ∀ text ∈ arguments, Text.hasNull text = false := by
  simp [meetsNull]

theorem run_eq_nullCharacter_iff {arguments : List String} :
    (repository.run arguments).result world = .error .nullCharacter ↔
      repository.meetsNull arguments = true := by
  rw [run_result]
  split
  · simp [*]
  · cases world.command arguments <;> simp [*]

theorem ensure_eq_nullCharacter_iff :
    repository.ensure.result world = .error .nullCharacter ↔
      Text.hasNull repository.root = true := by
  have asked : repository.meetsNull ["rev-parse", "--is-inside-work-tree"] =
      Text.hasNull repository.root := by
    simp [meetsNull, Text.hasNull]
  unfold ensure
  rw [Session.result_bind_eq_error_iff, run_eq_nullCharacter_iff, asked, or_iff_left]
  rintro ⟨⟨code, output, _⟩, _, h⟩
  dsimp only at h
  split at h <;> exact nomatch h

theorem verify_eq_nullCharacter_iff {revision : String} :
    (repository.verify revision).result world = .error .nullCharacter ↔
      Text.hasNull repository.root = true ∨ Text.hasNull revision = true := by
  have asked : repository.meetsNull
      ["rev-parse", "--verify", "--quiet", revision ++ "^\x7bcommit\x7d"] =
        (Text.hasNull repository.root || Text.hasNull revision) := by
    simp [meetsNull, Text.hasNull]
  unfold verify
  rw [Session.result_bind_eq_error_iff, run_eq_nullCharacter_iff, asked, Bool.or_eq_true,
    or_iff_left]
  rintro ⟨⟨code, _, _⟩, _, h⟩
  dsimp only at h
  split at h <;> exact nomatch h

theorem verify_of_hasNull {revision : String} (null : Text.hasNull revision = true) :
    (repository.verify revision).result world = .error .nullCharacter :=
  verify_eq_nullCharacter_iff.mpr (.inr null)

/-! ## Refusals -/

/-- If an answer is missing, it is not because the command failed. -/
def Unrefused {α : Type} (found : Except QuestionError α) : Prop :=
  ∀ message, found ≠ .error (.git (.command message))

theorem Unrefused.bind {α β : Type} {x : Session QuestionError α}
    {f : α → Session QuestionError β} (hx : Unrefused (x.result world))
    (hf : ∀ a, Unrefused ((f a).result world)) :
    Unrefused (Session.result (x >>= f) world) := by
  intro message h
  rcases Session.result_bind_eq_error_iff.mp h with h | ⟨a, _, h⟩
  · exact hx message h
  · exact hf a message h

theorem run_unrefused (arguments : List String) :
    Unrefused ((repository.run arguments).result world) := by
  intro message
  rw [run_result]
  split
  · exact nofun
  · cases world.command arguments <;> exact nofun

theorem ensure_unrefused : Unrefused (repository.ensure.result world) := by
  apply Unrefused.bind (run_unrefused _)
  intro ⟨code, output, _⟩ message
  dsimp only
  split <;> exact nofun

theorem verify_unrefused (revision : String) :
    Unrefused ((repository.verify revision).result world) := by
  apply Unrefused.bind (run_unrefused _)
  intro ⟨code, _, _⟩ message
  dsimp only
  split <;> exact nofun

/-! ## Listing the files -/

/-- What is checked before the files are listed. -/
def check (repository : Repository) (range : ChangeRange) : Session QuestionError Unit := do
  repository.ensure
  repository.verify range.base
  match range with
  | .revisions _ head => repository.verify head
  | _ => return

theorem check_unrefused : Unrefused ((repository.check range).result world) := by
  apply Unrefused.bind ensure_unrefused
  intro _
  apply Unrefused.bind (verify_unrefused range.base)
  intro _
  cases range with
  | revisions base head => exact verify_unrefused head
  | workingTree base => exact nofun
  | staged base => exact nofun

/-- Listing is one command behind the checks. -/
theorem list_result :
    (repository.list range).result world =
      match (repository.check range).result world with
      | .error error => .error error
      | .ok _ => ((repository.output range.listing).result world).map range.readListing := by
  unfold list check
  simp only [Session.result_bind]
  rcases repository.ensure.result world with error | _
  · rfl
  rcases (repository.verify range.base).result world with error | _
  · rfl
  dsimp only
  cases range with
  | revisions base head =>
      dsimp only
      rw [Session.result_bind]
      rcases (repository.verify head).result world with error | _
      · rfl
      · exact read_output_result _ _
  | workingTree base => exact read_output_result _ _
  | staged base => exact read_output_result _ _

/-- The repository is in order, but refuses to list the files with a message. -/
structure RefusesListing (repository : Repository) (range : ChangeRange) (world : World)
    (message : String) : Prop where
  checked : (repository.check range).result world = .ok ()
  refused : ∃ code output errors, world.command range.listing = .finished code output errors ∧
    code ≠ 0 ∧ complaint output errors = message

/-- The checks come to a null character. -/
inductive NullInChecks (repository : Repository) (range : ChangeRange) (world : World) : Prop
  | root (null : Text.hasNull repository.root = true)
  | base (ensured : repository.ensure.result world = .ok ())
      (null : Text.hasNull range.base = true)
  | head {base head : String} (same : range = .revisions base head)
      (ensured : repository.ensure.result world = .ok ())
      (verified : (repository.verify base).result world = .ok ())
      (null : Text.hasNull head = true)

theorem check_eq_nullCharacter_iff :
    (repository.check range).result world = .error .nullCharacter ↔
      repository.NullInChecks range world := by
  unfold check
  rw [Session.result_bind_eq_error_iff, ensure_eq_nullCharacter_iff]
  constructor
  · rintro (null | ⟨_, ensured, h⟩)
    · exact .root null
    · rcases Session.result_bind_eq_error_iff.mp h with h | ⟨_, verified, h⟩
      · rcases verify_eq_nullCharacter_iff.mp h with null | null
        · exact .root null
        · exact .base ensured null
      · cases range with
        | revisions base head =>
            rcases verify_eq_nullCharacter_iff.mp h with null | null
            · exact .root null
            · exact .head rfl ensured verified null
        | workingTree base => exact nomatch h
        | staged base => exact nomatch h
  · intro h
    cases h with
    | root null => exact .inl null
    | base ensured null =>
        have h : (repository.verify range.base).result world = .error .nullCharacter :=
          verify_of_hasNull null
        exact .inr ⟨(), ensured, Session.result_bind_eq_error_iff.mpr (.inl h)⟩
    | @head base head same ensured verified null =>
        subst same
        have h : (repository.verify head).result world = .error .nullCharacter :=
          verify_of_hasNull null
        exact .inr ⟨(), ensured, Session.result_bind_eq_error_iff.mpr (.inr ⟨(), verified, h⟩)⟩

/-- Behind its checks, the listing is free of null characters. -/
theorem meetsNull_listing (checked : (repository.check range).result world = .ok ()) :
    repository.meetsNull range.listing = false := by
  obtain ⟨_, ensured, rest⟩ := Session.result_bind_eq_ok_iff.mp checked
  obtain ⟨_, verified, rest⟩ := Session.result_bind_eq_ok_iff.mp rest
  have root : Text.hasNull repository.root = false := by
    rw [← Bool.not_eq_true]
    intro null
    exact nomatch ensured.symm.trans (ensure_eq_nullCharacter_iff.mpr null)
  have known {revision : String} (h : (repository.verify revision).result world = .ok ()) :
      Text.hasNull revision = false := by
    rw [← Bool.not_eq_true]
    intro null
    exact nomatch h.symm.trans (verify_of_hasNull null)
  rw [meetsNull_eq_false_iff]
  apply And.intro root
  cases range with
  | revisions base head =>
      simp only [ChangeRange.listing, List.forall_mem_cons]
      exact ⟨rfl, rfl, rfl, known verified, known rest, nofun⟩
  | workingTree base =>
      simp only [ChangeRange.listing, List.forall_mem_cons]
      exact ⟨rfl, rfl, rfl, nofun⟩
  | staged base =>
      simp only [ChangeRange.listing, List.forall_mem_cons]
      exact ⟨rfl, rfl, rfl, rfl, known verified, nofun⟩

theorem read_output_eq_error_iff {read : String → List ListedChange} {arguments : List String}
    {error : QuestionError} :
    ((repository.output arguments).result world).map read = .error error ↔
      (repository.output arguments).result world = .error error := by
  cases (repository.output arguments).result world <;> simp [Except.map]

/-- A refusal is the only failure of a command that a listing ends with. -/
theorem list_eq_command_iff {message : String} :
    (repository.list range).result world = .error (.git (.command message)) ↔
      repository.RefusesListing range world message := by
  rw [list_result]
  cases checked : (repository.check range).result world with
  | error error =>
      dsimp only
      constructor
      · intro h
        cases h
        exact absurd checked (check_unrefused message)
      · intro h
        exact nomatch checked.symm.trans h.checked
  | ok _ =>
      dsimp only
      rw [read_output_eq_error_iff, output_eq_command_iff (meetsNull_listing checked)]
      exact ⟨fun h => ⟨checked, h⟩, fun h => h.refused⟩

theorem list_eq_nullCharacter_iff :
    (repository.list range).result world = .error .nullCharacter ↔
      repository.NullInChecks range world := by
  rw [← check_eq_nullCharacter_iff, list_result]
  cases checked : (repository.check range).result world with
  | error error => simp
  | ok _ =>
      dsimp only
      rw [read_output_eq_error_iff, output_result, if_neg (by simp [meetsNull_listing checked])]
      cases world.command range.listing with
      | finished code output errors =>
          dsimp only
          split <;> simp
      | notStarted reason => simp

end Repository

end CommitLens
