import CommitLens.Proofs.Pipeline.Account

/-!
# What a run can fail with

A run checks the repository and its revisions, has the changed files listed, and
goes through them.  Main statement: with a known format, a run that fails does so
with a `GitError`, unless it comes to a question with a null character in it, in the checks or
about a file; the error is a `RepositoryFault` unless a repository that was found to be in
order refuses to list the files.
-/

namespace CommitLens

namespace Pipeline

variable {config : Config} {repository : Repository} {range : ChangeRange} {world : World}
  {format : String} {detailed : Bool}

/-- A run in a known format has an analysis or fails with a `GitError`, but for questions with a
null character; without a refused listing, that is a `RepositoryFault`. -/
theorem run_fails_with_git (known : ∃ format', ReportFormat.ofText? format = some format') :
    let found := (run config repository range format detailed).result world
    ((∃ analysis, found = .ok analysis) ∨ (∃ fault, found = .error (.git (.repository fault))) ∨
        (∃ message, found = .error (.git (.command message))) ∨ found = .error .nullCharacter) ∧
      (∀ message, found = .error (.git (.command message)) ↔
        repository.RefusesListing range world message) ∧
      (found = .error .nullCharacter ↔
        repository.NullInChecks range world ∨
          ∃ listed, (repository.list range).result world = .ok listed ∧
            ∃ entry ∈ listed.filter fun entry =>
                config.pathFilter?.all fun filter => filter.accepts entry.path,
              entry.BreaksOff repository range world) := by
  intro found
  refine ⟨?_, fun message => ?_, result_run_eq_nullCharacter_iff⟩
  · cases hlist : (repository.list range).result world with
    | ok listed =>
        rcases result_run_of_listed config format detailed hlist with ⟨whole, -⟩ | ⟨-, broken⟩
        · exact .inl (result_run_eq_ok_iff.mpr ⟨⟨listed, hlist, whole⟩, known⟩)
        · exact .inr (.inr (.inr broken))
    | error error =>
        have hfound : found = .error (.ofQuestion error) := result_run_of_error hlist
        cases error with
        | git error =>
            cases error with
            | repository fault => exact .inr (.inl ⟨fault, hfound⟩)
            | command message => exact .inr (.inr (.inl ⟨message, hfound⟩))
        | nullCharacter => exact .inr (.inr (.inr hfound))
  · rw [← Repository.list_eq_command_iff]
    exact result_run_eq_git_iff

/-- Contents that cannot be asked for do not end a run. -/
theorem run_fails_with_git_lost :
    let repository : Repository := ⟨"/work"⟩
    let range := ChangeRange.revisions "one" "two"
    let world : World :=
      { command := fun
          | ["rev-parse", "--is-inside-work-tree"] => .finished 0 "true\n" ""
          | ["rev-parse", "--verify", "--quiet", _] => .finished 0 "1\n" ""
          | ["diff", "--name-status", "-M", "one", "two"] => .finished 0 "M\ta.py\n" ""
          | _ => .notStarted "gone"
        files := {}
        directory := "/work" }
    let found := (run {} repository range "json" true).result world
    (∃ format, ReportFormat.ofText? "json" = some format) ∧
      ((∃ analysis, found = .ok analysis) ∨
          (∃ fault, found = .error (.git (.repository fault))) ∨
          (∃ message, found = .error (.git (.command message))) ∨
          found = .error .nullCharacter) ∧
        (∀ message, found = .error (.git (.command message)) ↔
          repository.RefusesListing range world message) ∧
        (found = .error .nullCharacter ↔
          repository.NullInChecks range world ∨
            ∃ listed, (repository.list range).result world = .ok listed ∧
              ∃ entry ∈ listed.filter fun entry =>
                  ({} : Config).pathFilter?.all fun filter => filter.accepts entry.path,
                entry.BreaksOff repository range world) := by
  intro repository range world found
  have known : ∃ format, ReportFormat.ofText? "json" = some format := ⟨.json, by decide +kernel⟩
  exact ⟨known, run_fails_with_git known⟩

/-- Two known revisions whose files are not listed: there is neither an analysis nor a
`RepositoryFault`. -/
theorem run_refused :
    let world : World :=
      { command := fun
          | ["rev-parse", "--is-inside-work-tree"] => .finished 0 "true\n" ""
          | ["rev-parse", "--verify", "--quiet", _] => .finished 0 "1\n" ""
          | _ => .finished 128 "" "fatal: bad object\n"
        files := {}
        directory := "/work" }
    let found := (run {} ⟨"/work"⟩ (.revisions "a" "b") "markdown" true).result world
    found = .error (.git (.command "fatal: bad object")) ∧
      ¬((∃ analysis, found = .ok analysis) ∨
        ∃ fault, found = .error (.git (.repository fault))) := by
  intro world found
  have refused : (Repository.list ⟨"/work"⟩ (.revisions "a" "b")).result world =
      .error (.git (.command "fatal: bad object")) := by
    decide +kernel
  have hfound : found = .error (.git (.command "fatal: bad object")) :=
    result_run_of_error refused
  refine ⟨hfound, ?_⟩
  rw [hfound]
  simp

end Pipeline

end CommitLens
