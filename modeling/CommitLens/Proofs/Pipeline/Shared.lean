import CommitLens.Pipeline.Shared
import CommitLens.Proofs.Pipeline.Account

/-!
# What a pipeline keeps between two runs

A run leaves the lists that were there before it as they are, and makes two new ones:
one for its comparison, and one for its analysis.  Main statement: in any sequence of
runs of one pipeline, every result is the one of a new pipeline, and no later run
changes it.
-/

namespace CommitLens

/-! ## Stores -/

namespace FailureStore

variable {store : FailureStore} {ref other : FailureRef}

theorem not_holds_next : ¬store.Holds store.next :=
  Nat.lt_irrefl _

theorem holds_next (failures : List FileFailure) : (store.allocate failures).Holds store.next := by
  simp [Holds, allocate, next]

@[simp] theorem read_allocate_next (failures : List FileFailure) :
    (store.allocate failures).read store.next = failures := by
  simp [read, allocate, next]

theorem holds_push (failure : FileFailure) :
    (store.push ref failure).Holds other ↔ store.Holds other := by
  simp [Holds, push]

theorem read_push_self (h : store.Holds ref) (failure : FileFailure) :
    (store.push ref failure).read ref = store.read ref ++ [failure] := by
  simp [read, push, List.getElem?_eq_getElem h]

theorem read_push_of_ne (h : ref ≠ other) (failure : FileFailure) :
    (store.push ref failure).read other = store.read other := by
  have apart : ref.index ≠ other.index := fun same => h (by cases ref; cases other; simp_all)
  simp [read, push, List.getElem?_modify_ne _ _ apart]

theorem holds_record (failure? : Option FileFailure) :
    (store.record ref failure?).Holds other ↔ store.Holds other := by
  cases failure? with
  | none => exact Iff.rfl
  | some failure => exact holds_push failure

theorem read_record_self (h : store.Holds ref) (failure? : Option FileFailure) :
    (store.record ref failure?).read ref = store.read ref ++ failure?.toList := by
  cases failure? with
  | none => exact (List.append_nil _).symm
  | some failure => exact read_push_self h failure

/-- Lists that were there before are there as they were. -/
def Keeps (before after : FailureStore) : Prop :=
  ∀ ref, before.Holds ref → after.Holds ref ∧ after.read ref = before.read ref

namespace Keeps

variable {before middle after : FailureStore}

theorem refl (store : FailureStore) : store.Keeps store :=
  fun _ h => ⟨h, rfl⟩

theorem trans (h : before.Keeps middle) (h' : middle.Keeps after) : before.Keeps after :=
  fun ref held =>
    have ⟨heldLater, same⟩ := h ref held
    have ⟨heldLast, sameLater⟩ := h' ref heldLater
    ⟨heldLast, sameLater.trans same⟩

theorem allocate (store : FailureStore) (failures : List FileFailure) :
    store.Keeps (store.allocate failures) := by
  intro ref held
  refine ⟨?_, ?_⟩
  · simp only [Holds, FailureStore.allocate, List.length_append] at held ⊢
    omega
  · simp only [read, FailureStore.allocate, List.getElem?_append_left held]

/-- Only a list that is newer may be added to. -/
theorem record (h : before.Keeps after) (new : ¬before.Holds ref)
    (failure? : Option FileFailure) : before.Keeps (after.record ref failure?) := by
  cases failure? with
  | none => exact h
  | some failure =>
      intro other held
      obtain ⟨heldLater, same⟩ := h other held
      have apart : ref ≠ other := fun hr => new (hr ▸ held)
      exact ⟨(holds_push failure).mpr heldLater, (read_push_of_ne apart failure).trans same⟩

end Keeps

end FailureStore

/-- A result reads the same in any store that keeps its list. -/
theorem read_result_of_keeps {before after : FailureStore}
    {result : Except RunError SharedAnalysis} (h : before.Keeps after)
    (held : ∀ analysis, result = .ok analysis → before.Holds analysis.failures) :
    result.map (·.read after) = result.map (·.read before) := by
  cases result with
  | error error => rfl
  | ok analysis =>
      have same := (h _ (held analysis rfl)).2
      simp only [Except.map, SharedAnalysis.read, same]

/-! ## One run -/

section Compare

variable {ref : FailureRef}

theorem compareInto_fst (changes : List LinkedChange) (store : FailureStore) :
    (compareInto ref changes store).1 = (compareChanges changes).1 := by
  induction changes generalizing store with
  | nil => rfl
  | cons change rest ih =>
      rw [compareChanges_cons]
      exact congrArg (change.compare.1 :: ·) (ih _)

theorem compareInto_cons_snd (change : LinkedChange) (rest : List LinkedChange)
    (store : FailureStore) :
    (compareInto ref (change :: rest) store).2 =
      (compareInto ref rest (store.record ref change.compare.2)).2 := by
  cases compared : change.compare with
  | mk found failure? => simp only [compareInto, compared]

/-- The list grows by the failures of the comparison. -/
theorem read_compareInto (changes : List LinkedChange) {store : FailureStore}
    (h : store.Holds ref) :
    (compareInto ref changes store).2.read ref = store.read ref ++ (compareChanges changes).2 := by
  induction changes generalizing store with
  | nil => exact (List.append_nil _).symm
  | cons change rest ih =>
      have held : (store.record ref change.compare.2).Holds ref :=
        (FailureStore.holds_record _).mpr h
      rw [compareInto_cons_snd, compareChanges_cons, ih held, FailureStore.read_record_self h]
      exact List.append_assoc _ _ _

theorem keeps_compareInto (changes : List LinkedChange) {before store : FailureStore}
    (h : before.Keeps store) (new : ¬before.Holds ref) :
    before.Keeps (compareInto ref changes store).2 := by
  induction changes generalizing store with
  | nil => exact h
  | cons change rest ih =>
      rw [compareInto_cons_snd]
      exact ih (h.record new _)

end Compare

namespace SharedPipeline

variable {pipeline : SharedPipeline} {input : SharedInput} {store : FailureStore}

/-- A run leaves all lists as they are, those that the pipeline and its caller hold
included. -/
theorem process_keeps : store.Keeps (pipeline.process input store).2.2 := by
  have compared := keeps_compareInto (linkChanges input.changes input.graph?)
    (FailureStore.Keeps.allocate store []) FailureStore.not_holds_next
  exact compared.trans (.allocate _ _)

/-- Read out, a run is one of a new pipeline. -/
theorem process_read (given : store.Holds input.failures) :
    (pipeline.process input store).1.map (·.read (pipeline.process input store).2.2) =
      (Pipeline.process { config := pipeline.config } (input.read store)).1 := by
  let links := linkChanges input.changes input.graph?
  -- The given list is older than that of the comparison, so it is as it was given.
  have kept : store.Keeps (compareInto store.next links (store.allocate [])).2 :=
    keeps_compareInto links (.allocate store []) FailureStore.not_holds_next
  have before : (compareInto store.next links (store.allocate [])).2.read input.failures =
      store.read input.failures :=
    (kept _ given).2
  have found : (compareInto store.next links (store.allocate [])).2.read store.next =
      (compareChanges links).2 := by
    rw [read_compareInto links (FailureStore.holds_next []), FailureStore.read_allocate_next]
    exact List.nil_append _
  unfold process Pipeline.process Pipeline.scoreChanges
  simp only [SharedInput.read]
  cases ReportFormat.ofText? input.format with
  | none => rfl
  | some format =>
      simp only [Except.map, SharedAnalysis.read, FailureStore.read_allocate_next,
        compareInto_fst, before, found, links]

theorem process_holds {analysis : SharedAnalysis}
    (h : (pipeline.process input store).1 = .ok analysis) :
    (pipeline.process input store).2.2.Holds analysis.failures := by
  unfold process at h ⊢
  cases hf : ReportFormat.ofText? input.format with
  | none => simp [hf] at h
  | some format =>
      simp only [hf, Except.ok.injEq] at h
      rw [← h]
      exact FailureStore.holds_next _

/-! ## Runs after each other -/

theorem processAll_append (earlier later : List SharedInput) :
    pipeline.processAll (earlier ++ later) store =
      let before := pipeline.processAll earlier store
      let after := before.pipeline.processAll later before.store
      { after with results := before.results ++ after.results } := by
  induction earlier generalizing pipeline store with
  | nil => rfl
  | cons input rest ih => simp only [List.cons_append, processAll, ih]

theorem processAll_config (inputs : List SharedInput) :
    (pipeline.processAll inputs store).pipeline.config = pipeline.config := by
  induction inputs generalizing pipeline store with
  | nil => rfl
  | cons input rest ih => exact ih

theorem processAll_keeps (inputs : List SharedInput) :
    store.Keeps (pipeline.processAll inputs store).store := by
  induction inputs generalizing pipeline store with
  | nil => exact .refl store
  | cons input rest ih =>
      exact (process_keeps : store.Keeps (pipeline.process input store).2.2).trans ih

/-- The lists of all analyses are there after the last run. -/
theorem processAll_holds {inputs : List SharedInput} {analysis : SharedAnalysis}
    (h : .ok analysis ∈ (pipeline.processAll inputs store).results) :
    (pipeline.processAll inputs store).store.Holds analysis.failures := by
  induction inputs generalizing pipeline store with
  | nil => cases h
  | cons input rest ih =>
      obtain first | others := List.mem_cons.mp h
      · exact (processAll_keeps rest _ (process_holds first.symm)).1
      · exact ih others

/-- Earlier results read the same after later runs. -/
theorem processAll_read (inputs : List SharedInput) {later : FailureStore}
    (h : (pipeline.processAll inputs store).store.Keeps later) :
    (pipeline.processAll inputs store).read later =
      (pipeline.processAll inputs store).read (pipeline.processAll inputs store).store := by
  refine List.map_congr_left fun result found => read_result_of_keeps h ?_
  rintro analysis rfl
  exact processAll_holds found

end SharedPipeline

/-- Without shared lists, a run is the one of a new pipeline by itself. -/
theorem Pipeline.processAll_results (pipeline : Pipeline) (inputs : List PipelineInput) :
    (pipeline.processAll inputs).1 =
      inputs.map fun input => (Pipeline.process { config := pipeline.config } input).1 := by
  induction inputs generalizing pipeline with
  | nil => rfl
  | cons input rest ih => exact congrArg _ (ih _)

namespace SharedPipeline

/-- Every run of a pipeline is one of a new pipeline, whatever ran before it, and the
runs that follow change neither its result nor the results before. -/
theorem processAll_fresh (pipeline : SharedPipeline) (store : FailureStore)
    (earlier : List SharedInput) (input : SharedInput) (later : List SharedInput)
    (given : (pipeline.processAll earlier store).store.Holds input.failures) :
    let before := pipeline.processAll earlier store
    let after := pipeline.processAll (earlier ++ input :: later) store
    (∃ result others, after.results = before.results ++ result :: others ∧
      result.map (·.read after.store) =
        (Pipeline.process { config := pipeline.config } (input.read before.store)).1) ∧
      before.read after.store = before.read before.store ∧
      before.store.Keeps after.store ∧
      ∀ values : List PipelineInput,
        (Pipeline.processAll { config := pipeline.config } values).1 =
          values.map fun value => (Pipeline.process { config := pipeline.config } value).1 := by
  intro before after
  let step := before.pipeline.process input before.store
  have run : after = { step.2.1.processAll later step.2.2 with
      results := before.results ++ step.1 :: (step.2.1.processAll later step.2.2).results } :=
    processAll_append earlier (input :: later)
  have rest : step.2.2.Keeps after.store := by
    rw [run]
    exact processAll_keeps later
  have kept : before.store.Keeps after.store := process_keeps.trans rest
  have result : step.1.map (·.read after.store) = step.1.map (·.read step.2.2) :=
    read_result_of_keeps rest fun _ => process_holds
  refine ⟨⟨step.1, (step.2.1.processAll later step.2.2).results, by rw [run], ?_⟩,
    processAll_read earlier kept, kept, Pipeline.processAll_results _⟩
  have config : before.pipeline.config = pipeline.config := processAll_config earlier
  rw [result, ← config]
  exact process_read given

/-- The first file cannot be parsed, and the second run is given the list of the first
result. -/
theorem processAll_fresh_given_result :
    let pipeline : SharedPipeline := { failures := ⟨0⟩ }
    let store : FailureStore := ⟨[[], []]⟩
    let broken : SharedInput :=
      { changes := [Change.ofContents "broken.py" .added none (some "x = (") none]
        failures := ⟨1⟩ }
    let again : SharedInput := { broken with failures := ⟨3⟩ }
    let before := pipeline.processAll [broken] store
    let after := pipeline.processAll [broken, again] store
    (pipeline.process broken store).1.map (·.failures) = .ok again.failures ∧
      (before.store.read again.failures).map (·.path) = ["broken.py"] ∧
      (∃ result others, after.results = before.results ++ result :: others ∧
        result.map (·.read after.store) = (Pipeline.process {} (again.read before.store)).1) ∧
      before.read after.store = before.read before.store ∧
      before.store.Keeps after.store ∧
      ∀ values : List PipelineInput,
        (Pipeline.processAll {} values).1 =
          values.map fun value => (Pipeline.process {} value).1 := by
  intro pipeline store broken again before after
  have returned : (pipeline.process broken store).1.map (·.failures) = .ok again.failures := by
    decide +kernel
  have failed : (before.store.read again.failures).map (·.path) = ["broken.py"] := by
    decide +kernel
  have given : before.store.Holds again.failures := by decide +kernel
  exact ⟨returned, failed, processAll_fresh pipeline store [broken] again [] given⟩

end SharedPipeline

end CommitLens
