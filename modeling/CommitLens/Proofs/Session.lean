import CommitLens.Session

/-!
# Results of sessions

A session leaves events behind and comes to a result.  For each way to make a
session, one equation tells its result; where it matters which commands were run on
the way, another one tells them.
-/

namespace CommitLens.Session

variable {ε δ α β : Type} {world : World}

/-- What a session comes to in a world. -/
def result (x : Session ε α) (world : World) : Except ε α :=
  (x world).2

@[simp] theorem result_pure (a : α) : result (pure a : Session ε α) world = .ok a := rfl

@[simp] theorem result_throw (e : ε) : result (throw e : Session ε α) world = .error e := rfl

@[simp] theorem result_ofExcept (r : Except ε α) : (ofExcept r).result world = r := rfl

@[simp] theorem result_world : (Session.world : Session ε World).result world = .ok world := rfl

@[simp] theorem result_log (level : Level) (message : String) :
    (log level message : Session ε Unit).result world = .ok () := rfl

/-- An attempt tells the result of what it attempts. -/
@[simp] theorem result_attempt (x : Session ε α) :
    (attempt x : Session δ (Except ε α)).result world = .ok (x.result world) := rfl

theorem result_bind (x : Session ε α) (f : α → Session ε β) :
    result (x >>= f) world =
      match x.result world with
      | .ok a => (f a).result world
      | .error e => .error e := by
  show (Session.bind x f world).2 = _
  unfold Session.bind result
  rcases x world with ⟨events, a | a⟩ <;> rfl

theorem result_bind_of_ok {x : Session ε α} {a : α} (h : x.result world = .ok a)
    (f : α → Session ε β) : result (x >>= f) world = (f a).result world := by
  rw [result_bind, h]

theorem result_bind_eq_ok_iff {x : Session ε α} {f : α → Session ε β} {b : β} :
    result (x >>= f) world = .ok b ↔
      ∃ a, x.result world = .ok a ∧ (f a).result world = .ok b := by
  rw [result_bind]
  cases x.result world <;> simp

theorem result_bind_eq_error_iff {x : Session ε α} {f : α → Session ε β} {e : ε} :
    result (x >>= f) world = .error e ↔
      x.result world = .error e ∨ ∃ a, x.result world = .ok a ∧ (f a).result world = .error e := by
  rw [result_bind]
  cases x.result world <;> simp

theorem result_map_eq_error_iff {f : α → β} {x : Session ε α} {e : ε} :
    result (f <$> x) world = .error e ↔ x.result world = .error e := by
  show result (x >>= fun a => pure (f a)) world = _ ↔ _
  rw [result_bind]
  cases x.result world <;> simp

/-- A loop whose steps all succeed comes to its end. -/
theorem result_forIn {f : α → Session ε PUnit} (items : List α)
    (h : ∀ a, (f a).result world = .ok ⟨⟩) :
    result (forIn items PUnit.unit fun a _ => do
      f a
      pure (ForInStep.yield PUnit.unit)) world = .ok ⟨⟩ := by
  induction items with
  | nil => rfl
  | cons a rest ih =>
      rw [List.forIn_cons]
      have step : result (do
          f a
          pure (ForInStep.yield PUnit.unit)) world = .ok (ForInStep.yield PUnit.unit) := by
        rw [result_bind_of_ok (h a), result_pure]
      rw [result_bind_of_ok step]
      exact ih

theorem result_mapError (f : ε → δ) (x : Session ε α) :
    (mapError f x).result world = (x.result world).mapError f := rfl

/-! ## Commands -/

/-- The commands that a session runs in a world. -/
def commands (x : Session ε α) (world : World) : List (List String) :=
  Event.commands (x world).1

@[simp] theorem commands_pure (a : α) : commands (pure a : Session ε α) world = [] := rfl

@[simp] theorem commands_throw (e : ε) : commands (throw e : Session ε α) world = [] := rfl

@[simp] theorem commands_world : (Session.world : Session ε World).commands world = [] := rfl

@[simp] theorem commands_log (level : Level) (message : String) :
    (log level message : Session ε Unit).commands world = [] := rfl

@[simp] theorem commands_command (arguments : List String) :
    (command arguments : Session ε CommandOutcome).commands world = [arguments] := rfl

@[simp] theorem commands_attempt (x : Session ε α) :
    (attempt x : Session δ (Except ε α)).commands world = x.commands world := rfl

@[simp] theorem commands_mapError (f : ε → δ) (x : Session ε α) :
    (mapError f x).commands world = x.commands world := rfl

theorem commands_bind (x : Session ε α) (f : α → Session ε β) :
    commands (x >>= f) world = x.commands world ++
      match x.result world with
      | .ok a => (f a).commands world
      | .error _ => [] := by
  show Event.commands (Session.bind x f world).1 = _
  unfold Session.bind commands result
  rcases x world with ⟨events, e | a⟩
  · exact (List.append_nil _).symm
  · exact List.filterMap_append

theorem commands_bind_of_ok {x : Session ε α} {a : α} (h : x.result world = .ok a)
    (f : α → Session ε β) :
    commands (x >>= f) world = x.commands world ++ (f a).commands world := by
  rw [commands_bind, h]

@[simp] theorem commands_map (g : α → β) (x : Session ε α) :
    commands (g <$> x) world = x.commands world := by
  show commands (x >>= fun a => pure (g a)) world = _
  rw [commands_bind]
  cases x.result world <;> simp

/-- What holds of the commands of all parts holds of the commands of the whole. -/
theorem forall_commands_bind {p : List String → Prop} {x : Session ε α} {f : α → Session ε β}
    (hx : ∀ arguments ∈ x.commands world, p arguments)
    (hf : ∀ a, ∀ arguments ∈ (f a).commands world, p arguments) :
    ∀ arguments ∈ commands (x >>= f) world, p arguments := by
  rw [commands_bind, List.forall_mem_append]
  refine ⟨hx, ?_⟩
  cases x.result world with
  | ok a => exact hf a
  | error e => simp

/-- A session that runs a command which cannot be started comes to an error that
`tells` why. -/
def Heeds (tells : String → ε → Prop) (x : Session ε α) (world : World) : Prop :=
  ∀ arguments ∈ x.commands world, ∀ reason, world.command arguments = .notStarted reason →
    ∃ error, x.result world = .error error ∧ tells reason error

namespace Heeds

variable {tells : String → ε → Prop} {x : Session ε α}

theorem of_commands_eq_nil (h : x.commands world = []) : x.Heeds tells world := by
  intro arguments hmem
  rw [h] at hmem
  cases hmem

/-- If the first part comes to a result, all its commands could be started. -/
theorem bind {f : α → Session ε β} (hx : x.Heeds tells world)
    (hf : ∀ a, (f a).Heeds tells world) : Heeds tells (x >>= f) world := by
  intro arguments hmem reason missing
  rw [commands_bind, List.mem_append] at hmem
  rw [result_bind]
  rcases hmem with hmem | hmem
  · obtain ⟨error, he, ht⟩ := hx arguments hmem reason missing
    exact ⟨error, by rw [he], ht⟩
  · cases ha : x.result world with
    | ok a =>
        rw [ha] at hmem
        exact hf a arguments hmem reason missing
    | error error =>
        rw [ha] at hmem
        cases hmem

theorem map (g : α → β) (hx : x.Heeds tells world) : Heeds tells (g <$> x) world :=
  hx.bind fun _ => of_commands_eq_nil rfl

theorem mapError {tells' : String → δ → Prop} {f : ε → δ} (hx : x.Heeds tells world)
    (hf : ∀ reason error, tells reason error → tells' reason (f error)) :
    (mapError f x).Heeds tells' world := by
  intro arguments hmem reason missing
  obtain ⟨error, he, ht⟩ := hx arguments hmem reason missing
  exact ⟨f error, by rw [result_mapError, he]; rfl, hf reason error ht⟩

end Heeds

end CommitLens.Session
