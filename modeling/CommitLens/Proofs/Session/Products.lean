import CommitLens.Proofs.Session

/-!
# Products of sessions

What a session leaves behind are the texts that it prints and the files that it writes.
Most sessions are quiet: whatever they come to, they leave nothing behind.  How a session
ends is known from how its parts end.
-/

namespace CommitLens

/-- Does an event leave something behind? -/
def Event.isProduct : Event → Bool
  | printed _ | wrote _ _ => true
  | _ => false

namespace Session

variable {ε δ α β : Type} {world : World} {x : Session ε α}

/-- What a session leaves behind in a world. -/
def products (x : Session ε α) (world : World) : List Event :=
  (x world).1.filter Event.isProduct

theorem products_bind (x : Session ε α) (f : α → Session ε β) :
    products (x >>= f) world = x.products world ++
      match x.result world with
      | .ok a => (f a).products world
      | .error _ => [] := by
  show (Session.bind x f world).1.filter Event.isProduct = _
  unfold Session.bind products result
  rcases x world with ⟨events, e | a⟩
  · exact (List.append_nil _).symm
  · exact List.filter_append ..

/-! ## Quiet sessions -/

/-- A session leaves nothing behind in any world. -/
def Quiet (x : Session ε α) : Prop :=
  ∀ world, x.products world = []

namespace Quiet

protected theorem pure (a : α) : Quiet (pure a : Session ε α) := fun _ => rfl

protected theorem throw (e : ε) : Quiet (throw e : Session ε α) := fun _ => rfl

protected theorem world : Quiet (Session.world : Session ε World) := fun _ => rfl

protected theorem log (level : Level) (message : String) :
    Quiet (log level message : Session ε Unit) := fun _ => rfl

protected theorem command (arguments : List String) :
    Quiet (command arguments : Session ε CommandOutcome) := fun _ => rfl

protected theorem ofExcept (r : Except ε α) : Quiet (ofExcept r) := fun _ => rfl

protected theorem attempt (hx : x.Quiet) : Quiet (attempt x : Session δ (Except ε α)) := hx

protected theorem mapError (hx : x.Quiet) (f : ε → δ) : Quiet (mapError f x) := hx

protected theorem bind {f : α → Session ε β} (hx : x.Quiet) (hf : ∀ a, (f a).Quiet) :
    Quiet (x >>= f) := by
  intro world
  rw [products_bind, hx world, List.nil_append]
  cases x.result world with
  | ok a => exact hf a world
  | error e => rfl

protected theorem map (g : α → β) (hx : x.Quiet) : Quiet (g <$> x) :=
  hx.bind fun _ => .pure _

/-- A loop is quiet if its steps are. -/
protected theorem forIn {f : α → Session ε PUnit} (items : List α) (h : ∀ a, (f a).Quiet) :
    Quiet (forIn items PUnit.unit fun a _ => do
      f a
      pure (ForInStep.yield PUnit.unit)) := by
  induction items with
  | nil => exact .pure _
  | cons a rest ih =>
      rw [List.forIn_cons]
      have step : Quiet (do
          f a
          pure (ForInStep.yield PUnit.unit)) := (h a).bind fun _ => .pure _
      refine step.bind fun next => ?_
      cases next with
      | done _ => exact .pure _
      | yield _ => exact ih

end Quiet

/-! ## Ends -/

/-- A session leaves products behind in a world and comes to a result. -/
structure Ends (x : Session ε α) (world : World) (left : List Event) (found : Except ε α) :
    Prop where
  products_eq : x.products world = left
  result_eq : x.result world = found

theorem Quiet.ends {found : Except ε α} (hx : x.Quiet) (h : x.result world = found) :
    x.Ends world [] found :=
  ⟨hx world, h⟩

namespace Ends

variable {f : α → Session ε β} {found : Except ε β} {left more : List Event}

protected theorem bind {a : α} (hx : x.Ends world left (.ok a))
    (hf : (f a).Ends world more found) : Ends (x >>= f) world (left ++ more) found where
  products_eq := by rw [products_bind, hx.result_eq, hx.products_eq, ← hf.products_eq]
  result_eq := by rw [result_bind_of_ok hx.result_eq, hf.result_eq]

/-- A first part leaves nothing behind. -/
theorem after {a : α} (hx : x.Ends world [] (.ok a)) (hf : (f a).Ends world left found) :
    Ends (x >>= f) world left found :=
  hx.bind hf

/-- What comes after a failure does not happen. -/
theorem stop {e : ε} (hx : x.Ends world left (.error e)) :
    Ends (x >>= f) world left (.error e) where
  products_eq := by rw [products_bind, hx.result_eq, hx.products_eq, List.append_nil]
  result_eq := by rw [result_bind, hx.result_eq]

/-- A quiet attempt is made, and its result is dealt with. -/
theorem attempt {y : Session δ α} {k : Except δ α → Session ε β} (hy : y.Quiet)
    (hk : (k (y.result world)).Ends world left found) :
    Ends (Session.attempt y >>= k) world left found :=
  (hy.attempt.ends (result_attempt y)).after hk

/-- A part that may be left out without a difference. -/
theorem optional {c : Prop} [Decidable c] {y : Session ε Unit} {k : Unit → Session ε β}
    (hy : y.Ends world [] (.ok ())) (hk : (k ()).Ends world left found) :
    Ends (if c then y >>= k else k ()) world left found := by
  split
  · exact hy.after hk
  · exact hk

end Ends

end Session

end CommitLens
