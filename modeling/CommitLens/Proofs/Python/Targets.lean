import CommitLens.Python.Surface
import CommitLens.Proofs.Surface

/-!
# Names that targets bind

An assignment binds every plain name of its target: in tuples, in lists and behind a star.
Main statement: the names that are recorded are those behind no star, in source order, so
they are all that the target binds exactly if no name stands behind a star.
-/

namespace CommitLens.Python

/-- A plain name that an assignment binds, and whether it stands behind a star. -/
structure BoundName where
  name : String
  starred : Bool
  deriving Repr, DecidableEq

mutual

/-- What an assignment to a target binds, in source order.  Members and subscripts are
assigned to, and bind no name. -/
def bound (starred : Bool) : Expr → List BoundName
  | .name id => [⟨id, starred⟩]
  | .tuple items => boundOf starred items
  | .list items => boundOf starred items
  | .starred e => bound true e
  | _ => []

def boundOf (starred : Bool) : List Expr → List BoundName
  | [] => []
  | e :: rest => bound starred e ++ boundOf starred rest

end

/-- The names that a target binds. -/
def boundNames (target : Expr) : List String :=
  (bound false target).map (·.name)

/-- The names behind no star. -/
def plainNames (found : List BoundName) : List String :=
  (found.filter fun binding => !binding.starred).map (·.name)

theorem plainNames_append (a b : List BoundName) :
    plainNames (a ++ b) = plainNames a ++ plainNames b := by
  simp [plainNames]

/-- By induction on the target: a name goes missing behind a star, and nothing behind a star
leaves it again. -/
theorem plainNames_bound (starred : Bool) (target : Expr) :
    plainNames (bound starred target) = if starred then [] else targetNames target := by
  refine bound.induct
    (fun starred e => plainNames (bound starred e) = if starred then [] else targetNames e)
    (fun starred items =>
      plainNames (boundOf starred items) = if starred then [] else targetNamesOf items)
    ?name ?tuple ?list ?starred ?other ?nil ?cons starred target
  case name =>
    intro starred id
    cases starred <;> rfl
  case tuple =>
    intro starred items ih
    rw [bound, targetNames]
    exact ih
  case list =>
    intro starred items ih
    rw [bound, targetNames]
    exact ih
  case starred =>
    intro starred e ih
    rw [bound, ih]
    simp [targetNames]
  case other =>
    intro e starred name tuple list star
    have none : bound starred e = [] := by simp [bound]
    have other : targetNames e = [] := by simp [targetNames]
    simp [none, other, plainNames]
  case nil =>
    intro starred
    simp [boundOf, targetNamesOf, plainNames]
  case cons =>
    intro starred e rest first later
    rw [boundOf, plainNames_append, first, later, targetNamesOf]
    cases starred <;> simp

/-- The recorded names of a target are those behind no star. -/
theorem targetNames_of_starred (target : Expr) :
    targetNames target = plainNames (bound false target) ∧
      (targetNames target = boundNames target ↔
        ∀ binding ∈ bound false target, binding.starred = false) := by
  have recorded : targetNames target = plainNames (bound false target) :=
    (plainNames_bound false target).symm
  refine ⟨recorded, ?_⟩
  rw [recorded, boundNames, plainNames, map_filter_eq_map_iff]
  simp

/-- The name behind the star in `a, *b` is bound, and neither recorded nor exported. -/
theorem targetNames_missesStarred :
    let target : Expr := .tuple [.name "a", .starred (.name "b")]
    boundNames target = ["a", "b"] ∧ targetNames target = ["a"] ∧
      (surfaceOf [.assign [target] (.name "c")]).exports = ["a"] := by
  decide +kernel

end CommitLens.Python
