/-!
# Ranking

A stable sort for orders that may leave some items incomparable.  The run at the
front that is in order already, or strictly in reverse, is taken as a whole, and
every further item is put behind all those it does not come before, found by
halving.
-/

namespace CommitLens.Ranking

variable {α : Type}

/-- Put an item among ranked ones by halving them. -/
def insert (before : α → α → Bool) (item : α) (ranked : List α) : List α :=
  let middle := ranked.length / 2
  match _h : ranked.drop middle with
  | [] => ranked ++ [item]
  | pivot :: rest =>
      if before item pivot then
        insert before item (ranked.take middle) ++ pivot :: rest
      else ranked.take middle ++ pivot :: insert before item rest
termination_by ranked.length
decreasing_by
  all_goals
    have size := congrArg List.length _h
    simp only [List.length_drop, List.length_cons] at size
    try simp only [List.length_take]
    omega

/-- The longest front in which every item is related to the one before it. -/
def run (related : α → α → Bool) : α → List α → List α × List α
  | _, [] => ([], [])
  | item, next :: rest =>
      if related item next then
        let (front, back) := run related next rest
        (next :: front, back)
      else ([], next :: rest)

/-- The run at the front in ranked order, and what follows it. -/
def leadingRun (before : α → α → Bool) : List α → List α × List α
  | [] => ([], [])
  | first :: rest =>
      match run (fun a b => before b a) first rest with
      | ([], _) =>
          let (front, back) := run (fun a b => !before b a) first rest
          (first :: front, back)
      | (front, back) => ((first :: front).reverse, back)

def sort (before : α → α → Bool) (items : List α) : List α :=
  let (front, back) := leadingRun before items
  back.foldl (fun ranked item => insert before item ranked) front

end CommitLens.Ranking
