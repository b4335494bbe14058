import CommitLens.Proofs.Script.Spelling
import Mathlib.Data.List.Lex

/-!
# Traversal of trees

A node of a tree has an address: the way from the root, as the place of a child on each level.
In lexicographic order, the address of a node comes before those of the nodes below it, and
those come from left to right.  Main statement: the loop with a stack ends after a step for
each node and has visited the nodes in this order, each of them once.  So a text that does not
fit the grammar is reported at its first broken node, a pattern has all its variables in source
order, and no element of markup is overlooked.
-/

namespace CommitLens.Script

/-! ## The loop -/

/-- A traversal under way: the nodes that it has visited, and a stack of trees with the next
one at its end. -/
structure Traversal where
  visited : List Tree
  stack : List Tree

namespace Traversal

variable {t u : Traversal}

def ofTree (tree : Tree) : Traversal :=
  ⟨[], [tree]⟩

/-- A traversal with an empty stack has ended. -/
def ended (visited : List Tree) : Traversal :=
  ⟨visited, []⟩

/-- Take the tree at the end of the stack and visit it.  Its children take its place, the first
one last. -/
def step? (t : Traversal) : Option Traversal :=
  t.stack.getLast?.map fun tree =>
    ⟨t.visited ++ [tree], t.stack.dropLast ++ tree.children.reverse⟩

/-- The traversal after a number of steps, unless it ends before. -/
def after? : Nat → Traversal → Option Traversal
  | 0, t => some t
  | steps + 1, t => t.step?.bind (after? steps)

/-- The nodes that are visited in the end. -/
def visits (t : Traversal) : List Tree :=
  t.visited ++ Tree.walk t.stack.reverse

/-- How many nodes are left. -/
def left (t : Traversal) : Nat :=
  Tree.sizeOf t.stack.reverse

/-- What one step can do. -/
theorem step?_eq_some_iff :
    t.step? = some u ↔ ∃ tree front, t.stack = front ++ [tree] ∧
      u = ⟨t.visited ++ [tree], front ++ tree.children.reverse⟩ := by
  unfold step?
  constructor
  · intro h
    obtain ⟨tree, last, rfl⟩ := Option.map_eq_some_iff.mp h
    obtain ⟨front, stack⟩ := List.getLast?_eq_some_iff.mp last
    exact ⟨tree, front, stack, by simp [stack]⟩
  · rintro ⟨tree, front, stack, rfl⟩
    simp [stack]

/-- A traversal that has not ended goes on. -/
theorem ended_or_exists_step? (t : Traversal) : t = ended t.visited ∨ ∃ u, t.step? = some u := by
  obtain ⟨visited, stack⟩ := t
  rcases List.eq_nil_or_concat' stack with rfl | ⟨front, tree, rfl⟩
  · exact .inl rfl
  · exact .inr ⟨_, step?_eq_some_iff.mpr ⟨tree, front, rfl, rfl⟩⟩

/-- A step visits one of the nodes that are left and does not change what is visited in the
end. -/
theorem visits_of_step? (h : t.step? = some u) :
    u.visits = t.visits ∧ t.left = u.left + 1 := by
  obtain ⟨tree, front, stack, rfl⟩ := step?_eq_some_iff.mp h
  have before : t.stack.reverse = tree :: front.reverse := by simp [stack]
  have after : (front ++ tree.children.reverse).reverse = tree.children ++ front.reverse := by simp
  constructor
  · rw [visits, visits, before, after, Tree.walk, List.append_assoc, List.singleton_append]
  · rw [left, left, before, after, Tree.sizeOf, Tree.sizeOf_append, Tree.size_eq]
    omega

/-- By induction on the number of nodes that are left: there is a next step as long as there is
one. -/
theorem after?_left (t : Traversal) : t.after? t.left = some (ended t.visits) := by
  generalize steps : t.left = n
  induction n generalizing t with
  | zero =>
      rcases t.ended_or_exists_step? with same | ⟨u, step⟩
      · rw [after?, same]
        simp [visits, ended, Tree.walk]
      · have less := (visits_of_step? step).2
        omega
  | succ n ih =>
      rcases t.ended_or_exists_step? with same | ⟨u, step⟩
      · rw [same] at steps
        contradiction
      · obtain ⟨same, less⟩ := visits_of_step? step
        rw [after?, step, Option.bind_some, ih u (by omega), same]

theorem after?_ofTree (tree : Tree) :
    (ofTree tree).after? tree.size = some (ended (Tree.walk [tree])) :=
  after?_left (ofTree tree)

end Traversal

namespace Tree

/-! ## Addresses -/

/-- The node at an address, if there is one. -/
def at? : Tree → List Nat → Option Tree
  | tree, [] => some tree
  | tree, place :: address => tree.children[place]?.bind fun child => child.at? address

mutual

/-- The addresses of the nodes of a tree. -/
def addresses : Tree → List (List Nat)
  | node _ _ _ _ children => [] :: addressesFrom 0 children

/-- The addresses of the nodes below a node, from the child at a place on. -/
def addressesFrom (place : Nat) : List Tree → List (List Nat)
  | [] => []
  | child :: rest => (addresses child).map (place :: ·) ++ addressesFrom (place + 1) rest

end

variable {tree : Tree}

theorem addresses_eq (tree : Tree) : addresses tree = [] :: addressesFrom 0 tree.children := by
  cases tree
  rw [addresses, children]

theorem mem_addressesFrom_iff {place : Nat} {children : List Tree} {address : List Nat} :
    address ∈ addressesFrom place children ↔ ∃ step child below,
      children[step]? = some child ∧ below ∈ addresses child ∧
        address = (place + step) :: below := by
  induction children generalizing place with
  | nil => simp [addressesFrom]
  | cons first rest ih =>
      rw [addressesFrom, List.mem_append, List.mem_map, ih]
      constructor
      · rintro (⟨below, member, rfl⟩ | ⟨step, child, below, found, member, rfl⟩)
        · exact ⟨0, first, below, rfl, member, rfl⟩
        · exact ⟨step + 1, child, below, found, member, by rw [Nat.add_right_comm]; rfl⟩
      · rintro ⟨step, child, below, found, member, rfl⟩
        cases step with
        | zero =>
            obtain rfl : first = child := by simpa using found
            exact .inl ⟨below, member, rfl⟩
        | succ step =>
            exact .inr ⟨step, child, below, found, member, by rw [Nat.add_right_comm]; rfl⟩

/-- All addresses of nodes and no others. -/
theorem mem_addresses_iff {address : List Nat} :
    address ∈ addresses tree ↔ (tree.at? address).isSome := by
  induction address generalizing tree with
  | nil => simp [addresses_eq, at?]
  | cons place below ih =>
      rw [addresses_eq, List.mem_cons, mem_addressesFrom_iff, at?]
      cases found : tree.children[place]? with
      | none => simp [found]
      | some child => simp [found, ih]

theorem pairwise_addressesFrom {children : List Tree}
    (h : ∀ child ∈ children, (addresses child).Pairwise (· < ·)) (place : Nat) :
    (addressesFrom place children).Pairwise (· < ·) := by
  induction children generalizing place with
  | nil => simp [addressesFrom]
  | cons first rest ih =>
      rw [List.forall_mem_cons] at h
      rw [addressesFrom, List.pairwise_append, List.pairwise_map]
      refine ⟨h.1.imp fun earlier => List.cons_lt_cons_iff.mpr (.inr ⟨rfl, earlier⟩),
        ih h.2 (place + 1), fun a ha b hb => ?_⟩
      -- Addresses below different children differ in their first place.
      obtain ⟨below, -, rfl⟩ := List.mem_map.mp ha
      obtain ⟨step, child, other, -, -, rfl⟩ := mem_addressesFrom_iff.mp hb
      exact List.cons_lt_cons_iff.mpr (.inl (by omega))

/-- Each of them once, and in lexicographic order. -/
theorem pairwise_addresses (tree : Tree) : (addresses tree).Pairwise (· < ·) := by
  induction tree using Tree.induct with
  | step tree ih =>
      rw [addresses_eq, List.pairwise_cons]
      refine ⟨fun address member => ?_, pairwise_addressesFrom ih 0⟩
      obtain ⟨step, child, below, -, -, rfl⟩ := mem_addressesFrom_iff.mp member
      exact List.nil_lt_cons _ _

/-- By induction on the children from a place on: those in front of them are kept, because an
address counts all children. -/
theorem map_at?_addressesFrom (front : List Tree) {children : List Tree}
    (h : tree.children = front ++ children)
    (each : ∀ child ∈ children, (addresses child).map child.at? = (nodes child).map some) :
    (addressesFrom front.length children).map tree.at? = (nodesOf children).map some := by
  induction children generalizing front with
  | nil => simp [addressesFrom, nodesOf]
  | cons child rest ih =>
      rw [List.forall_mem_cons] at each
      have found : tree.children[front.length]? = some child := by simp [h]
      have below : (tree.at? ∘ (front.length :: ·)) = child.at? := by
        funext address
        rw [Function.comp_apply, at?, found, Option.bind_some]
      have behind : tree.children = (front ++ [child]) ++ rest := by simp [h]
      have later := ih (front ++ [child]) behind each.2
      rw [List.length_append] at later
      rw [addressesFrom, nodesOf, List.map_append, List.map_append, List.map_map, below, each.1]
      exact congrArg _ later

/-- The nodes of a tree stand at its addresses, in this order. -/
theorem map_at?_addresses (tree : Tree) : (addresses tree).map tree.at? = (nodes tree).map some := by
  induction tree using Tree.induct with
  | step tree ih =>
      have below : (addressesFrom 0 tree.children).map tree.at? =
          (nodesOf tree.children).map some :=
        map_at?_addressesFrom [] rfl ih
      rw [addresses_eq, nodes_eq, List.map_cons, List.map_cons, at?]
      exact congrArg _ below

/-- The traversal looks up one address after another. -/
theorem walk_eq_filterMap (tree : Tree) : walk [tree] = (addresses tree).filterMap tree.at? := by
  have found := congrArg (List.filterMap id) (map_at?_addresses tree)
  rw [List.filterMap_map, List.filterMap_map] at found
  simpa [walk_singleton] using found.symm

theorem mem_walk_iff {inner : Tree} :
    inner ∈ walk [tree] ↔ ∃ address, tree.at? address = some inner := by
  rw [walk_eq_filterMap, List.mem_filterMap]
  refine exists_congr fun address => and_iff_right_of_imp fun found => ?_
  rw [mem_addresses_iff, found]
  rfl

/-! ## What is found -/

/-- The nodes with a property, each of them once and in the order of their addresses. -/
def InOrder (tree : Tree) (p : Tree → Bool) (found : List Tree) : Prop :=
  ∃ order : List (List Nat), order.Pairwise (· < ·) ∧
    (∀ address, address ∈ order ↔ ∃ inner, tree.at? address = some inner ∧ p inner) ∧
    order.map tree.at? = found.map some

/-- The first node with a property: no node at an earlier address has it. -/
structure IsFirst (tree : Tree) (p : Tree → Bool) (address : List Nat) (found : Tree) : Prop where
  at_address : tree.at? address = some found
  holds : p found
  earlier : ∀ before < address, ∀ other, tree.at? before = some other → ¬p other

theorem inOrder_filter_walk (tree : Tree) (p : Tree → Bool) :
    tree.InOrder p ((walk [tree]).filter p) := by
  refine ⟨(addresses tree).filter fun address => (tree.at? address).any p,
    (pairwise_addresses tree).filter _, fun address => ?_, ?_⟩
  · rw [List.mem_filter, mem_addresses_iff, Option.any_eq_true]
    refine and_iff_right_of_imp ?_
    rintro ⟨inner, found, -⟩
    rw [found]
    rfl
  · have filtered := congrArg (List.filter (Option.any p)) (map_at?_addresses tree)
    rw [List.filter_map, List.filter_map] at filtered
    rw [walk_singleton]
    exact filtered

theorem inOrder_walk (tree : Tree) : tree.InOrder (fun _ => true) (walk [tree]) := by
  have all := inOrder_filter_walk tree fun _ => true
  rwa [List.filter_true] at all

/-- In a list that is sorted, what is found is the least that can be found. -/
theorem find?_eq_some_iff_of_pairwise {order : List (List Nat)} {q : List Nat → Bool}
    {address : List Nat} (sorted : order.Pairwise (· < ·)) :
    order.find? q = some address ↔
      address ∈ order ∧ q address ∧ ∀ before < address, before ∈ order → ¬q before := by
  rw [List.find?_eq_some_iff_append]
  constructor
  · rintro ⟨holds, front, back, rfl, none⟩
    obtain ⟨-, later, -⟩ := List.pairwise_append.mp sorted
    refine ⟨by simp, holds, fun before less member => ?_⟩
    rcases List.mem_append.mp member with member | member
    · simpa using none before member
    · rcases List.mem_cons.mp member with rfl | member
      · exact absurd less (lt_irrefl _)
      · exact absurd less (lt_asymm ((List.pairwise_cons.mp later).1 before member))
  · rintro ⟨member, holds, none⟩
    obtain ⟨front, back, rfl⟩ := List.append_of_mem member
    obtain ⟨-, -, across⟩ := List.pairwise_append.mp sorted
    refine ⟨holds, front, back, rfl, fun before inFront => ?_⟩
    have less := across before inFront address List.mem_cons_self
    simpa using none before less (List.mem_append_left _ inFront)

theorem find?_walk_eq_some_iff {p : Tree → Bool} {found : Tree} :
    (walk [tree]).find? p = some found ↔ ∃ address, tree.IsFirst p address found := by
  rw [walk_eq_filterMap, List.find?_filterMap, Option.bind_eq_some_iff]
  refine exists_congr fun address => ?_
  rw [find?_eq_some_iff_of_pairwise (pairwise_addresses tree)]
  simp only [mem_addresses_iff, Option.any_eq_true]
  constructor
  · rintro ⟨⟨-, ⟨same, known, holds⟩, none⟩, at_address⟩
    obtain rfl : same = found := Option.some.inj (known.symm.trans at_address)
    refine ⟨at_address, holds, fun before less other other_at other_holds => ?_⟩
    exact none before less (by rw [other_at]; rfl) ⟨other, other_at, other_holds⟩
  · rintro ⟨at_address, holds, earlier⟩
    refine ⟨⟨by rw [at_address]; rfl, ⟨found, at_address, holds⟩, ?_⟩, at_address⟩
    rintro before less - ⟨other, other_at, other_holds⟩
    exact earlier before less other other_at other_holds

/-- A variable that is read or bound. -/
def isVariable (tree : Tree) : Bool :=
  tree.kind == .identifier || tree.kind == .shorthandBinding

/-- The loop ends after a step for each node, and has visited every node once, a node before
those below it and these from left to right.  So the line of a broken text is the one of the
first broken node, a pattern has exactly its variables in source order, and markup is found
wherever it is. -/
theorem walk_visitsInOrder (src : Source) (tree : Tree) :
    (Traversal.ofTree tree).after? tree.size = some (.ended (walk [tree])) ∧
    (Traversal.ended (walk [tree])).step? = none ∧
    walk [tree] = nodes tree ∧
    tree.InOrder (fun _ => true) (walk [tree]) ∧
    (∀ line, firstBrokenLine? src tree = some line ↔
      ∃ address found, tree.IsFirst isBroken address found ∧ src.lineOf found.start = line) ∧
    (firstBrokenLine? src tree = none ↔
      ∀ address found, tree.at? address = some found → ¬found.isBroken) ∧
    (∃ found, tree.InOrder isVariable found ∧ boundNames src tree = found.map src.text) ∧
    ((surfaceOf src tree).hasMarkup ↔
      ∃ address found, tree.at? address = some found ∧ found.kind = .markup) := by
  refine ⟨Traversal.after?_ofTree tree, rfl, walk_singleton tree, inOrder_walk tree,
    fun line => ?_, ?_, ⟨_, inOrder_filter_walk tree isVariable, rfl⟩, ?_⟩
  · rw [firstBrokenLine?, Option.map_eq_some_iff]
    simp only [find?_walk_eq_some_iff, ← exists_and_right]
    exact exists_comm
  · rw [firstBrokenLine?, Option.map_eq_none_iff, List.find?_eq_none]
    simp only [mem_walk_iff, forall_exists_index]
    exact forall_comm
  · show (walk [tree]).any (fun inner => inner.kind == .markup) ↔ _
    simp only [List.any_eq_true, mem_walk_iff, beq_iff_eq, ← exists_and_right]
    exact exists_comm

end Tree

end CommitLens.Script
