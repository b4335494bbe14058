import CommitLens.Report.Ranking
import Mathlib.Data.List.Chain
import Mathlib.Order.Lattice

/-!
# Ranking by a key

Where the order compares a key, the sort has one right result: the items by descending key,
those of equal key as they came.  Main statements: there is at most one such ranking of items,
and the sort finds it.
-/

namespace CommitLens.Ranking

variable {α β : Type} [LinearOrder β] {before : α → α → Bool} {key : α → β}
  {items ranked other front back : List α} {item : α}

/-- The items by descending key, those of equal key in their order. -/
structure Ranked (key : α → β) (items ranked : List α) : Prop where
  perm : ranked.Perm items
  descending : ranked.Pairwise fun a b => key b ≤ key a
  stable : ∀ k, ranked.filter (fun a => key a = k) = items.filter (fun a => key a = k)

/-- Does the order compare the keys of these items? -/
def Compares (before : α → α → Bool) (key : α → β) (items : List α) : Prop :=
  ∀ a ∈ items, ∀ b ∈ items, before a b = true ↔ key b < key a

theorem Compares.subset (h : Compares before key items) (hs : other ⊆ items) :
    Compares before key other := fun a ha b hb => h a (hs ha) b (hs hb)

/-! ## One ranking -/

theorem mem_of_filter_eq (h : ∀ k, ranked.filter (fun a => key a = k) =
    other.filter (fun a => key a = k)) (hi : item ∈ ranked) : item ∈ other := by
  have same : item ∈ ranked.filter fun a => key a = key item :=
    List.mem_filter.mpr ⟨hi, decide_eq_true rfl⟩
  rw [h] at same
  exact List.mem_of_mem_filter same

/-- Lists by descending key are the same if they have the same items of each key. -/
theorem eq_of_filter_eq (hr : ranked.Pairwise fun a b => key b ≤ key a)
    (ho : other.Pairwise fun a b => key b ≤ key a)
    (h : ∀ k, ranked.filter (fun a => key a = k) = other.filter (fun a => key a = k)) :
    ranked = other := by
  induction ranked generalizing other with
  | nil =>
      refine (List.eq_nil_iff_forall_not_mem.mpr fun b hb => ?_).symm
      exact List.not_mem_nil (mem_of_filter_eq (fun k => (h k).symm) hb)
  | cons a ranked ih =>
      match other with
      | [] => exact absurd (mem_of_filter_eq h List.mem_cons_self) List.not_mem_nil
      | b :: other =>
          obtain ⟨top, hr⟩ := List.pairwise_cons.mp hr
          obtain ⟨otherTop, hd⟩ := List.pairwise_cons.mp ho
          have below : key a ≤ key b := by
            rcases List.mem_cons.mp (mem_of_filter_eq h List.mem_cons_self) with rfl | ha
            · exact le_rfl
            · exact otherTop a ha
          have above : key b ≤ key a := by
            have hb := mem_of_filter_eq (fun k => (h k).symm) (List.mem_cons_self (l := other))
            rcases List.mem_cons.mp hb with rfl | hb
            · exact le_rfl
            · exact top b hb
          have tie : key b = key a := le_antisymm above below
          have heads := h (key a)
          rw [List.filter_cons_of_pos (by simp), List.filter_cons_of_pos (by simp [tie])] at heads
          obtain rfl : a = b := (List.cons.inj heads).1
          refine congrArg (a :: ·) (ih hr hd fun k => ?_)
          by_cases hk : key a = k
          · subst hk
            exact (List.cons.inj heads).2
          · simpa [hk] using h k

/-- No other list is a ranking of the same items. -/
theorem Ranked.unique (h : Ranked key items ranked) (ho : Ranked key items other) :
    ranked = other :=
  eq_of_filter_eq h.descending ho.descending fun k => (h.stable k).trans (ho.stable k).symm

/-! ## Insertion -/

theorem insert_nil (before : α → α → Bool) (item : α) : insert before item [] = [item] := by
  rw [insert.eq_def]
  dsimp only
  split
  · rfl
  · rename_i found
    exact absurd found (by simp)

theorem insert_of_drop_eq_cons {pivot : α} {rest : List α}
    (h : ranked.drop (ranked.length / 2) = pivot :: rest) :
    insert before item ranked =
      if before item pivot then
        insert before item (ranked.take (ranked.length / 2)) ++ pivot :: rest
      else ranked.take (ranked.length / 2) ++ pivot :: insert before item rest := by
  rw [insert.eq_def]
  dsimp only
  split
  · rename_i none
    rw [h] at none
    contradiction
  · rename_i found
    rw [h] at found
    obtain ⟨rfl, rfl⟩ := List.cons.inj found
    rfl

/-- An item is put where the order turns, wherever the halving looks. -/
theorem insert_append (hf : ∀ a ∈ front, before item a = false)
    (hb : ∀ a ∈ back, before item a = true) :
    insert before item (front ++ back) = front ++ item :: back := by
  generalize hr : front ++ back = ranked
  induction size : ranked.length using Nat.strong_induction_on generalizing ranked front back with
  | _ size ih =>
  subst size
  match found : ranked.drop (ranked.length / 2) with
  | [] =>
      have short := List.drop_eq_nil_iff.mp found
      obtain rfl : ranked = [] := List.eq_nil_of_length_eq_zero (by omega)
      obtain ⟨rfl, rfl⟩ := List.append_eq_nil_iff.mp hr
      exact insert_nil before item
  | pivot :: rest =>
      have parts := List.take_append_drop (ranked.length / 2) ranked
      rw [insert_of_drop_eq_cons found]
      rw [found] at parts
      generalize ranked.take (ranked.length / 2) = low at parts
      have sizes : low.length < ranked.length ∧ rest.length < ranked.length := by
        rw [← parts, List.length_append, List.length_cons]
        omega
      -- the turn is before the pivot exactly if the item belongs before the pivot
      rcases List.append_eq_append_iff.mp (hr.trans parts.symm) with
        ⟨more, rfl, rfl⟩ | ⟨more, rfl, high⟩
      · have turned : ∀ a ∈ more, before item a = true := fun a ha => hb a (by simp [ha])
        rw [if_pos (hb pivot (by simp)), ih _ sizes.1 hf turned _ rfl rfl]
        simp
      · cases more with
        | nil =>
            rw [List.nil_append] at high
            subst high
            have turned : ∀ a ∈ [], before item a = true := by simp
            rw [if_pos (hb pivot (by simp)), ih _ sizes.1 hf turned _ (by simp) rfl]
            simp
        | cons c more =>
            rw [List.cons_append] at high
            obtain ⟨rfl, rfl⟩ := List.cons.inj high
            have kept : ∀ a ∈ more, before item a = false := fun a ha => hf a (by simp [ha])
            rw [if_neg (by simp [hf pivot]), ih _ sizes.2 kept hb _ rfl rfl]
            simp

/-- By descending key, the items of at least some key come first. -/
theorem exists_split (h : ranked.Pairwise fun a b => key b ≤ key a) (k : β) :
    ∃ front back, ranked = front ++ back ∧ (∀ a ∈ front, k ≤ key a) ∧ ∀ a ∈ back, key a < k := by
  induction ranked with
  | nil => exact ⟨[], [], rfl, by simp, by simp⟩
  | cons a ranked ih =>
      obtain ⟨top, h⟩ := List.pairwise_cons.mp h
      by_cases ha : k ≤ key a
      · obtain ⟨front, back, rfl, hf, hb⟩ := ih h
        exact ⟨a :: front, back, rfl, List.forall_mem_cons.mpr ⟨ha, hf⟩, hb⟩
      · have low : key a < k := not_le.mp ha
        exact ⟨[], a :: ranked, rfl, by simp,
          List.forall_mem_cons.mpr ⟨low, fun b hb => (top b hb).trans_lt low⟩⟩

/-- An item that comes last is put behind those of its key. -/
theorem Ranked.insert (h : Ranked key items ranked)
    (hc : Compares before key (items ++ [item])) :
    Ranked key (items ++ [item]) (insert before item ranked) := by
  obtain ⟨front, back, rfl, hf, hb⟩ := exists_split h.descending (key item)
  have known {a : α} (ha : a ∈ front ++ back) : a ∈ items ++ [item] :=
    List.mem_append_left _ (h.perm.mem_iff.mp ha)
  have last : item ∈ items ++ [item] := by simp
  have inserted : Ranking.insert before item (front ++ back) = front ++ item :: back := by
    refine insert_append (fun a ha => ?_) fun a ha => ?_
    · rw [← Bool.not_eq_true, hc item last a (known (List.mem_append_left _ ha))]
      exact not_lt.mpr (hf a ha)
    · exact (hc item last a (known (List.mem_append_right _ ha))).mpr (hb a ha)
  obtain ⟨frontDescends, backDescends, across⟩ := List.pairwise_append.mp h.descending
  rw [inserted]
  constructor
  case perm =>
    calc (front ++ item :: back).Perm (item :: (front ++ back)) := List.perm_middle
      _ |>.Perm (item :: items) := h.perm.cons item
      _ |>.Perm (items ++ [item]) := (List.perm_append_singleton item items).symm
  case descending =>
    refine List.pairwise_append.mpr ⟨frontDescends, List.pairwise_cons.mpr ⟨?_, backDescends⟩, ?_⟩
    · exact fun a ha => (hb a ha).le
    · exact fun a ha => List.forall_mem_cons.mpr ⟨hf a ha, across a ha⟩
  case stable =>
    intro k
    have stable := h.stable k
    by_cases hk : key item = k
    · subst hk
      have none : back.filter (fun a => key a = key item) = [] :=
        List.filter_eq_nil_iff.mpr fun a ha => by simpa using (hb a ha).ne
      rw [List.filter_append, none, List.append_nil] at stable
      simp [none, stable]
    · simpa [hk] using stable

/-! ## The run at the front -/

theorem run_append (related : α → α → Bool) (item : α) (items : List α) :
    (run related item items).1 ++ (run related item items).2 = items := by
  fun_induction run related item items <;> simp_all

theorem isChain_run (related : α → α → Bool) (item : α) (items : List α) :
    (item :: (run related item items).1).IsChain fun a b => related a b = true := by
  fun_induction run related item items <;> simp_all

theorem leadingRun_cons (before : α → α → Bool) (first : α) (rest : List α) :
    leadingRun before (first :: rest) =
      if (run (fun a b => before b a) first rest).1.isEmpty then
        (first :: (run (fun a b => !before b a) first rest).1,
          (run (fun a b => !before b a) first rest).2)
      else ((first :: (run (fun a b => before b a) first rest).1).reverse,
        (run (fun a b => before b a) first rest).2) := by
  rw [leadingRun]
  rcases run (fun a b => before b a) first rest with ⟨_ | ⟨a, front⟩, back⟩ <;> rfl

/-- Items by descending key are ranked. -/
theorem ranked_self (h : items.Pairwise fun a b => key b ≤ key a) : Ranked key items items :=
  ⟨.refl _, h, fun _ => rfl⟩

/-- Items by ascending key are ranked in reverse, as no two have the same. -/
theorem ranked_reverse (h : items.Pairwise fun a b => key a < key b) :
    Ranked key items items.reverse where
  perm := List.reverse_perm items
  descending := List.pairwise_reverse.mpr (h.imp le_of_lt)
  stable k := by
    have apart : (items.filter fun a => key a = k).Pairwise fun a b => key a < key b := h.filter _
    rw [List.filter_reverse]
    match found : items.filter fun a => key a = k with
    | [] => rfl
    | [_] => rfl
    | a :: b :: _ =>
        have mem (c : α) (hc : c ∈ items.filter fun a => key a = k) : key c = k := by
          simpa using (List.mem_filter.mp hc).2
        rw [found] at apart mem
        have less := (List.pairwise_cons.mp apart).1 b (by simp)
        rw [mem a (by simp), mem b (by simp)] at less
        exact absurd less (lt_irrefl k)

/-- The run at the front comes out ranked. -/
theorem ranked_leadingRun (hc : Compares before key items) :
    ∃ leading, items = leading ++ (leadingRun before items).2 ∧
      Ranked key leading (leadingRun before items).1 := by
  cases items with
  | nil => exact ⟨[], rfl, ranked_self .nil⟩
  | cons first rest =>
      -- what the order says along a run, said by the keys
      have keys {related : α → α → Bool} {R : α → α → Prop} [Trans R R R]
          (hr : ∀ a ∈ first :: rest, ∀ b ∈ first :: rest, related a b = true → R a b) :
          (first :: (run related first rest).1).Pairwise R := by
        have inside : first :: (run related first rest).1 ⊆ first :: rest := by
          refine List.cons_subset_cons first fun a ha => ?_
          rw [← run_append related first rest]
          exact List.mem_append_left _ ha
        exact ((isChain_run related first rest).imp_of_mem_imp fun a b ha hb =>
          hr a (inside ha) b (inside hb)).pairwise
      rw [leadingRun_cons]
      split
      · refine ⟨first :: (run (fun a b => !before b a) first rest).1, ?_, ranked_self ?_⟩
        · rw [List.cons_append, run_append]
        · refine keys (R := fun a b => key b ≤ key a) fun a ha b hb kept => ?_
          rw [Bool.not_eq_true', ← Bool.not_eq_true, hc b hb a ha] at kept
          exact not_lt.mp kept
      · refine ⟨first :: (run (fun a b => before b a) first rest).1, ?_, ranked_reverse ?_⟩
        · rw [List.cons_append, run_append]
        · exact keys fun a ha b hb => (hc b hb a ha).mp

/-- The sort ranks the items. -/
theorem ranked_sort (hc : Compares before key items) : Ranked key items (sort before items) := by
  have steps (back : List α) {known ranked : List α} (h : Ranked key known ranked)
      (hc : Compares before key (known ++ back)) :
      Ranked key (known ++ back)
        (back.foldl (fun ranked item => insert before item ranked) ranked) := by
    induction back generalizing known ranked with
    | nil => simpa using h
    | cons item back ih =>
        rw [List.append_cons] at hc ⊢
        exact ih (h.insert (hc.subset (List.subset_append_left _ _))) hc
  obtain ⟨leading, parts, h⟩ := ranked_leadingRun hc
  rw [parts] at hc
  have sorted := steps _ h hc
  rwa [← parts] at sorted

end CommitLens.Ranking
