import CommitLens.Proofs.Text.Line
import CommitLens.Proofs.Text.Table
import CommitLens.Text.Compatibility

/-!
# Line feeds and the compatibility normal form

No decomposition holds a line feed and nothing composes to one, which is seen by going
through the tables.  Main statement: the normal form of one line is one line.
-/

namespace CommitLens.Text.Compatibility

/-! ## Tables -/

/-- No decomposition and no composition has a line feed, or anything before it. -/
structure Tables.Plain (t : Tables) : Prop where
  single : ∀ entry ∈ t.singles, 10 < entry.2.2
  sequence : ∀ entry ∈ t.sequences, ∀ target ∈ entry.2, 10 < target
  pair : ∀ entry ∈ t.pairs, 10 < entry.1 ∧ 10 < entry.2.1 ∧ 10 < entry.2.2

theorem lt_of_mem_singles {entry : Nat × Nat × Nat} (h : entry ∈ singles) : 10 < entry.2.2 := by
  have lt := check_of_mem_table (fun entry => 10 < entry.2.2) ?_ h
  · simpa using lt
  · repeat refine List.forall_mem_cons.mpr ⟨passes_of_eq_ofList rfl (by decide +kernel), ?_⟩
    exact fun _ h => nomatch h

theorem lt_of_mem_sequences {entry : Nat × List Nat} (h : entry ∈ sequences) :
    ∀ target ∈ entry.2, 10 < target := by
  have lt := check_of_mem_table (fun entry => entry.2.all (10 < ·)) ?_ h
  · simpa using lt
  · repeat refine List.forall_mem_cons.mpr ⟨passes_of_eq_ofList rfl (by decide +kernel), ?_⟩
    exact fun _ h => nomatch h

theorem lt_of_mem_pairs {entry : Nat × Nat × Nat} (h : entry ∈ pairs) :
    10 < entry.1 ∧ 10 < entry.2.1 ∧ 10 < entry.2.2 := by
  have lt := check_of_mem_table
    (fun entry => 10 < entry.1 && 10 < entry.2.1 && 10 < entry.2.2) ?_ h
  · simpa [and_assoc] using lt
  · repeat refine List.forall_mem_cons.mpr ⟨passes_of_eq_ofList rfl (by decide +kernel), ?_⟩
    exact fun _ h => nomatch h

theorem plain_unicode : unicode.Plain :=
  ⟨fun _ => lt_of_mem_singles, fun _ => lt_of_mem_sequences, fun _ => lt_of_mem_pairs⟩

/-! ## Decomposition and composition -/

theorem lt_of_hangulParts? {code : Nat} {letters : List Nat} (h : hangulParts? code = some letters) :
    ∀ letter ∈ letters, 10 < letter := by
  unfold hangulParts? at h
  split at h
  · obtain rfl := Option.some.inj h
    intro letter hl
    split at hl
    · simp only [List.mem_cons, List.not_mem_nil, or_false] at hl
      omega
    · simp only [List.mem_append, List.mem_cons, List.not_mem_nil, or_false] at hl
      omega
  · contradiction

namespace Tables

variable {t : Tables}

theorem Plain.eq_of_mem_decompose (plain : t.Plain) {depth code : Nat}
    (h : 10 ∈ t.decompose depth code) : code = 10 := by
  induction depth generalizing code with
  | zero =>
      rw [decompose] at h
      exact (List.mem_singleton.mp h).symm
  | succ depth ih =>
      rw [decompose] at h
      split at h
      · exact absurd (lt_of_hangulParts? ‹_› 10 h) (by decide)
      · split at h
        · rename_i found
          have lt := plain.single _ (Array.mem_of_find?_eq_some found)
          have same := List.mem_singleton.mp h
          dsimp only at lt
          omega
        · split at h
          · rename_i found
            have lt := plain.sequence _ (Array.mem_of_find?_eq_some found)
            exact absurd (lt 10 h) (by decide)
          · split at h
            · rename_i found
              obtain ⟨first, second, _⟩ := plain.pair _ (Array.mem_of_find?_eq_some found)
              dsimp only at first second
              rcases List.mem_append.mp h with h | h
              · exact absurd (ih h) (by omega)
              · exact absurd (ih h) (by omega)
            · exact (List.mem_singleton.mp h).symm

theorem mem_insertMark {mark code : Nat} {codes : List Nat} :
    code ∈ t.insertMark mark codes ↔ code = mark ∨ code ∈ codes := by
  induction codes with
  | nil => simp [insertMark]
  | cons other rest ih =>
      rw [insertMark]
      split
      · rw [List.mem_cons, ih, List.mem_cons]
        tauto
      · rw [List.mem_cons]

theorem order_subset (codes : List Nat) : t.order codes ⊆ codes := by
  unfold order
  -- What is done and the marks that wait are among the codes.
  refine List.foldlRecOn
    (motive := fun state : List Nat × List Nat => state.1 ++ state.2 ⊆ codes) _ _
    (List.nil_subset codes) ?_
  intro state known code member other ho
  split at ho
  · rw [List.append_nil, List.mem_append, List.mem_singleton] at ho
    rcases ho with ho | rfl
    · exact known ho
    · exact member
  · rw [List.mem_append, mem_insertMark] at ho
    rcases ho with ho | rfl | ho
    · exact known (List.mem_append_left _ ho)
    · exact member
    · exact known (List.mem_append_right _ ho)

theorem Plain.lt_of_composePair? (plain : t.Plain) {first second composed : Nat}
    (h : t.composePair? first second = some composed) : 10 < composed := by
  unfold composePair? at h
  split at h
  · obtain rfl := Option.some.inj h
    omega
  · split at h
    · obtain rfl := Option.some.inj h
      omega
    · obtain ⟨entry, found, rfl⟩ := Option.map_eq_some_iff.mp h
      exact (plain.pair entry (Array.mem_of_find?_eq_some found)).2.2

theorem Plain.mem_of_mem_composeOnto (plain : t.Plain) {starter : Nat} {between codes : List Nat}
    (h : 10 ∈ t.composeOnto starter between codes) :
    10 = starter ∨ 10 ∈ between ∨ 10 ∈ codes := by
  fun_induction composeOnto t starter between codes with
  | case1 => simpa using h
  | case2 starter between code rest blocked composed found ih =>
      have lt : 10 < composed := by
        split at found
        · contradiction
        · exact plain.lt_of_composePair? found
      rcases ih h with same | h | h
      · omega
      · exact .inr (.inl h)
      · exact .inr (.inr (List.mem_cons_of_mem code h))
  | case3 starter between code rest blocked _ _ ih =>
      rcases List.mem_append.mp h with h | h
      · rcases List.mem_cons.mp h with h | h
        · exact .inl h
        · exact .inr (.inl (List.mem_reverse.mp h))
      · rcases ih h with h | h | h
        · exact .inr (.inr (h ▸ List.mem_cons_self))
        · contradiction
        · exact .inr (.inr (List.mem_cons_of_mem code h))
  | case4 starter between code rest blocked _ _ ih =>
      rcases ih h with h | h | h
      · exact .inl h
      · rcases List.mem_cons.mp h with h | h
        · exact .inr (.inr (h ▸ List.mem_cons_self))
        · exact .inr (.inl h)
      · exact .inr (.inr (List.mem_cons_of_mem code h))

theorem Plain.mem_of_mem_compose (plain : t.Plain) {codes : List Nat} (h : 10 ∈ t.compose codes) :
    10 ∈ codes := by
  induction codes with
  | nil => contradiction
  | cons code rest ih =>
      rw [compose] at h
      split at h
      · rcases plain.mem_of_mem_composeOnto h with h | h | h
        · exact h ▸ List.mem_cons_self
        · contradiction
        · exact List.mem_cons_of_mem code h
      · rcases List.mem_cons.mp h with h | h
        · exact h ▸ List.mem_cons_self
        · exact List.mem_cons_of_mem code (ih h)

theorem Plain.oneLine_normalize (plain : t.Plain) {text : String} (h : OneLine text) :
    OneLine (t.normalize text) := by
  unfold normalize
  split
  · exact h
  · rw [oneLine_ofList]
    intro lineFeed
    obtain ⟨code, hc, he⟩ := List.mem_map.mp lineFeed
    obtain rfl := eq_of_ofNat_eq_lineFeed he
    obtain ⟨codes, hm, hd⟩ :=
      List.mem_flatten.mp (order_subset _ (plain.mem_of_mem_compose hc))
    obtain ⟨c, member, rfl⟩ := List.mem_map.mp hm
    have same : c = '\n' := Char.toNat_inj.mp (plain.eq_of_mem_decompose hd)
    exact h (same ▸ member)

end Tables

/-- The normal form of one line is one line. -/
theorem oneLine_normalize {text : String} (h : OneLine text) : OneLine (normalize text) :=
  plain_unicode.oneLine_normalize h

end CommitLens.Text.Compatibility
