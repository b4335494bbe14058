import CommitLens.Proofs.Text.Line
import CommitLens.Proofs.Text.Table
import CommitLens.Text.LowerCase

/-!
# Texts in lower case

The lower case form of a text is made character by character.  Small letters and marks
stay as they are and where they are, and no character becomes a line feed, which is seen
by going through the table.
-/

namespace CommitLens.Text

variable {text : String} {before word back : List Char} {c : Char}

/-! ## Characters -/

/-- Is the character its own lower case form, whatever is around it? -/
def IsSmall (c : Char) : Prop :=
  c.toNat < 128 ∧ c.toLower = c

instance (c : Char) : Decidable (IsSmall c) :=
  inferInstanceAs (Decidable (_ ∧ _))

theorem lowerBetween_of_ascii (h : c.toNat < 128) (before after : List Char) :
    lowerBetween before c after = [c.toLower] := by
  have notDotted : c ≠ 'İ' := by
    rintro rfl
    exact absurd h (by decide)
  have notSigma : c ≠ 'Σ' := by
    rintro rfl
    exact absurd h (by decide)
  simp [lowerBetween, notDotted, notSigma, lowerChar, h]

/-- A run that leads down ends above the line feed. -/
theorem lt_of_mem_lowerRuns {run : LowerRun} (h : run ∈ lowerRuns) (down : run.up = false) :
    10 < run.first - run.distance := by
  have lt := check_of_mem_table
    (fun run : LowerRun => run.up || decide (10 < run.first - run.distance)) ?_ h
  · simpa [down] using lt
  · repeat refine List.forall_mem_cons.mpr ⟨passes_of_eq_ofList rfl (by decide +kernel), ?_⟩
    exact fun _ h => nomatch h

theorem lt_of_lowered? {run : LowerRun} (h : run ∈ lowerRuns) {code lowered : Nat}
    (hc : 128 ≤ code) (hl : run.lowered? code = some lowered) : 10 < lowered := by
  unfold LowerRun.lowered? at hl
  split at hl
  · rename_i within
    obtain rfl := Option.some.inj hl
    split
    · omega
    · rename_i down
      have above := lt_of_mem_lowerRuns h (by simpa using down)
      omega
  · contradiction

theorem lowerChar_eq_lineFeed_iff : lowerChar c = '\n' ↔ c = '\n' := by
  constructor
  · intro h
    unfold lowerChar at h
    split at h
    · rename_i ascii
      have codes : ∀ n < 128, (Char.ofNat n).toLower = '\n' → n = 10 := by
        decide +kernel
      rw [← Char.ofNat_toNat c] at h
      rw [← Char.ofNat_toNat c, codes c.toNat ascii h]
    · split at h
      · rename_i wide lowered found
        obtain ⟨run, member, hl⟩ := Array.exists_of_findSome?_eq_some found
        have above := lt_of_lowered? member (by omega) hl
        have low := eq_of_ofNat_eq_lineFeed h
        omega
      · exact h
  · rintro rfl
    rfl

/-! ## Texts -/

theorem lowerFrom_of_ascii (h : ∀ c ∈ word, c.toNat < 128) (before : List Char) :
    lowerFrom before word = word.map Char.toLower := by
  induction word generalizing before with
  | nil => rfl
  | cons c rest ih =>
      rw [List.forall_mem_cons] at h
      rw [lowerFrom, lowerBetween_of_ascii h.1, ih h.2, List.map_cons, List.singleton_append]

theorem toList_lower (text : String) : (lower text).toList = lowerFrom [] text.toList := by
  unfold lower
  split
  · rename_i ascii
    have small : ∀ c ∈ text.toList, c.toNat < 128 := by simpa [isAscii] using ascii
    rw [lowerFrom_of_ascii small, String.toList_map]
  · rw [String.toList_ofList]

/-- What comes last is written in lower case behind the rest. -/
theorem exists_lowerFrom_append (front back before : List Char) :
    ∃ first, lowerFrom before (front ++ back) =
      first ++ lowerFrom (front.reverse ++ before) back := by
  induction front generalizing before with
  | nil => exact ⟨[], rfl⟩
  | cons c rest ih =>
      obtain ⟨first, hf⟩ := ih (c :: before)
      refine ⟨lowerBetween before c (rest ++ back) ++ first, ?_⟩
      rw [List.cons_append, lowerFrom, hf, List.append_assoc, List.reverse_cons,
        List.append_assoc, List.singleton_append]

theorem lowerFrom_small_append (h : ∀ c ∈ word, IsSmall c) (before back : List Char) :
    lowerFrom before (word ++ back) = word ++ lowerFrom (word.reverse ++ before) back := by
  induction word generalizing before with
  | nil => rfl
  | cons c rest ih =>
      rw [List.forall_mem_cons] at h
      rw [List.cons_append, lowerFrom, lowerBetween_of_ascii h.1.1, h.1.2, ih h.2]
      simp

/-- Small characters are found again in the lower case form of a text. -/
theorem exists_toList_lower (h : ∀ c ∈ word, IsSmall c) {front : List Char}
    (ht : text.toList = front ++ (word ++ back)) :
    ∃ first last, (lower text).toList = first ++ (word ++ last) := by
  obtain ⟨first, hf⟩ := exists_lowerFrom_append front (word ++ back) []
  exact ⟨first, _, by rw [toList_lower, ht, hf, lowerFrom_small_append h]⟩

theorem exists_toList_lower_of_start (h : ∀ c ∈ word, IsSmall c)
    (ht : text.toList = word ++ back) : ∃ last, (lower text).toList = word ++ last :=
  ⟨_, by rw [toList_lower, ht, lowerFrom_small_append h]⟩

/-- The one character that becomes two becomes no letters of ASCII. -/
theorem length_lowerFrom_of_ascii (h : ∀ c ∈ lowerFrom before word, c.toNat < 128) :
    (lowerFrom before word).length = word.length := by
  induction word generalizing before with
  | nil => rfl
  | cons c rest ih =>
      rw [lowerFrom, List.forall_mem_append] at h
      have one : (lowerBetween before c rest).length = 1 := by
        unfold lowerBetween
        split
        · rename_i dotted
          exact absurd (h.1 (Char.ofNat 0x307) (by simp [lowerBetween, dotted])) (by decide)
        · split <;> rfl
      rw [lowerFrom, List.length_append, one, ih h.2, List.length_cons, Nat.add_comm]

theorem lower_of_small {text : String} (h : ∀ c ∈ text.toList, IsSmall c) : lower text = text := by
  have same := lowerFrom_small_append h [] []
  rw [List.append_nil, lowerFrom, List.append_nil] at same
  rw [← String.toList_inj, toList_lower, same]

theorem mem_lowerFrom_lineFeed (h : '\n' ∈ lowerFrom before word) : '\n' ∈ word := by
  induction word generalizing before with
  | nil => exact h
  | cons c rest ih =>
      rw [lowerFrom, List.mem_append] at h
      rcases h with here | later
      · unfold lowerBetween at here
        split at here
        · exact absurd here (by decide)
        · split at here
          · split at here <;> exact absurd here (by decide)
          · rw [List.mem_singleton, eq_comm, lowerChar_eq_lineFeed_iff] at here
            exact here ▸ List.mem_cons_self
      · exact List.mem_cons_of_mem c (ih later)

/-- One line in lower case is one line. -/
theorem OneLine.lower (h : OneLine text) : OneLine (lower text) := by
  intro lineFeed
  rw [toList_lower] at lineFeed
  exact h (mem_lowerFrom_lineFeed lineFeed)

end CommitLens.Text
