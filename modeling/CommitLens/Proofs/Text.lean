import CommitLens.Text.Blank
import Mathlib.Data.List.Infix

/-!
# Texts cut apart and replaced in

A text that was put together with separators comes apart at them again, if its
parts have none of their own.  A replacement needs no bound on its steps.
-/

namespace CommitLens.Text

section Members

-- There are finitely many characters, but a condition on some of them is not decided by
-- going through them all.
variable {p : Char → Prop} [DecidablePred p]

instance (priority := 1100) decidableForallMem (cs : List Char) : Decidable (∀ c ∈ cs, p c) :=
  List.decidableBAll p cs

instance (priority := 1100) decidableExistsMem (cs : List Char) : Decidable (∃ c ∈ cs, p c) :=
  List.decidableBEx p cs

end Members

theorem endsWith_iff {text last : String} :
    text.endsWith last = true ↔ last.toList <:+ text.toList := by
  rw [← String.endsWith_toSlice, String.Slice.endsWith_string_iff, String.copy_toSlice]

/-! ## Cutting -/

section Split

variable {separator : Char} {part : List Char}

theorem splitOnChar_of_notMem (h : separator ∉ part) : splitOnChar separator part = [part] := by
  induction part with
  | nil => rfl
  | cons c cs ih =>
      have hc : c ≠ separator := fun hc => h (hc ▸ List.mem_cons_self)
      rw [splitOnChar_cons, if_neg hc, ih fun hcs => h (List.mem_cons_of_mem c hcs)]

theorem splitOnChar_append_cons (front rest : List Char) :
    splitOnChar separator (front ++ separator :: rest) =
      splitOnChar separator front ++ splitOnChar separator rest := by
  induction front with
  | nil =>
      rw [List.nil_append, splitOnChar_cons, if_pos rfl, splitOnChar_nil, List.singleton_append]
  | cons c cs ih =>
      rw [List.cons_append, splitOnChar_cons, splitOnChar_cons, ih]
      by_cases hc : c = separator
      · rw [if_pos hc, if_pos hc, List.cons_append]
      · obtain ⟨part, more, hcs⟩ := List.exists_cons_of_ne_nil (splitOnChar_ne_nil separator cs)
        rw [if_neg hc, if_neg hc, hcs]
        rfl

theorem splitOnChar_append (h : separator ∉ part) (rest : List Char) :
    splitOnChar separator (part ++ separator :: rest) = part :: splitOnChar separator rest := by
  rw [splitOnChar_append_cons, splitOnChar_of_notMem h, List.singleton_append]

theorem separator_notMem_of_mem_splitOnChar {text : List Char}
    (h : part ∈ splitOnChar separator text) : separator ∉ part := by
  induction text generalizing part with
  | nil =>
      obtain rfl := List.mem_singleton.mp h
      exact List.not_mem_nil
  | cons c cs ih =>
      rw [splitOnChar_cons] at h
      by_cases hc : c = separator
      · rw [if_pos hc, List.mem_cons] at h
        rcases h with rfl | h
        · exact List.not_mem_nil
        · exact ih h
      · obtain ⟨first, more, hcs⟩ := List.exists_cons_of_ne_nil (splitOnChar_ne_nil separator cs)
        rw [if_neg hc, hcs] at h
        have inFirst : separator ∉ first := ih (hcs ▸ List.mem_cons_self)
        rcases List.mem_cons.mp h with rfl | h
        · exact List.not_mem_cons_of_ne_of_not_mem (Ne.symm hc) inFirst
        · exact ih (hcs ▸ List.mem_cons_of_mem first h)

theorem split_of_notMem {text : String} (h : separator ∉ text.toList) :
    split separator text = [text] := by
  rw [split, splitOnChar_of_notMem h, List.map_singleton, String.ofList_toList]

theorem split_append {before : String} (h : separator ∉ before.toList) (after : String) :
    split separator (before ++ String.singleton separator ++ after) =
      before :: split separator after := by
  have parts : (before ++ String.singleton separator ++ after).toList =
      before.toList ++ separator :: after.toList := by simp
  rw [split, parts, splitOnChar_append h, List.map_cons, String.ofList_toList, split]

theorem splitOnChar_eq_splitOn (separator : Char) (cs : List Char) :
    splitOnChar separator cs = cs.splitOn separator := by
  induction cs with
  | nil => rfl
  | cons c cs ih =>
      obtain ⟨part, rest, hp⟩ := List.exists_cons_of_ne_nil (splitOnChar_ne_nil separator cs)
      rw [splitOnChar_cons, hp, List.splitOn, List.splitOnP_cons_eq_if_modifyHead,
        ← List.splitOn, ← ih, hp]
      simp

end Split

theorem splitLineEnds_cons {c : Char} (h : isLineEnd c = false) (rest : List Char) :
    splitLineEnds (c :: rest) =
      match splitLineEnds rest with
      | [] => [[c]]
      | line :: more => (c :: line) :: more := by
  have notReturn : c ≠ '\r' := by
    rintro rfl
    exact absurd h (by decide)
  have step := splitLineEnds.eq_3 c rest fun _ hc _ => notReturn hc
  rw [if_neg (by simp [h])] at step
  exact step

theorem splitLineEnds_append {line : List Char} (h : ∀ c ∈ line, isLineEnd c = false)
    (rest : List Char) : splitLineEnds (line ++ '\n' :: rest) = line :: splitLineEnds rest := by
  induction line with
  | nil => simp [splitLineEnds, isLineEnd]
  | cons c cs ih =>
      rw [List.cons_append, splitLineEnds_cons (h c List.mem_cons_self),
        ih fun d hd => h d (List.mem_cons_of_mem c hd)]

/-- Lines that are each ended by a line feed come apart again. -/
theorem splitLineEnds_lines {lines : List (List Char)}
    (h : ∀ line ∈ lines, ∀ c ∈ line, isLineEnd c = false) :
    splitLineEnds (lines.flatMap (· ++ ['\n'])) = lines := by
  induction lines with
  | nil => rfl
  | cons line rest ih =>
      rw [List.flatMap_cons, List.append_assoc, List.singleton_append,
        splitLineEnds_append (h line List.mem_cons_self),
        ih fun l hl => h l (List.mem_cons_of_mem line hl)]

theorem splitLines_join {lines : List String}
    (h : ∀ line ∈ lines, ∀ c ∈ line.toList, isLineEnd c = false) :
    splitLines (String.join (lines.map (· ++ "\n"))) = lines := by
  have ended : (String.join (lines.map (· ++ "\n"))).toList =
      (lines.map String.toList).flatMap (· ++ ['\n']) := by
    simp [String.toList_join, List.flatMap_map]
  rw [splitLines, ended, splitLineEnds_lines]
  · simp
  · simpa using h

/-! ## Breaking -/

section Break

variable {mark before : List Char}

theorem breakAt?_mark_append (hm : mark ≠ []) (rest : List Char) :
    breakAt? mark (mark ++ rest) = some ([], rest) := by
  obtain ⟨c, mark, rfl⟩ := List.exists_cons_of_ne_nil hm
  have found : (c :: mark).isPrefixOf (c :: (mark ++ rest)) :=
    List.isPrefixOf_iff_prefix.mpr (List.prefix_append (c :: mark) rest)
  have behind : (c :: (mark ++ rest)).drop (c :: mark).length = rest := by simp
  rw [List.cons_append, breakAt?, if_pos found, behind]

theorem breakAt?_cons {c : Char} {cs : List Char} (h : ¬mark <+: c :: cs) :
    breakAt? mark (c :: cs) = (breakAt? mark cs).map fun (front, rest) => (c :: front, rest) := by
  rw [breakAt?, if_neg]
  rwa [List.isPrefixOf_iff_prefix]

/-- A text breaks at the mark that was put in, if none begins before it. -/
theorem breakAt?_append (hm : mark ≠ []) {rest : List Char}
    (h : ∀ back, back ≠ [] → back <:+ before → ¬mark <+: back ++ (mark ++ rest)) :
    breakAt? mark (before ++ (mark ++ rest)) = some (before, rest) := by
  induction before with
  | nil => exact breakAt?_mark_append hm rest
  | cons c cs ih =>
      have notHere : ¬mark <+: c :: (cs ++ (mark ++ rest)) :=
        h (c :: cs) (List.cons_ne_nil c cs) (List.suffix_refl _)
      have later := ih fun back hne hs => h back hne (hs.trans (List.suffix_cons c cs))
      rw [List.cons_append, breakAt?_cons notHere, later, Option.map_some]

/-- A text with a mark in its front breaks there. -/
theorem breakAt?_of_infix (h : mark <:+: before) (hm : mark ≠ []) (rest : List Char) :
    ∃ front back, before = front ++ (mark ++ back) ∧
      breakAt? mark (before ++ rest) = some (front, back ++ rest) := by
  induction before with
  | nil => exact absurd (List.infix_nil.mp h) hm
  | cons c cs ih =>
      by_cases here : mark <+: c :: cs
      · obtain ⟨back, hb⟩ := here
        refine ⟨[], back, hb.symm, ?_⟩
        rw [← hb, List.append_assoc, breakAt?_mark_append hm]
      · have notHere : ¬mark <+: c :: (cs ++ rest) := fun hp => here
          (List.prefix_of_prefix_length_le hp (List.prefix_append (c :: cs) rest) h.length_le)
        obtain ⟨front, back, rfl, hbreak⟩ := ih ((List.infix_cons_iff.mp h).resolve_left here)
        refine ⟨c :: front, back, rfl, ?_⟩
        rw [List.cons_append, breakAt?_cons notHere, hbreak, Option.map_some]

end Break

/-! ## Replacing -/

section Replace

variable {old new cs : List Char}

/-- Any bound that is not below the length gives the same. -/
theorem replaceFrom_eq_of_length_le (h : old ≠ []) {fuel fuel' : Nat} (hf : cs.length ≤ fuel)
    (hf' : cs.length ≤ fuel') : replaceFrom old new fuel cs = replaceFrom old new fuel' cs := by
  induction fuel generalizing fuel' cs with
  | zero =>
      obtain rfl := List.eq_nil_of_length_eq_zero (Nat.le_zero.mp hf)
      cases fuel' <;> rfl
  | succ fuel ih =>
      cases cs with
      | nil => cases fuel' <;> rfl
      | cons c cs =>
          obtain ⟨fuel', rfl⟩ : ∃ n, fuel' = n + 1 := Nat.exists_eq_add_of_le' (by
            simp only [List.length_cons] at hf'
            omega)
          have pos : 0 < old.length := List.length_pos_iff.mpr h
          have shorter : ((c :: cs).drop old.length).length ≤ cs.length := by
            rw [List.length_drop, List.length_cons]
            omega
          simp only [List.length_cons, Nat.add_le_add_iff_right] at hf hf'
          rw [replaceFrom, replaceFrom, ih (Nat.le_trans shorter hf) (Nat.le_trans shorter hf'),
            ih hf hf']

/-- Replace every occurrence of `old`, with a step for each character. -/
def replaceAll (old new cs : List Char) : List Char :=
  replaceFrom old new cs.length cs

theorem replaceAll_append (h : old ≠ []) (rest : List Char) :
    replaceAll old new (old ++ rest) = new ++ replaceAll old new rest := by
  obtain ⟨c, old, rfl⟩ := List.exists_cons_of_ne_nil h
  have found : (c :: old).isPrefixOf (c :: (old ++ rest)) :=
    List.isPrefixOf_iff_prefix.mpr (List.prefix_append (c :: old) rest)
  have behind : (c :: (old ++ rest)).drop (c :: old).length = rest := by simp
  unfold replaceAll
  rw [List.cons_append, List.length_cons, replaceFrom, if_pos found, behind]
  rw [replaceFrom_eq_of_length_le h (by simp) (Nat.le_refl _)]

theorem replaceAll_cons {c : Char} (h : ¬old <+: c :: cs) :
    replaceAll old new (c :: cs) = c :: replaceAll old new cs := by
  unfold replaceAll
  rw [List.length_cons, replaceFrom, if_neg]
  rwa [List.isPrefixOf_iff_prefix]

end Replace

/-- A character that is written as often by the new text as by the old one is as
frequent as before. -/
theorem count_replaceFrom {old new : List Char} {x : Char} (h : old.count x = new.count x)
    (fuel : Nat) (cs : List Char) : (replaceFrom old new fuel cs).count x = cs.count x := by
  induction fuel generalizing cs with
  | zero => rfl
  | succ fuel ih =>
      cases cs with
      | nil => rfl
      | cons c cs =>
          rw [replaceFrom]
          split
          · rename_i found
            obtain ⟨rest, hr⟩ := List.isPrefixOf_iff_prefix.mp found
            rw [← hr, List.drop_left, List.count_append, List.count_append, ih, h]
          · rw [List.count_cons, List.count_cons, ih]

theorem count_replace {old new : String} {x : Char}
    (h : old.toList.count x = new.toList.count x) (text : String) :
    (replace text old new).toList.count x = text.toList.count x := by
  rw [replace, String.toList_ofList, count_replaceFrom h]

theorem toList_replace {old : String} (h : old.toList ≠ []) (text new : String) :
    (replace text old new).toList = replaceAll old.toList new.toList text.toList := by
  have enough : text.toList.length ≤ text.length + 1 := by
    rw [String.length_toList]
    exact Nat.le_succ _
  unfold replace replaceAll
  rw [String.toList_ofList]
  exact replaceFrom_eq_of_length_le h enough (Nat.le_refl _)

end CommitLens.Text
