import CommitLens.Glob.Braces
import Mathlib.Data.List.Infix
import Mathlib.Tactic.Common

/-!
# What groups expand to

A pattern whose braces are in pairs has the shape of a tree, and what it stands for can
be told from the tree: the choices of its groups, combined.  Main statement: expanding
group after group, as texts that are put together and read again, comes to the same; and
it ends for every pattern.
-/

namespace CommitLens.Glob

/-! ## Braces in pairs -/

def isBrace (c : Char) : Bool :=
  c == '\x7b' || c == '\x7d'

theorem not_isBrace_iff {c : Char} : ¬isBrace c ↔ c ≠ '\x7b' ∧ c ≠ '\x7d' := by
  simp [isBrace]

theorem open_ne_close : ('\x7b' : Char) ≠ '\x7d' := by decide

/-- With `depth` groups open before it, a text closes no group that is not open. -/
def Contained (depth : Nat) (cs : List Char) : Prop :=
  ∀ front, front <+: cs → front.count '\x7d' ≤ front.count '\x7b' + depth

/-- Every closing brace closes a group of the text, and every group is closed. -/
structure Balanced (cs : List Char) : Prop where
  contained : Contained 0 cs
  count_eq : cs.count '\x7b' = cs.count '\x7d'

section Contained

variable {depth : Nat} {c : Char} {cs : List Char}

theorem contained_nil : Contained depth [] := by
  intro front h
  rw [List.prefix_nil.mp h]
  simp

theorem contained_cons_iff : Contained depth (c :: cs) ↔ ∀ front, front <+: cs →
    (c :: front).count '\x7d' ≤ (c :: front).count '\x7b' + depth := by
  constructor
  · exact fun h front hf => h (c :: front) (List.cons_prefix_cons.mpr ⟨rfl, hf⟩)
  · intro h front hf
    rcases List.prefix_cons_iff.mp hf with rfl | ⟨front, rfl, hfront⟩
    · simp
    · exact h front hfront

theorem contained_open_iff : Contained depth ('\x7b' :: cs) ↔ Contained (depth + 1) cs := by
  rw [contained_cons_iff]
  refine forall₂_congr fun front _ => ?_
  rw [List.count_cons_of_ne open_ne_close, List.count_cons_self]
  omega

theorem contained_close_iff :
    Contained depth ('\x7d' :: cs) ↔ ∃ outer, depth = outer + 1 ∧ Contained outer cs := by
  have count (front : List Char) (depth : Nat) :
      ('\x7d' :: front).count '\x7d' ≤ ('\x7d' :: front).count '\x7b' + depth ↔
        front.count '\x7d' + 1 ≤ front.count '\x7b' + depth := by
    rw [List.count_cons_of_ne open_ne_close.symm, List.count_cons_self]
  simp only [contained_cons_iff, count]
  constructor
  · intro h
    have first := h [] List.nil_prefix
    rw [List.count_nil, List.count_nil] at first
    refine ⟨depth - 1, by omega, fun front hf => ?_⟩
    have := h front hf
    omega
  · rintro ⟨outer, rfl, h⟩ front hf
    have := h front hf
    omega

theorem contained_plain_iff (plain : ¬isBrace c) :
    Contained depth (c :: cs) ↔ Contained depth cs := by
  obtain ⟨notOpen, notClose⟩ := not_isBrace_iff.mp plain
  rw [contained_cons_iff]
  refine forall₂_congr fun front _ => ?_
  rw [List.count_cons_of_ne notOpen, List.count_cons_of_ne notClose]

theorem Contained.mono {outer : Nat} (h : Contained depth cs) (hle : depth ≤ outer) :
    Contained outer cs :=
  fun front hf => Nat.le_trans (h front hf) (Nat.add_le_add_left hle _)

end Contained

/-- A text with its braces in pairs. -/
inductive BraceTree where
  | done
  | literal (c : Char) (plain : ¬isBrace c) (rest : BraceTree)
  | group (inside rest : BraceTree)

namespace BraceTree

def text : BraceTree → List Char
  | done => []
  | literal c _ rest => c :: rest.text
  | group inside rest => '\x7b' :: (inside.text ++ '\x7d' :: rest.text)

def append : BraceTree → BraceTree → BraceTree
  | done, tree => tree
  | literal c plain rest, tree => literal c plain (rest.append tree)
  | group inside rest, tree => group inside (rest.append tree)

theorem text_append (s t : BraceTree) : (s.append t).text = s.text ++ t.text := by
  induction s with
  | done => rfl
  | literal c plain rest ih => rw [append, text, ih, text, List.cons_append]
  | group inside rest _ ih => rw [append, text, ih, text]; simp

/-- How many groups there are, at any depth. -/
def groups : BraceTree → Nat
  | done => 0
  | literal _ _ rest => rest.groups
  | group inside rest => inside.groups + rest.groups + 1

theorem groups_append (s t : BraceTree) : (s.append t).groups = s.groups + t.groups := by
  induction s with
  | done => rw [append, groups, Nat.zero_add]
  | literal c plain rest ih => rw [append, groups, ih, groups]
  | group inside rest _ ih => rw [append, groups, ih, groups]; omega

theorem count_text (t : BraceTree) :
    t.text.count '\x7b' = t.groups ∧ t.text.count '\x7d' = t.groups := by
  induction t with
  | done => exact ⟨rfl, rfl⟩
  | literal c plain rest ih =>
      obtain ⟨notOpen, notClose⟩ := not_isBrace_iff.mp plain
      rw [text, List.count_cons_of_ne notOpen, List.count_cons_of_ne notClose]
      exact ih
  | group inside rest ihi ihr =>
      rw [text, List.count_cons_self, List.count_cons_of_ne open_ne_close, List.count_append,
        List.count_append, List.count_cons_self, List.count_cons_of_ne open_ne_close.symm, groups]
      omega

/-- Behind a tree as many groups are open as before it. -/
theorem contained_text_append_iff (t : BraceTree) (depth : Nat) (rest : List Char) :
    Contained depth (t.text ++ rest) ↔ Contained depth rest := by
  induction t generalizing depth rest with
  | done => rfl
  | literal c plain more ih => rw [text, List.cons_append, contained_plain_iff plain, ih]
  | group inside more ihi ihm =>
      rw [text, List.cons_append, List.append_assoc, List.cons_append, contained_open_iff, ihi,
        contained_close_iff]
      constructor
      · rintro ⟨_, h, hc⟩
        cases h
        exact (ihm _ _).mp hc
      · exact fun hc => ⟨depth, rfl, (ihm _ _).mpr hc⟩

theorem balanced_text (t : BraceTree) : Balanced t.text := by
  refine ⟨?_, t.count_text.1.trans t.count_text.2.symm⟩
  rw [← List.append_nil t.text, contained_text_append_iff]
  exact contained_nil

/-- Every text begins with a tree, up to its end, a brace that closes no group, or one
that opens a group which is never closed. -/
theorem exists_text_append (cs : List Char) :
    ∃ (t : BraceTree) (rest : List Char), cs = t.text ++ rest ∧
      (rest = [] ∨ (∃ after, rest = '\x7d' :: after) ∨
        ∃ after, rest = '\x7b' :: after ∧ Contained 0 after) := by
  induction hn : cs.length using Nat.strong_induction_on generalizing cs with
  | _ n ih =>
  cases cs with
  | nil => exact ⟨done, [], rfl, .inl rfl⟩
  | cons c cs =>
      subst hn
      obtain ⟨t, rest, rfl, hrest⟩ := ih cs.length (Nat.lt_succ_self _) cs rfl
      by_cases hclose : c = '\x7d'
      · exact ⟨done, _, rfl, .inr (.inl ⟨_, congrArg (· :: _) hclose⟩)⟩
      by_cases hopen : c = '\x7b'
      · subst hopen
        rcases hrest with rfl | ⟨after, rfl⟩ | ⟨after, rfl, hafter⟩
        · refine ⟨done, _, rfl, .inr (.inr ⟨_, rfl, ?_⟩)⟩
          exact (contained_text_append_iff t 0 []).mpr contained_nil
        · -- The tree is the inside of a group; what follows the group begins with one again.
          have shorter : after.length < ('\x7b' :: (t.text ++ '\x7d' :: after)).length := by
            simp only [List.length_cons, List.length_append]
            omega
          obtain ⟨more, rest, rfl, hrest⟩ := ih after.length shorter after rfl
          exact ⟨group t more, rest, by simp [text], hrest⟩
        · refine ⟨done, _, rfl, .inr (.inr ⟨_, rfl, ?_⟩)⟩
          rw [contained_text_append_iff, contained_open_iff]
          exact hafter.mono (Nat.zero_le 1)
      · exact ⟨literal c (not_isBrace_iff.mpr ⟨hopen, hclose⟩) t, rest, rfl, hrest⟩

end BraceTree

theorem balanced_iff {cs : List Char} : Balanced cs ↔ ∃ t : BraceTree, t.text = cs := by
  constructor
  · intro h
    obtain ⟨t, rest, rfl, rfl | ⟨after, rfl⟩ | ⟨after, rfl, hafter⟩⟩ :=
      BraceTree.exists_text_append cs
    · exact ⟨t, (List.append_nil _).symm⟩
    · have contained := (t.contained_text_append_iff 0 _).mp h.contained
      obtain ⟨outer, hout, _⟩ := contained_close_iff.mp contained
      exact absurd hout (Nat.succ_ne_zero outer).symm
    · have count := h.count_eq
      have closed := hafter after (List.prefix_refl after)
      rw [List.count_append, List.count_append, List.count_cons_self,
        List.count_cons_of_ne open_ne_close, t.count_text.1, t.count_text.2] at count
      omega
  · rintro ⟨t, rfl⟩
    exact t.balanced_text

/-! ## Cutting a group out -/

section Cut

variable {c : Char}

/-- Put characters before the inside of a group that was cut. -/
def putBefore (front : List Char) (parts : List Char × List Char) : List Char × List Char :=
  (front ++ parts.1, parts.2)

theorem cutGroup?_open (depth : Nat) (cs : List Char) :
    cutGroup? depth ('\x7b' :: cs) = (cutGroup? (depth + 1) cs).map (putBefore ['\x7b']) := rfl

theorem cutGroup?_close (depth : Nat) (cs : List Char) :
    cutGroup? (depth + 1) ('\x7d' :: cs) = (cutGroup? depth cs).map (putBefore ['\x7d']) := rfl

theorem cutGroup?_plain (plain : ¬isBrace c) (depth : Nat) (cs : List Char) :
    cutGroup? depth (c :: cs) = (cutGroup? depth cs).map (putBefore [c]) := by
  obtain ⟨notOpen, notClose⟩ := not_isBrace_iff.mp plain
  rw [cutGroup?, if_neg fun h => notClose h.1]
  simp only [if_neg notOpen, if_neg notClose]
  rfl

theorem cutGroup?_text_append (t : BraceTree) (depth : Nat) (rest : List Char) :
    cutGroup? depth (t.text ++ rest) = (cutGroup? depth rest).map (putBefore t.text) := by
  induction t generalizing depth rest with
  | done => exact Option.map_id'.symm
  | literal c plain more ih =>
      rw [BraceTree.text, List.cons_append, cutGroup?_plain plain, ih, Option.map_map]
      rfl
  | group inside more ihi ihm =>
      rw [BraceTree.text, List.cons_append, List.append_assoc, List.cons_append,
        cutGroup?_open, ihi, cutGroup?_close, ihm, Option.map_map, Option.map_map, Option.map_map]
      congr 1
      funext parts
      simp [putBefore]

theorem cutGroup?_of_contained {depth : Nat} {cs : List Char} (h : Contained depth cs) :
    cutGroup? depth cs = none := by
  induction cs generalizing depth with
  | nil => rfl
  | cons c cs ih =>
      by_cases hopen : c = '\x7b'
      · subst hopen
        rw [cutGroup?_open, ih (contained_open_iff.mp h), Option.map_none]
      by_cases hclose : c = '\x7d'
      · subst hclose
        obtain ⟨outer, rfl, hcs⟩ := contained_close_iff.mp h
        rw [cutGroup?_close, ih hcs, Option.map_none]
      · have plain := not_isBrace_iff.mpr ⟨hopen, hclose⟩
        rw [cutGroup?_plain plain, ih ((contained_plain_iff plain).mp h), Option.map_none]

theorem cutGroup?_eq_some {depth : Nat} {cs inside after : List Char}
    (h : cutGroup? depth cs = some (inside, after)) : cs = inside ++ '\x7d' :: after := by
  induction cs generalizing depth inside with
  | nil => contradiction
  | cons c cs ih =>
      rw [cutGroup?] at h
      split at h
      · rename_i hc
        cases h
        rw [hc.1, List.nil_append]
      · obtain ⟨⟨group, rest⟩, hcut, he⟩ := Option.map_eq_some_iff.mp h
        cases he
        rw [ih hcut, List.cons_append]

end Cut

/-! ## Cutting the inside at its commas -/

theorem options_ne_nil (depth : Nat) (cs : List Char) : options depth cs ≠ [] := by
  cases cs with
  | nil => simp [options]
  | cons c cs =>
      rw [options]
      split
      · simp
      · dsimp only
        split <;> simp

section Options

variable {c : Char} {depth : Nat}

theorem options_comma (cs : List Char) : options 0 (',' :: cs) = [] :: options 0 cs := rfl

/-- Put characters before the first option. -/
def extendFirst (front : List Char) (options : List (List Char)) : List (List Char) :=
  options.modifyHead (front ++ ·)

theorem options_cons (h : ¬(c = ',' ∧ depth = 0)) (cs : List Char) :
    options depth (c :: cs) = extendFirst [c] (options
      (if c = '\x7b' then depth + 1 else if c = '\x7d' then depth - 1 else depth) cs) := by
  rw [options, if_neg h]
  obtain ⟨first, more, he⟩ := List.exists_cons_of_ne_nil (options_ne_nil
    (if c = '\x7b' then depth + 1 else if c = '\x7d' then depth - 1 else depth) cs)
  dsimp only
  rw [he]
  rfl

theorem options_open (depth : Nat) (cs : List Char) :
    options depth ('\x7b' :: cs) = extendFirst ['\x7b'] (options (depth + 1) cs) :=
  options_cons (by simp) cs

theorem options_close (depth : Nat) (cs : List Char) :
    options (depth + 1) ('\x7d' :: cs) = extendFirst ['\x7d'] (options depth cs) :=
  options_cons (by simp) cs

theorem options_plain (plain : ¬isBrace c) (h : ¬(c = ',' ∧ depth = 0)) (cs : List Char) :
    options depth (c :: cs) = extendFirst [c] (options depth cs) := by
  obtain ⟨notOpen, notClose⟩ := not_isBrace_iff.mp plain
  rw [options_cons h, if_neg notOpen, if_neg notClose]

theorem extendFirst_extendFirst (front back : List Char) (options : List (List Char)) :
    extendFirst front (extendFirst back options) = extendFirst (front ++ back) options := by
  cases options <;> simp [extendFirst]

theorem of_mem_extendFirst {front option : List Char} {options : List (List Char)}
    (h : option ∈ extendFirst front options) :
    option ∈ options ∨ ∃ first ∈ options, option = front ++ first := by
  cases options with
  | nil => exact .inl h
  | cons first more =>
      rcases List.mem_cons.mp h with rfl | h
      · exact .inr ⟨first, List.mem_cons_self, rfl⟩
      · exact .inl (List.mem_cons_of_mem first h)

/-- Commas inside an inner group cut nothing. -/
theorem options_text_append (t : BraceTree) (depth : Nat) (rest : List Char) :
    options (depth + 1) (t.text ++ rest) = extendFirst t.text (options (depth + 1) rest) := by
  induction t generalizing depth rest with
  | done => cases h : options (depth + 1) rest <;> simp [BraceTree.text, extendFirst, h]
  | literal c plain more ih =>
      rw [BraceTree.text, List.cons_append, options_plain plain (by simp), ih,
        extendFirst_extendFirst]
      rfl
  | group inside more ihi ihm =>
      rw [BraceTree.text, List.cons_append, List.append_assoc, List.cons_append, options_open,
        ihi, options_close, ihm, extendFirst_extendFirst, extendFirst_extendFirst,
        extendFirst_extendFirst]
      simp

theorem sublist_of_mem_options {cs option : List Char} (h : option ∈ options depth cs) :
    option.Sublist cs := by
  induction cs generalizing depth option with
  | nil =>
      obtain rfl := List.mem_singleton.mp h
      exact List.Sublist.refl []
  | cons c cs ih =>
      by_cases hc : c = ',' ∧ depth = 0
      · obtain ⟨rfl, rfl⟩ := hc
        rcases List.mem_cons.mp h with rfl | h
        · exact List.nil_sublist _
        · exact (ih h).cons ','
      · rw [options_cons hc] at h
        rcases of_mem_extendFirst h with h | ⟨first, hfirst, rfl⟩
        · exact (ih h).cons c
        · exact (ih hfirst).cons_cons c

end Options

/-! ## The first group -/

section FirstGroup

variable {front rest : List Char}

theorem firstGroup?_of_notMem (h : '\x7b' ∉ front) : firstGroup? front = none := by
  have none : front.dropWhile (· != '\x7b') = [] := by
    rw [← List.append_nil front, List.dropWhile_append_of_pos]
    · rfl
    · exact fun c hc => bne_iff_ne.mpr fun he => h (he ▸ hc)
  simp only [firstGroup?, none]

theorem firstGroup?_append (h : '\x7b' ∉ front) (rest : List Char) :
    firstGroup? (front ++ '\x7b' :: rest) = (cutGroup? 0 rest).map fun (inside, after) =>
      ⟨front, options 0 inside, after⟩ := by
  have all : ∀ c ∈ front, (c != '\x7b') = true :=
    fun c hc => bne_iff_ne.mpr fun he => h (he ▸ hc)
  have before : (front ++ '\x7b' :: rest).takeWhile (· != '\x7b') = front := by
    simp [List.takeWhile_append_of_pos all]
  have behind : (front ++ '\x7b' :: rest).dropWhile (· != '\x7b') = '\x7b' :: rest := by
    simp [List.dropWhile_append_of_pos all]
  simp only [firstGroup?, before, behind]

theorem firstGroup?_text (h : '\x7b' ∉ front) (inside : BraceTree) (rest : List Char) :
    firstGroup? (front ++ '\x7b' :: (inside.text ++ '\x7d' :: rest)) =
      some ⟨front, options 0 inside.text, rest⟩ := by
  have here : cutGroup? 0 ('\x7d' :: rest) = some ([], rest) := rfl
  rw [firstGroup?_append h, cutGroup?_text_append, here, Option.map_some, Option.map_some]
  simp [putBefore]

theorem firstGroup?_eq_some {pattern : List Char} {group : Group}
    (h : firstGroup? pattern = some group) :
    ∃ inside, pattern = group.before ++ '\x7b' :: (inside ++ '\x7d' :: group.after) ∧
      group.options = options 0 inside := by
  by_cases hopen : '\x7b' ∈ pattern
  · obtain ⟨front, rest, rfl, hfront⟩ := List.eq_append_cons_of_mem hopen
    rw [firstGroup?_append hfront] at h
    obtain ⟨⟨inside, after⟩, hcut, rfl⟩ := Option.map_eq_some_iff.mp h
    exact ⟨inside, by rw [cutGroup?_eq_some hcut], rfl⟩
  · rw [firstGroup?_of_notMem hopen] at h
    contradiction

/-- Every pattern that is expanded in place of another has fewer opening braces. -/
theorem count_option_lt {pattern option : List Char} {group : Group}
    (h : firstGroup? pattern = some group) (ho : option ∈ group.options) :
    (group.before ++ option ++ group.after).count '\x7b' < pattern.count '\x7b' := by
  obtain ⟨inside, rfl, hoptions⟩ := firstGroup?_eq_some h
  have inner := (sublist_of_mem_options (hoptions ▸ ho)).count_le '\x7b'
  simp only [List.count_append, List.count_cons_self, List.count_cons_of_ne open_ne_close.symm]
  omega

end FirstGroup

/-! ## Expanding -/

theorem expandFrom_of_none {pattern : List Char} (h : firstGroup? pattern = none) (fuel : Nat) :
    expandFrom fuel pattern = [pattern] := by
  cases fuel with
  | zero => rfl
  | succ fuel => rw [expandFrom, h]

/-- Any fuel that is not below the number of opening braces gives the same. -/
theorem expandFrom_eq_of_count_le {pattern : List Char} {fuel fuel' : Nat}
    (h : pattern.count '\x7b' ≤ fuel) (h' : pattern.count '\x7b' ≤ fuel') :
    expandFrom fuel pattern = expandFrom fuel' pattern := by
  induction fuel generalizing fuel' pattern with
  | zero =>
      have absent : '\x7b' ∉ pattern := List.count_eq_zero.mp (Nat.le_zero.mp h)
      rw [expandFrom_of_none (firstGroup?_of_notMem absent),
        expandFrom_of_none (firstGroup?_of_notMem absent)]
  | succ fuel ih =>
      cases hg : firstGroup? pattern with
      | none => rw [expandFrom_of_none hg, expandFrom_of_none hg]
      | some group =>
          cases fuel' with
          | zero =>
              have absent : '\x7b' ∉ pattern := List.count_eq_zero.mp (Nat.le_zero.mp h')
              rw [firstGroup?_of_notMem absent] at hg
              contradiction
          | succ fuel' =>
              rw [expandFrom, expandFrom, hg]
              refine List.flatMap_congr fun option ho => ?_
              have fewer := count_option_lt hg ho
              exact ih (by omega) (by omega)

/-- Expand with as much fuel as it takes. -/
def expandAll (pattern : List Char) : List (List Char) :=
  expandFrom (pattern.count '\x7b') pattern

theorem expandAll_of_none {pattern : List Char} (h : firstGroup? pattern = none) :
    expandAll pattern = [pattern] :=
  expandFrom_of_none h _

theorem expandAll_of_some {pattern : List Char} {group : Group}
    (h : firstGroup? pattern = some group) :
    expandAll pattern = group.options.flatMap fun option =>
      expandAll (group.before ++ option ++ group.after) := by
  have more : expandAll pattern = expandFrom (pattern.count '\x7b' + 1) pattern :=
    expandFrom_eq_of_count_le (Nat.le_refl _) (Nat.le_succ _)
  rw [more, expandFrom, h]
  refine List.flatMap_congr fun option ho => ?_
  exact expandFrom_eq_of_count_le (Nat.le_of_lt (count_option_lt h ho)) (Nat.le_refl _)

/-! ## Trees and their choices -/

/-- Every text of the first list with every text of the second behind it. -/
def product (fronts backs : List (List Char)) : List (List Char) :=
  fronts.flatMap fun front => backs.map (front ++ ·)

theorem product_nil_left (backs : List (List Char)) : product [[]] backs = backs := by
  simp [product]

theorem product_assoc (a b c : List (List Char)) :
    product (product a b) c = product a (product b c) := by
  simp [product, List.flatMap_assoc, List.map_flatMap, List.flatMap_map, List.append_assoc,
    Function.comp_def]

theorem product_flatMap {α : Type} (items : List α) (f : α → List (List Char))
    (backs : List (List Char)) :
    product (items.flatMap f) backs = items.flatMap fun item => product (f item) backs :=
  List.flatMap_assoc

namespace BraceTree

/-- The options of a group with this inside: what stands between commas of its own. -/
def options : BraceTree → List BraceTree
  | done => [done]
  | literal c plain rest =>
      if c = ',' then done :: rest.options else rest.options.modifyHead (literal c plain)
  | group inside rest => rest.options.modifyHead (group inside)

theorem options_text (t : BraceTree) : Glob.options 0 t.text = t.options.map text := by
  induction t with
  | done => rfl
  | literal c plain rest ih =>
      rw [text, options]
      by_cases hc : c = ','
      · rw [if_pos hc, hc, options_comma, ih]
        rfl
      · rw [if_neg hc, options_plain plain fun h => hc h.1, ih]
        cases rest.options <;> simp [extendFirst, text]
  | group inside rest _ ih =>
      rw [text, options, options_open, options_text_append, options_close, ih,
        extendFirst_extendFirst, extendFirst_extendFirst]
      cases rest.options <;> simp [extendFirst, text]

theorem sublist_text_of_mem_options {t option : BraceTree} (h : option ∈ t.options) :
    option.text.Sublist t.text := by
  have ho : option.text ∈ Glob.options 0 t.text := by
    rw [options_text]
    exact List.mem_map_of_mem h
  exact sublist_of_mem_options ho

/-- What a tree stands for: a character is itself, a group is one of its options, and
one thing behind another is every choice for the first with every choice for the second. -/
def expansions : BraceTree → List (List Char)
  | done => [[]]
  | literal c _ rest => product [[c]] rest.expansions
  | group inside rest =>
      product (inside.options.attach.flatMap fun option => option.1.expansions) rest.expansions
termination_by t => t.text.length
decreasing_by
  · simp [text]
  · have := (sublist_text_of_mem_options option.2).length_le
    simp only [text, List.length_cons, List.length_append]
    omega
  · simp only [text, List.length_cons, List.length_append]
    omega

theorem expansions_group (inside rest : BraceTree) :
    (group inside rest).expansions =
      product (inside.options.flatMap expansions) rest.expansions := by
  have inner : (inside.options.attach.flatMap fun option => option.1.expansions) =
      (inside.options.attach.map Subtype.val).flatMap expansions :=
    (List.flatMap_map Subtype.val expansions _).symm
  rw [expansions, inner, List.attach_map_subtype_val]

theorem expansions_append (s t : BraceTree) :
    (s.append t).expansions = product s.expansions t.expansions := by
  induction s with
  | done => rw [append, expansions, product_nil_left]
  | literal c plain rest ih => rw [append, expansions, ih, expansions, product_assoc]
  | group inside rest _ ih => rw [append, expansions_group, ih, expansions_group, product_assoc]

theorem not_isBrace_of_mem_expansions (t : BraceTree) {e : List Char} (h : e ∈ t.expansions) :
    ∀ c ∈ e, ¬isBrace c := by
  have inProduct {fronts backs : List (List Char)}
      (hf : ∀ front ∈ fronts, ∀ c ∈ front, ¬isBrace c)
      (hb : ∀ back ∈ backs, ∀ c ∈ back, ¬isBrace c) :
      ∀ e ∈ product fronts backs, ∀ c ∈ e, ¬isBrace c := by
    intro e he
    obtain ⟨front, hfront, he⟩ := List.mem_flatMap.mp he
    obtain ⟨back, hback, rfl⟩ := List.mem_map.mp he
    exact List.forall_mem_append.mpr ⟨hf front hfront, hb back hback⟩
  induction t using expansions.induct generalizing e with
  | case1 =>
      rw [expansions] at h
      obtain rfl := List.mem_singleton.mp h
      exact fun c hc => nomatch hc
  | case2 c plain rest ih =>
      rw [expansions] at h
      exact inProduct (by simpa using plain) (fun _ => ih) e h
  | case3 inside rest ihi ihr =>
      rw [expansions_group] at h
      refine inProduct (fun front hf => ?_) (fun _ => ihr) e h
      obtain ⟨option, ho, hfront⟩ := List.mem_flatMap.mp hf
      exact ihi ⟨option, ho⟩ hfront

/-- Groups are expanded one after another, each in place, and all of it in the order in
which the choices are combined.  The induction is on the number of groups, which an
option in place of its group makes smaller. -/
theorem expandAll_text (n : Nat) {front : List Char} {t : BraceTree} (hn : t.groups < n)
    (h : '\x7b' ∉ front) : expandAll (front ++ t.text) = t.expansions.map (front ++ ·) := by
  induction n generalizing front t with
  | zero => exact absurd hn (Nat.not_lt_zero _)
  | succ n ih =>
      induction t generalizing front with
      | done =>
          rw [text, List.append_nil, expandAll_of_none (firstGroup?_of_notMem h), expansions]
          simp
      | literal c plain rest ihr =>
          have hc : '\x7b' ∉ front ++ [c] := by
            have : '\x7b' ≠ c := by
              rintro rfl
              exact plain rfl
            simp [h, this]
          have moved : front ++ text (literal c plain rest) = (front ++ [c]) ++ rest.text := by
            simp [text]
          rw [moved, ihr hn hc, expansions]
          simp [product]
      | group inside rest _ _ =>
          rw [text, expandAll_of_some (firstGroup?_text h inside rest.text)]
          dsimp only
          rw [options_text, List.flatMap_map, expansions_group, product_flatMap,
            List.map_flatMap]
          refine List.flatMap_congr fun option ho => ?_
          have fewer : option.groups ≤ inside.groups := by
            have := (sublist_text_of_mem_options ho).count_le '\x7b'
            rwa [option.count_text.1, inside.count_text.1] at this
          have glued : front ++ option.text ++ rest.text = front ++ (option.append rest).text := by
            rw [text_append, List.append_assoc]
          rw [groups] at hn
          rw [glued, ih (by rw [groups_append]; omega) h, expansions_append]

end BraceTree

/-! ## Patterns -/

theorem expandBraces_ofList (pattern : List Char) :
    expandBraces (String.ofList pattern) = (expandAll pattern).map String.ofList := by
  rw [expandBraces, String.toList_ofList, expandAll]

theorem expandBraces_text (t : BraceTree) :
    expandBraces (String.ofList t.text) = t.expansions.map String.ofList := by
  have whole : expandAll ([] ++ t.text) = t.expansions.map ([] ++ ·) :=
    BraceTree.expandAll_text (t.groups + 1) (Nat.lt_succ_self _) List.not_mem_nil
  rw [List.nil_append] at whole
  rw [expandBraces_ofList, whole]
  simp

theorem Balanced.exists_eq {pattern : String} (h : Balanced pattern.toList) :
    ∃ t : BraceTree, pattern = String.ofList t.text := by
  obtain ⟨t, ht⟩ := balanced_iff.mp h
  exact ⟨t, by rw [ht, String.ofList_toList]⟩

theorem expandBraces_append {x y : String} (hx : Balanced x.toList) (hy : Balanced y.toList) :
    expandBraces (x ++ y) =
      (expandBraces x).flatMap fun u => (expandBraces y).map fun v => u ++ v := by
  obtain ⟨s, rfl⟩ := hx.exists_eq
  obtain ⟨t, rfl⟩ := hy.exists_eq
  rw [← String.ofList_append, ← BraceTree.text_append]
  simp only [expandBraces_text, BraceTree.expansions_append, product]
  simp [List.map_flatMap, List.flatMap_map, Function.comp_def]

theorem expandBraces_of_some {pattern : String} {group : Group}
    (h : firstGroup? pattern.toList = some group) :
    expandBraces pattern = group.options.flatMap fun option =>
      expandBraces (String.ofList (group.before ++ option ++ group.after)) := by
  have step := congrArg (List.map String.ofList) (expandAll_of_some h)
  rw [← expandBraces_ofList, String.ofList_toList, List.map_flatMap] at step
  simpa only [expandBraces_ofList] using step

theorem expandBraces_of_none {pattern : String} (h : firstGroup? pattern.toList = none) :
    expandBraces pattern = [pattern] := by
  have step := congrArg (List.map String.ofList) (expandAll_of_none h)
  rw [← expandBraces_ofList, String.ofList_toList] at step
  simpa using step

/-- A pattern with its braces in pairs is a tree, and is expanded to what the tree
stands for.  For every pattern at all, one step of the expansion leaves fewer opening
braces in each pattern that is still to be expanded; it is the last one where the first
group has no end. -/
theorem expandBraces_combines :
    (∀ cs, Balanced cs ↔ ∃ t : BraceTree, t.text = cs) ∧
    (∀ t : BraceTree, expandBraces (String.ofList t.text) = t.expansions.map String.ofList) ∧
    (∀ pattern : String, Balanced pattern.toList → ∀ alternative ∈ expandBraces pattern,
      ∀ c ∈ alternative.toList, ¬isBrace c) ∧
    (∀ x y : String, Balanced x.toList → Balanced y.toList → expandBraces (x ++ y) =
      (expandBraces x).flatMap fun u => (expandBraces y).map fun v => u ++ v) ∧
    (∀ (pattern : String) (group : Group), firstGroup? pattern.toList = some group →
      (expandBraces pattern = group.options.flatMap fun option =>
        expandBraces (String.ofList (group.before ++ option ++ group.after))) ∧
      ∀ option ∈ group.options, (group.before ++ option ++ group.after).count '\x7b' <
        pattern.toList.count '\x7b') ∧
    (∀ pattern : String, firstGroup? pattern.toList = none →
      expandBraces pattern = [pattern]) ∧
    ∀ (pattern : String) (before after : List Char),
      pattern.toList = before ++ '\x7b' :: after → '\x7b' ∉ before → Contained 0 after →
      expandBraces pattern = [pattern] := by
  refine ⟨fun cs => balanced_iff, expandBraces_text, ?_, fun x y => expandBraces_append, ?_,
    fun pattern => expandBraces_of_none, ?_⟩
  · intro pattern h alternative ha
    obtain ⟨t, rfl⟩ := h.exists_eq
    rw [expandBraces_text] at ha
    obtain ⟨e, he, rfl⟩ := List.mem_map.mp ha
    rw [String.toList_ofList]
    exact t.not_isBrace_of_mem_expansions he
  · intro pattern group h
    exact ⟨expandBraces_of_some h, fun option => count_option_lt h⟩
  · intro pattern before after hp hbefore hafter
    refine expandBraces_of_none ?_
    rw [hp, firstGroup?_append hbefore, cutGroup?_of_contained hafter, Option.map_none]

example : expandBraces "a\x7bb,\x7bc,d\x7de\x7d,f" = ["ab,f", "ace,f", "ade,f"] := by decide

end CommitLens.Glob
