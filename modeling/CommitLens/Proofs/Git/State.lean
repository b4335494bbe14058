import CommitLens.Proofs.Git.Listing
import CommitLens.Proofs.Git.Repository

/-!
# States written and read

How Git writes the state of the working tree: a line for each entry, with a code of
two letters, a space, and a path, or two paths with an arrow between them.  A path
with spaces stands in quotes, so an arrow in a path is not one between paths; the
reader takes the first arrow all the same.  Main statement: the listing is read back
exactly if no path before an arrow has an arrow of its own.
-/

namespace CommitLens

open Text

namespace Git

/-! ## Paths in quotes -/

/-- A path as a listing of states has it. -/
def quoteSpaced (path : String) : String :=
  if path.toList.any fun c => isEscaped c || c == ' ' then
    "\"" ++ String.ofList (escape path.toList) ++ "\""
  else path

theorem unquote_quoteSpaced (path : String) : unquote (quoteSpaced path) = path := by
  unfold quoteSpaced
  split
  · rw [unquote_quotes_escape, String.ofList_toList]
  · rename_i plain
    simp only [List.any_eq_true, Bool.or_eq_true, not_exists, not_and, not_or] at plain
    exact unquote_of_not_isEscaped fun c hc => (plain c hc).1

example : quoteSpaced "a \"b" = "\"a \\\"b\"" := by decide

theorem mem_quoteSpaced {path : String} {c : Char} (h : c ∈ (quoteSpaced path).toList) :
    isEscaped c ∨ c ∈ path.toList := by
  unfold quoteSpaced at h
  split at h
  · exact mem_quotes_escape h
  · exact .inr h

/-! ## Marks in quotes -/

section Mark

variable {mark : List Char}

/-- Escaping neither makes nor breaks a mark without quotes and backslashes. -/
theorem prefix_escape_iff (plain : ∀ c ∈ mark, ¬isEscaped c) (cs : List Char) :
    mark <+: escape cs ↔ mark <+: cs := by
  induction cs generalizing mark with
  | nil => rfl
  | cons c cs ih =>
      cases mark with
      | nil => simp
      | cons m mark =>
          have hm : ¬isEscaped m := plain m List.mem_cons_self
          by_cases h : isEscaped c
          · rw [escape_cons_of_isEscaped h, List.cons_prefix_cons, List.cons_prefix_cons]
            constructor
            · rintro ⟨rfl, _⟩
              exact absurd rfl hm
            · rintro ⟨rfl, _⟩
              exact absurd h hm
          · rw [escape_cons_of_not_isEscaped h, List.cons_prefix_cons, List.cons_prefix_cons,
              ih fun d hd => plain d (List.mem_cons_of_mem m hd)]

theorem infix_escape_iff (hm : mark ≠ []) (plain : ∀ c ∈ mark, ¬isEscaped c) (cs : List Char) :
    mark <:+: escape cs ↔ mark <:+: cs := by
  induction cs with
  | nil => rfl
  | cons c cs ih =>
      have here : mark <:+: c :: cs ↔ mark <+: c :: cs ∨ mark <:+: cs := List.infix_cons_iff
      rw [here, ← ih, ← prefix_escape_iff plain (c :: cs)]
      by_cases h : isEscaped c
      · have notThere : ¬mark <+: c :: escape cs := by
          obtain ⟨m, mark, rfl⟩ := List.exists_cons_of_ne_nil hm
          intro hp
          obtain rfl := (List.cons_prefix_cons.mp hp).1
          exact plain m List.mem_cons_self h
        have behind : mark <:+: c :: escape cs ↔ mark <:+: escape cs :=
          List.infix_cons_iff.trans (or_iff_right notThere)
        rw [escape_cons_of_isEscaped h, List.infix_cons_iff, behind]
      · rw [escape_cons_of_not_isEscaped h, List.infix_cons_iff]

theorem infix_quoteSpaced_iff (hm : mark ≠ []) (plain : ∀ c ∈ mark, ¬isEscaped c)
    (path : String) : mark <:+: (quoteSpaced path).toList ↔ mark <:+: path.toList := by
  have noQuote : '"' ∉ mark := fun h => plain '"' h rfl
  unfold quoteSpaced
  split
  · have notFirst : ¬mark <+: '"' :: (escape path.toList ++ ['"']) := by
      obtain ⟨m, mark, rfl⟩ := List.exists_cons_of_ne_nil hm
      intro hp
      exact noQuote ((List.cons_prefix_cons.mp hp).1 ▸ List.mem_cons_self)
    have notLast : ¬mark <:+ escape path.toList ++ ['"'] := by
      intro hs
      obtain ⟨front, rfl, _⟩ := (List.suffix_concat_iff.mp hs).resolve_left hm
      exact noQuote List.mem_concat_self
    rw [toList_quotes, List.infix_cons_iff, List.infix_concat_iff, infix_escape_iff hm plain]
    simp only [notFirst, notLast, false_or]
  · rfl

end Mark

/-! ## The arrow between two paths -/

/-- What stands between the two paths of a line. -/
def arrow : List Char :=
  " -> ".toList

theorem arrow_ne_nil : arrow ≠ [] := by decide

theorem not_isEscaped_of_mem_arrow : ∀ c ∈ arrow, ¬isEscaped c := by
  simp [arrow, isEscaped]

/-- The end of a path in quotes has the closing one; without quotes there is no space. -/
theorem mem_of_suffix_quoteSpaced {path : String} {back : List Char}
    (h : back <:+ (quoteSpaced path).toList) (hne : back ≠ []) : '"' ∈ back ∨ ' ' ∉ back := by
  unfold quoteSpaced at h
  split at h
  · rw [toList_quotes, ← List.cons_append] at h
    obtain ⟨front, rfl, _⟩ := (List.suffix_concat_iff.mp h).resolve_left hne
    exact .inl List.mem_concat_self
  · rename_i plain
    refine .inr fun hspace => plain ?_
    exact List.any_eq_true.mpr ⟨' ', h.mem hspace, rfl⟩

/-- An arrow behind a path is found, if the path has none. -/
theorem breakAt?_arrow {path : String} (h : ¬arrow <:+: path.toList) (rest : List Char) :
    breakAt? arrow ((quoteSpaced path).toList ++ (arrow ++ rest)) =
      some ((quoteSpaced path).toList, rest) := by
  refine breakAt?_append arrow_ne_nil fun back hne hs hp => ?_
  rcases List.prefix_or_prefix_of_prefix hp (List.prefix_append back _) with inside | across
  · have whole : arrow <:+: (quoteSpaced path).toList := inside.isInfix.trans hs.isInfix
    exact h ((infix_quoteSpaced_iff arrow_ne_nil not_isEscaped_of_mem_arrow path).mp whole)
  · -- The arrow would begin in the path and end behind it.
    rcases mem_of_suffix_quoteSpaced hs hne with quoted | plain
    · exact absurd (across.mem quoted) (by decide)
    · have first : back.head hne = ' ' := across.head hne
      exact plain (first ▸ List.head_mem hne)

/-! ## Characters that quoting keeps -/

theorem count_escape {x : Char} (h : ¬isEscaped x) (cs : List Char) :
    (escape cs).count x = cs.count x := by
  have notBackslash : '\\' ≠ x := (not_isEscaped_iff.mp h).2.symm
  induction cs with
  | nil => rfl
  | cons c cs ih =>
      by_cases hc : isEscaped c
      · rw [escape_cons_of_isEscaped hc, List.count_cons_of_ne notBackslash, List.count_cons,
          List.count_cons, ih]
      · rw [escape_cons_of_not_isEscaped hc, List.count_cons, List.count_cons, ih]

theorem count_quoteSpaced {x : Char} (h : ¬isEscaped x) (path : String) :
    (quoteSpaced path).toList.count x = path.toList.count x := by
  have notQuote : '"' ≠ x := (not_isEscaped_iff.mp h).1.symm
  unfold quoteSpaced
  split
  · rw [toList_quotes, List.count_cons_of_ne notQuote, List.count_append, count_escape h,
      List.count_singleton, if_neg (by simpa using notQuote), Nat.add_zero]
  · rfl

theorem count_unquote {x : Char} (h : ¬isEscaped x) (path : String) :
    (unquote path).toList.count x = path.toList.count x := by
  obtain ⟨notQuote, notBackslash⟩ := not_isEscaped_iff.mp h
  unfold unquote
  split
  · rename_i rest hpath
    split
    · rename_i last
      obtain ⟨inside, rfl⟩ := List.getLast?_eq_some_iff.mp (eq_of_beq last)
      rw [count_replace, count_replace, hpath]
      · simp [notQuote.symm]
      · simp [notQuote.symm, notBackslash.symm]
      · simp [notBackslash.symm]
    · rfl
  · rfl

/-! ## Changes of different paths -/

/-- Put a change before others unless they have its path. -/
def addByPath (found : List ListedChange) (change : ListedChange) : List ListedChange :=
  if found.any fun other => other.path == change.path then found else change :: found

theorem firstByPath_eq (changes : List ListedChange) :
    firstByPath changes = (changes.foldl addByPath []).reverse := rfl

theorem addByPath_sublist (found : List ListedChange) (change : ListedChange) :
    (addByPath found change).Sublist (change :: found) := by
  unfold addByPath
  split
  · exact List.sublist_cons_self change found
  · exact List.Sublist.refl _

theorem addByPath_of_new {found : List ListedChange} {change : ListedChange}
    (h : ∀ other ∈ found, other.path ≠ change.path) :
    addByPath found change = change :: found :=
  if_neg (by simpa using h)

theorem firstByPath_sublist (changes : List ListedChange) :
    (firstByPath changes).Sublist changes := by
  have run : ∀ found, (changes.foldl addByPath found).Sublist (changes.reverse ++ found) := by
    induction changes with
    | nil => exact fun found => List.Sublist.refl found
    | cons change rest ih =>
        intro found
        have step := (addByPath_sublist found change).append_left rest.reverse
        rw [List.foldl_cons, List.reverse_cons, List.append_assoc, List.singleton_append]
        exact (ih _).trans step
  rw [firstByPath_eq]
  simpa using (run []).reverse

theorem firstByPath_of_nodup {changes : List ListedChange}
    (h : (changes.map (·.path)).Nodup) : firstByPath changes = changes := by
  have run : ∀ found, (∀ change ∈ changes, ∀ other ∈ found, other.path ≠ change.path) →
      changes.foldl addByPath found = changes.reverse ++ found := by
    induction changes with
    | nil => exact fun _ _ => rfl
    | cons change rest ih =>
        intro found apart
        rw [List.map_cons, List.nodup_cons] at h
        rw [List.foldl_cons, addByPath_of_new (apart change List.mem_cons_self), ih h.2,
          List.reverse_cons, List.append_assoc, List.singleton_append]
        intro later hl other ho
        rcases List.mem_cons.mp ho with rfl | ho
        · exact fun he => h.1 (he ▸ List.mem_map_of_mem hl)
        · exact apart later (List.mem_cons_of_mem change hl) other ho
  rw [firstByPath_eq, run [] (by simp), List.append_nil, List.reverse_reverse]

end Git

/-! ## Entries -/

/-- The two letters of a state; one of them may be a space. -/
structure StateCode where
  index : Char
  tree : Char
  indexLetter : index = ' ' ∨ isBlank index = false
  treeLetter : tree = ' ' ∨ isBlank tree = false
  marked : index ≠ ' ' ∨ tree ≠ ' '

/-- The letter that says what happened to a file: `?` for one that is not tracked, the
letter for the index if it is one, and else the letter for the tree. -/
def StateCode.primary (code : StateCode) : Char :=
  if code.index = '?' ∧ code.tree = '?' then '?'
  else if code.index ≠ ' ' ∧ code.index ≠ '?' then code.index
  else code.tree

/-- An entry of a listing of states. -/
structure StateEntry where
  code : StateCode
  path : PlainPath
  present : path.text ≠ ""
  previous : Option PlainPath
  moved : previous.isSome ↔ code.primary = 'R' ∨ code.primary = 'C'

namespace StateEntry

/-- The path, or both paths. -/
def name (entry : StateEntry) : String :=
  match entry.previous with
  | none => Git.quoteSpaced entry.path.text
  | some old => Git.quoteSpaced old.text ++ " -> " ++ Git.quoteSpaced entry.path.text

def line (entry : StateEntry) : String :=
  String.ofList [entry.code.index, entry.code.tree, ' '] ++ entry.name

/-- The change that an entry tells of. -/
def change (entry : StateEntry) : ListedChange :=
  ⟨entry.path.text, some entry.code.primary, entry.previous.map (·.text)⟩

def listing (entries : List StateEntry) : String :=
  String.join (entries.map fun entry => entry.line ++ "\n")

/-- The first arrow in the line of an entry is the one between its paths. -/
def Separable (entry : StateEntry) : Prop :=
  ∀ old ∈ entry.previous, ¬" -> ".toList <:+: old.text.toList

/-! ### Lines -/

theorem primaryStatus_eq (code : StateCode) :
    Git.primaryStatus code.index code.tree = code.primary := by
  unfold Git.primaryStatus StateCode.primary
  by_cases hs : code.index = ' '
  · simp [hs]
  · by_cases hq : code.index = '?'
    · by_cases ht : code.tree = '?' <;> simp [hq, ht]
    · simp [hs, hq]

theorem hasPreviousPath_primary (entry : StateEntry) :
    Git.hasPreviousPath (some entry.code.primary) = entry.previous.isSome := by
  rw [Bool.eq_iff_iff, entry.moved]
  simp [Git.hasPreviousPath]

theorem toList_line (entry : StateEntry) :
    entry.line.toList = entry.code.index :: entry.code.tree :: ' ' :: entry.name.toList := by
  simp [line]

theorem toList_name_of_some {entry : StateEntry} {old : PlainPath}
    (h : entry.previous = some old) :
    entry.name.toList = (Git.quoteSpaced old.text).toList ++
      (Git.arrow ++ (Git.quoteSpaced entry.path.text).toList) := by
  simp [name, h, Git.arrow]

theorem toList_name_ne_nil (entry : StateEntry) : entry.name.toList ≠ [] := by
  cases h : entry.previous with
  | none =>
      have present := entry.present
      unfold name Git.quoteSpaced
      rw [h]
      dsimp only
      split
      · simp
      · simpa using present
  | some old =>
      rw [toList_name_of_some h]
      simp [Git.arrow]

theorem isAllBlank_line (entry : StateEntry) : isAllBlank entry.line = false := by
  rw [isAllBlank, toList_line, List.all_cons, List.all_cons]
  rcases entry.code.marked with marked | marked
  · rw [entry.code.indexLetter.resolve_left marked, Bool.false_and]
  · rw [entry.code.treeLetter.resolve_left marked, Bool.false_and, Bool.and_false]

/-- With two paths to be read, a line is broken at its first arrow. -/
theorem readState?_line (entry : StateEntry) :
    Git.readState? entry.line = some (match entry.previous.isSome,
        breakAt? Git.arrow entry.name.toList with
      | true, some (old, new) => ⟨Git.unquote (String.ofList new), some entry.code.primary,
          some (Git.unquote (String.ofList old))⟩
      | _, _ => ⟨Git.unquote entry.name, some entry.code.primary, none⟩) := by
  unfold Git.readState?
  rw [toList_line]
  dsimp only
  rw [isAllBlank_line, Bool.or_false, if_neg (by simpa using entry.toList_name_ne_nil),
    primaryStatus_eq, hasPreviousPath_primary, String.ofList_toList]
  cases entry.previous.isSome with
  | false => rfl
  | true =>
      show (match true, breakAt? Git.arrow entry.name.toList with
        | true, some (old, new) => some _
        | _, _ => some _) = _
      cases breakAt? Git.arrow entry.name.toList <;> rfl

theorem readState?_line_of_separable {entry : StateEntry} (h : entry.Separable) :
    Git.readState? entry.line = some entry.change := by
  rw [readState?_line]
  cases hprevious : entry.previous with
  | none => simp [name, change, hprevious, Git.unquote_quoteSpaced]
  | some old =>
      have apart := Git.breakAt?_arrow (h old hprevious)
        (Git.quoteSpaced entry.path.text).toList
      rw [toList_name_of_some hprevious, apart]
      simp [change, hprevious, Git.unquote_quoteSpaced]

/-- With an arrow in the old path, the new one that is read has one arrow more than the
real one, as unquoting takes no arrow away. -/
theorem readState?_line_ne {entry : StateEntry} (h : ¬entry.Separable) :
    Git.readState? entry.line ≠ some entry.change := by
  obtain ⟨old, hprevious, harrow⟩ : ∃ old, entry.previous = some old ∧
      Git.arrow <:+: old.text.toList := by
    simpa [Separable, Git.arrow] using h
  have hquoted : Git.arrow <:+: (Git.quoteSpaced old.text).toList :=
    (Git.infix_quoteSpaced_iff Git.arrow_ne_nil Git.not_isEscaped_of_mem_arrow _).mpr harrow
  obtain ⟨front, back, _, hbreak⟩ := breakAt?_of_infix hquoted Git.arrow_ne_nil
    (Git.arrow ++ (Git.quoteSpaced entry.path.text).toList)
  rw [readState?_line, toList_name_of_some hprevious, hbreak, hprevious]
  intro he
  have hpath : Git.unquote (String.ofList
      (back ++ (Git.arrow ++ (Git.quoteSpaced entry.path.text).toList))) = entry.path.text :=
    congrArg ListedChange.path (Option.some.inj he)
  have tip : ¬Git.isEscaped '>' := by decide
  have count := congrArg (fun text => text.toList.count '>') hpath
  simp only [Git.count_unquote tip, String.toList_ofList, List.count_append,
    Git.count_quoteSpaced tip] at count
  have one : Git.arrow.count '>' = 1 := by decide
  omega

theorem readState?_line_eq_iff (entry : StateEntry) :
    Git.readState? entry.line = some entry.change ↔ entry.Separable :=
  ⟨fun h => by_contra fun hs => readState?_line_ne hs h, readState?_line_of_separable⟩

/-! ### Listings -/

theorem isLineEnd_line (entry : StateEntry) : ∀ c ∈ entry.line.toList, isLineEnd c = false := by
  have quoted (path : PlainPath) :
      ∀ c ∈ (Git.quoteSpaced path.text).toList, isLineEnd c = false := by
    intro c hc
    rcases Git.mem_quoteSpaced hc with escaped | hc
    · exact (Git.isInner_of_isEscaped escaped).2
    · exact (Git.isInner_of_isPlain (path.plain c hc)).2
  have letter {c : Char} (h : c = ' ' ∨ isBlank c = false) : isLineEnd c = false := by
    rcases h with rfl | visible
    · rfl
    · exact (Git.isInner_of_visible visible).2
  have inName : ∀ c ∈ entry.name.toList, isLineEnd c = false := by
    cases h : entry.previous with
    | none => simpa [name, h] using quoted entry.path
    | some old =>
        rw [toList_name_of_some h, List.forall_mem_append, List.forall_mem_append]
        exact ⟨quoted old, by simp [Git.arrow, isLineEnd], quoted entry.path⟩
  rw [toList_line, List.forall_mem_cons, List.forall_mem_cons, List.forall_mem_cons]
  exact ⟨letter entry.code.indexLetter, letter entry.code.treeLetter, rfl, inName⟩

theorem splitLines_listing (entries : List StateEntry) :
    splitLines (listing entries) = entries.map line := by
  have lines : listing entries = String.join ((entries.map line).map (· ++ "\n")) := by
    rw [listing, List.map_map]
    rfl
  rw [lines, splitLines_join]
  simpa using fun entry _ => isLineEnd_line entry

theorem readStates_listing_eq_iff {entries : List StateEntry}
    (distinct : (entries.map (·.path.text)).Nodup) :
    Git.readStates (listing entries) = entries.map change ↔
      ∀ entry ∈ entries, entry.Separable := by
  have each : entries.filterMap (Git.readState? ∘ line) = entries.map change ↔
      ∀ entry ∈ entries, entry.Separable := by
    rw [List.filterMap_eq_map_iff_forall_eq_some]
    exact forall₂_congr fun entry _ => readState?_line_eq_iff entry
  rw [← each, Git.readStates, splitLines_listing, List.filterMap_map]
  constructor
  · -- Changes with a path that was read before are left out, but there is none to spare.
    intro h
    have all : (entries.filterMap (Git.readState? ∘ line)).length ≤
        (Git.firstByPath (entries.filterMap (Git.readState? ∘ line))).length := by
      rw [h, List.length_map]
      exact List.length_filterMap_le _ _
    exact ((Git.firstByPath_sublist _).eq_of_length_le all).symm.trans h
  · intro h
    rw [h]
    refine Git.firstByPath_of_nodup ?_
    rw [List.map_map]
    exact distinct

end StateEntry

namespace Repository

variable {repository : Repository} {world : World}

/-- With every path listed once, the state of the working tree is what Git was asked to
list, unless the path before an arrow has an arrow of its own. -/
theorem states_result_eq_iff {entries : List StateEntry} {errors : String}
    (distinct : (entries.map (·.path.text)).Nodup)
    (listed : (repository.run ["status", "--porcelain", "--untracked-files=all"]).result world =
      .ok (0, StateEntry.listing entries, errors)) :
    repository.states.result world = .ok (entries.map StateEntry.change) ↔
      ∀ entry ∈ entries, entry.Separable := by
  have read : repository.states.result world =
      .ok (Git.readStates (StateEntry.listing entries)) := by
    rw [states, read_output_result, output, Session.result_bind_of_ok listed]
    rfl
  rw [read, Except.ok.injEq]
  exact StateEntry.readStates_listing_eq_iff distinct

/-- An arrow in a path behind the arrow does no harm. -/
theorem states_result_eq_iff_spaced :
    let entries : List StateEntry :=
      [⟨⟨'R', 'M', by decide, by decide, by decide⟩,
          ⟨"x -> y", List.all_eq_true.mp (by decide)⟩, by decide,
          some ⟨"old \"name\"", List.all_eq_true.mp (by decide)⟩, by decide⟩,
        ⟨⟨'?', '?', by decide, by decide, by decide⟩,
          ⟨"a\\b", List.all_eq_true.mp (by decide)⟩, by decide, none, by decide⟩]
    let world : World :=
      { command := fun _ =>
          .finished 0 "RM \"old \\\"name\\\"\" -> \"x -> y\"\n?? \"a\\\\b\"\n" ""
        files := {}
        directory := "/work" }
    (entries.map (·.path.text)).Nodup ∧
      (Repository.run ⟨"/work"⟩ ["status", "--porcelain", "--untracked-files=all"]).result world =
        .ok (0, StateEntry.listing entries, "") ∧
      ((Repository.states ⟨"/work"⟩).result world = .ok (entries.map StateEntry.change) ↔
        ∀ entry ∈ entries, entry.Separable) := by
  intro entries world
  have distinct : (entries.map (·.path.text)).Nodup := by decide
  have listed : (Repository.run ⟨"/work"⟩
        ["status", "--porcelain", "--untracked-files=all"]).result world =
      .ok (0, StateEntry.listing entries, "") := by
    decide +kernel
  exact ⟨distinct, listed, states_result_eq_iff distinct listed⟩

/-- A renamed file with an arrow in its old name: neither of its names is read. -/
theorem states_result_arrow :
    let entry : StateEntry :=
      ⟨⟨'R', ' ', by decide, by decide, by decide⟩,
        ⟨"c", List.all_eq_true.mp (by decide)⟩, by decide,
        some ⟨"a -> b", List.all_eq_true.mp (by decide)⟩, by decide⟩
    let world : World :=
      { command := fun _ => .finished 0 (StateEntry.listing [entry]) ""
        files := {}
        directory := "/work" }
    StateEntry.listing [entry] = "R  \"a -> b\" -> c\n" ∧
      (Repository.states ⟨"/work"⟩).result world =
        .ok [⟨"b\" -> c", some 'R', some "\"a"⟩] ∧
      (Repository.states ⟨"/work"⟩).result world ≠ .ok [⟨"c", some 'R', some "a -> b"⟩] := by
  decide +kernel

end Repository

end CommitLens
