import CommitLens.Files.Path
import CommitLens.Proofs.Text
import Mathlib.Data.List.TakeWhile

/-!
# Normal paths

The parts of a normal relative path are steps up and then names, and such parts stay as
they are.  Main statement: a name below a normal path makes a normal path, unless that is
the dot that stands for no parts at all.
-/

namespace CommitLens

namespace Text

/-- Parts that were joined come apart again. -/
theorem split_join {parts : List String} (ne : parts ≠ [])
    (h : ∀ part ∈ parts, '/' ∉ part.toList) : split '/' (join "/" parts) = parts := by
  induction parts with
  | nil => contradiction
  | cons part rest ih =>
      obtain ⟨here, later⟩ := List.forall_mem_cons.mp h
      by_cases hr : rest = []
      · subst hr
        rw [join, String.intercalate_singleton, split_of_notMem here]
      · have slash : "/" = String.singleton '/' := rfl
        rw [join, String.intercalate_cons_of_ne_nil hr, slash, split_append here, ← slash]
        exact congrArg (part :: ·) (ih hr later)

theorem join_concat {parts : List String} (ne : parts ≠ []) (part : String) :
    join "/" (parts ++ [part]) = join "/" parts ++ "/" ++ part := by
  simp only [join, String.intercalate_append_of_ne_nil ne (List.cons_ne_nil part []),
    String.intercalate_singleton]

end Text

namespace Path

/-! ## Cutting -/

theorem cutAfterLast_fst (mark : Char) (cs : List Char) :
    (cutAfterLast mark cs).1 = (cs.reverse.dropWhile (· != mark)).reverse := by
  have whole := List.takeWhile_append_dropWhile (p := (· != mark)) (l := cs.reverse)
  have parts : (cs.reverse.dropWhile (· != mark)).reverse ++ (cutAfterLast mark cs).2 = cs := by
    rw [cutAfterLast, ← List.reverse_append, whole, List.reverse_reverse]
  exact List.append_cancel_right ((cutAfterLast_append mark cs).trans parts.symm)

/-- The mark stays with the part in front of it. -/
theorem exists_cutAfterLast_concat {mark : Char} {cs : List Char}
    (ne : (cutAfterLast mark cs).1 ≠ []) :
    ∃ front, (cutAfterLast mark cs).1 = front ++ [mark] := by
  rw [cutAfterLast_fst] at ne ⊢
  cases hd : cs.reverse.dropWhile (· != mark) with
  | nil => simp [hd] at ne
  | cons c rest =>
      have stop := List.head_dropWhile_not (p := (· != mark)) (l := cs.reverse) (by simp [hd])
      obtain rfl : c = mark := by simpa [hd] using stop
      exact ⟨rest.reverse, List.reverse_cons⟩

theorem cutAfterLast_append_cons {mark : Char} (front : List Char) {tail : List Char}
    (h : mark ∉ tail) : cutAfterLast mark (front ++ mark :: tail) = (front ++ [mark], tail) := by
  have plain : ∀ c ∈ tail.reverse, (c != mark) = true := fun c hc =>
    bne_iff_ne.mpr fun he => h (he ▸ List.mem_reverse.mp hc)
  have last : ((front ++ mark :: tail).reverse.takeWhile (· != mark)).reverse = tail := by
    rw [List.reverse_append, List.reverse_cons, List.append_assoc,
      List.takeWhile_append_of_pos plain]
    simp
  have whole : front ++ mark :: tail = (front ++ [mark]) ++ tail := by simp
  rw [cutAfterLast, last, whole, List.length_append, Nat.add_sub_cancel, List.take_left]

theorem cutAfterLast_of_notMem {mark : Char} {cs : List Char} (h : mark ∉ cs) :
    cutAfterLast mark cs = ([], cs) := by
  have plain : ∀ c ∈ cs.reverse, (c != mark) = true := fun c hc =>
    bne_iff_ne.mpr fun he => h (he ▸ List.mem_reverse.mp hc)
  have last : (cs.reverse.takeWhile (· != mark)).reverse = cs := by
    rw [List.takeWhile_eq_self_iff.mpr plain, List.reverse_reverse]
  rw [cutAfterLast, last, Nat.sub_self, List.take_zero]

theorem notMem_cutAfterLast_snd (mark : Char) (cs : List Char) :
    mark ∉ (cutAfterLast mark cs).2 := by
  intro h
  have inside := List.mem_takeWhile_imp (List.mem_reverse.mp h)
  simp at inside

/-- What a path ends with, up to a slash, its last part ends with. -/
theorem exists_fileName_append {path : String} {before back : List Char} (h : '/' ∉ back)
    (hp : path.toList = before ++ back) : ∃ front, (fileName path).toList = front ++ back := by
  have whole := cutAfterLast_append '/' before
  have free : '/' ∉ (cutAfterLast '/' before).2 ++ back :=
    List.mem_append.not.mpr (not_or.mpr ⟨notMem_cutAfterLast_snd '/' before, h⟩)
  refine ⟨(cutAfterLast '/' before).2, ?_⟩
  rw [fileName, String.toList_ofList, hp]
  conv => lhs; rw [← whole]
  by_cases none : (cutAfterLast '/' before).1 = []
  · rw [none, List.nil_append, cutAfterLast_of_notMem free]
  · obtain ⟨front, hf⟩ := exists_cutAfterLast_concat none
    rw [hf, List.append_assoc, List.append_assoc, List.singleton_append,
      cutAfterLast_append_cons front free]

/-! ## Extensions -/

/-- An extension begins at the last dot, behind something else than dots. -/
theorem exists_of_splitExtension {path : String} (some : (splitExtension path).2 ≠ "") :
    ∃ front last, path.toList = front ++ '.' :: last ∧ '.' ∉ last ∧ front ≠ [] ∧
      (splitExtension path).2.toList = '.' :: last := by
  rcases hc : cutAfterLast '/' path.toList with ⟨head, name⟩
  rcases hn : cutAfterLast '.' name with ⟨stem, last⟩
  have whole : head ++ name = path.toList := by simpa [hc] using cutAfterLast_append '/' path.toList
  have named : stem ++ last = name := by simpa [hn] using cutAfterLast_append '.' name
  have undotted : '.' ∉ last := by simpa [hn] using notMem_cutAfterLast_snd '.' name
  simp only [splitExtension, hc, hn] at some ⊢
  by_cases dots : stem.all (· == '.') = true
  · rw [if_pos dots] at some
    exact absurd rfl some
  · have ne : stem ≠ [] := by
      rintro rfl
      exact dots rfl
    obtain ⟨front, rfl⟩ : ∃ front, stem = front ++ ['.'] := by
      simpa [hn] using exists_cutAfterLast_concat (show (cutAfterLast '.' name).1 ≠ [] by rwa [hn])
    refine ⟨head ++ front, last, ?_, undotted, ?_, ?_⟩
    · rw [← whole, ← named]
      simp
    · intro empty
      obtain ⟨-, rfl⟩ := List.append_eq_nil_iff.mp empty
      exact dots (by decide)
    · rw [if_neg dots, String.toList_ofList]

/-- A path ends with its extension. -/
theorem endsWith_splitExtension (path : String) :
    path.endsWith (splitExtension path).2 = true := by
  rw [Text.endsWith_iff]
  by_cases none : (splitExtension path).2 = ""
  · rw [none]
    exact List.nil_suffix
  · obtain ⟨front, last, hp, -, -, he⟩ := exists_of_splitExtension none
    rw [he, hp]
    exact List.suffix_append front _

theorem splitExtension_of_name {name : String} {front last : List Char}
    (hn : name.toList = front ++ '.' :: last) (noSlash : '/' ∉ name.toList) (noDot : '.' ∉ last)
    (some : ∃ c ∈ front, c ≠ '.') : (splitExtension name).2 = String.ofList ('.' :: last) := by
  have dots : ¬(front ++ ['.']).all (· == '.') = true := by
    obtain ⟨c, hc, ne⟩ := some
    intro all
    have dot := List.all_eq_true.mp all c (List.mem_append_left _ hc)
    exact ne (by simpa using dot)
  rw [splitExtension, cutAfterLast_of_notMem noSlash]
  simp only [hn, cutAfterLast_append_cons front noDot, if_neg dots]

/-! ## Parts -/

/-- A part that stands for an entry of a directory. -/
structure IsName (part : String) : Prop where
  notEmpty : part ≠ ""
  notHere : part ≠ "."
  notUp : part ≠ ".."
  noSlash : '/' ∉ part.toList

/-- Parts in reverse order: names, and below them steps up. -/
def Settled (done : List String) : Prop :=
  ∃ names ups, done = names ++ List.replicate ups ".." ∧ ∀ name ∈ names, IsName name

namespace Settled

variable {done : List String}

theorem empty : Settled [] :=
  ⟨[], 0, rfl, by simp⟩

theorem name {part : String} (h : Settled done) (hp : IsName part) : Settled (part :: done) := by
  obtain ⟨names, ups, rfl, hn⟩ := h
  exact ⟨part :: names, ups, rfl, List.forall_mem_cons.mpr ⟨hp, hn⟩⟩

/-- Behind steps up only, a step up is kept. -/
theorem up {more : List String} (h : Settled (".." :: more)) : Settled (".." :: ".." :: more) := by
  obtain ⟨names, ups, hd, hn⟩ := h
  cases names with
  | nil =>
      refine ⟨[], ups + 1, ?_, by simp⟩
      rw [List.nil_append] at hd
      rw [hd, List.nil_append, List.replicate_succ]
  | cons first rest =>
      obtain rfl : ".." = first := (List.cons.inj hd).1
      exact absurd rfl (hn ".." List.mem_cons_self).notUp

/-- A step up takes a name back. -/
theorem back {last : String} {more : List String} (h : Settled (last :: more))
    (ne : last ≠ "..") : Settled more := by
  obtain ⟨names, ups, hd, hn⟩ := h
  cases names with
  | nil =>
      have mem : last ∈ List.replicate ups ".." := by
        rw [List.nil_append] at hd
        rw [← hd]
        exact List.mem_cons_self
      exact absurd (List.eq_of_mem_replicate mem) ne
  | cons first rest => exact ⟨rest, ups, (List.cons.inj hd).2, (List.forall_mem_cons.mp hn).2⟩

theorem noSlash (h : Settled done) : ∀ part ∈ done, '/' ∉ part.toList := by
  obtain ⟨names, ups, rfl, hn⟩ := h
  intro part hp
  rcases List.mem_append.mp hp with name | up
  · exact (hn part name).noSlash
  · rw [List.eq_of_mem_replicate up]
    decide

theorem notEmpty (h : Settled done) : ∀ part ∈ done, part ≠ "" := by
  obtain ⟨names, ups, rfl, hn⟩ := h
  intro part hp
  rcases List.mem_append.mp hp with name | up
  · exact (hn part name).notEmpty
  · rw [List.eq_of_mem_replicate up]
    decide

end Settled

theorem settled_normalParts {done parts : List String} (h : Settled done)
    (hp : ∀ part ∈ parts, '/' ∉ part.toList) :
    Settled (normalParts false done parts).reverse := by
  induction parts generalizing done with
  | nil =>
      rw [normalParts, List.reverse_reverse]
      exact h
  | cons part rest ih =>
      obtain ⟨here, later⟩ := List.forall_mem_cons.mp hp
      unfold normalParts
      split
      · exact ih h later
      · rename_i idle
        split
        · rename_i notUp
          refine ih (h.name ⟨?_, ?_, by simpa using notUp, here⟩) later
          · rintro rfl
            exact idle rfl
          · rintro rfl
            exact idle rfl
        · rename_i isUp
          obtain rfl : part = ".." := by simpa using isUp
          cases done with
          | nil => exact ih ⟨[], 1, rfl, by simp⟩ later
          | cons last more =>
              by_cases hl : last = ".."
              · subst hl
                exact ih h.up later
              · simp only [beq_false_of_ne hl, Bool.false_eq_true, if_false]
                exact ih (h.back hl) later

theorem normalParts_names {names : List String} (h : ∀ name ∈ names, IsName name)
    (done : List String) : normalParts false done names = done.reverse ++ names := by
  induction names generalizing done with
  | nil => simp [normalParts]
  | cons name rest ih =>
      obtain ⟨here, later⟩ := List.forall_mem_cons.mp h
      have kept : (name.isEmpty || name == ".") = false := by
        simp [here.notEmpty, here.notHere]
      unfold normalParts
      rw [kept, if_neg Bool.false_ne_true, if_pos (by simpa using here.notUp), ih later,
        List.reverse_cons, List.append_assoc, List.singleton_append]

/-- Steps up in front are kept, one behind the other. -/
theorem normalParts_ups (ups count : Nat) (rest : List String) :
    normalParts false (List.replicate count "..") (List.replicate ups ".." ++ rest) =
      normalParts false (List.replicate (count + ups) "..") rest := by
  induction ups generalizing count with
  | zero => rfl
  | succ ups ih =>
      have step : normalParts false (List.replicate count "..")
          (".." :: (List.replicate ups ".." ++ rest)) =
            normalParts false (List.replicate (count + 1) "..")
              (List.replicate ups ".." ++ rest) := by
        cases count <;> simp [normalParts, List.replicate_succ]
      rw [List.replicate_succ, List.cons_append, step, ih, Nat.add_right_comm, Nat.add_assoc]

theorem normalParts_of_settled {parts : List String} (h : Settled parts.reverse) :
    normalParts false [] parts = parts := by
  obtain ⟨names, ups, hd, hn⟩ := h
  have hparts : parts = List.replicate ups ".." ++ names.reverse := by
    rw [← List.reverse_reverse parts, hd, List.reverse_append, List.reverse_replicate]
  have start := normalParts_ups ups 0 names.reverse
  rw [List.replicate_zero, Nat.zero_add] at start
  rw [hparts, start, normalParts_names (by simpa using hn), List.reverse_replicate]

/-! ## Paths -/

theorem takeWhile_slash {path : String} (h : path.startsWith "/" = false) :
    path.toList.takeWhile (· == '/') = [] := by
  rw [String.startsWith_string_eq_false_iff] at h
  cases hp : path.toList with
  | nil => rfl
  | cons c rest =>
      refine List.takeWhile_cons_of_neg fun hc => h ?_
      obtain rfl : c = '/' := by simpa using hc
      exact ⟨rest, hp.symm⟩

/-- A normal relative path: its parts, or a dot if there are none. -/
def ofParts (parts : List String) : String :=
  if parts.isEmpty then "." else Text.join "/" parts

theorem join_ne_empty {parts : List String} (ne : parts ≠ [])
    (h : ∀ part ∈ parts, part ≠ "") : Text.join "/" parts ≠ "" := by
  cases parts with
  | nil => contradiction
  | cons first rest =>
      have some : first ≠ "" := h first List.mem_cons_self
      by_cases hr : rest = []
      · subst hr
        simpa [Text.join] using some
      · simp [Text.join, String.intercalate_cons_of_ne_nil hr]

theorem normalize_of_relative {path : String} (h : path.startsWith "/" = false) :
    ∃ parts, Settled parts.reverse ∧ normalize path = ofParts parts := by
  have settled : Settled (normalParts false [] (Text.split '/' path)).reverse := by
    refine settled_normalParts .empty fun part hp => ?_
    obtain ⟨chars, hc, rfl⟩ := List.mem_map.mp hp
    rw [String.toList_ofList]
    exact Text.separator_notMem_of_mem_splitOnChar hc
  refine ⟨_, settled, ?_⟩
  simp only [normalize, takeWhile_slash h, List.length_nil, bne_self_eq_false, beq_self_eq_true,
    if_true, String.empty_append, ofParts]
  generalize normalParts false [] (Text.split '/' path) = parts at settled ⊢
  cases parts with
  | nil => rfl
  | cons part rest =>
      have some : Text.join "/" (part :: rest) ≠ "" :=
        join_ne_empty (by simp) fun p hp => settled.notEmpty p (List.mem_reverse.mpr hp)
      simp [some]

theorem not_startsWith_join {parts : List String} (h : Settled parts.reverse) :
    (Text.join "/" parts).startsWith "/" = false := by
  rw [String.startsWith_string_eq_false_iff]
  rintro ⟨rest, hr⟩
  cases parts with
  | nil => simp [Text.join] at hr
  | cons first others =>
      have mem : first ∈ (first :: others).reverse := by simp
      obtain ⟨c, cs, hc⟩ := List.exists_cons_of_ne_nil
        (mt String.toList_eq_nil_iff.mp (h.notEmpty first mem))
      have front : (Text.join "/" (first :: others)).toList.head? = some c := by
        by_cases ho : others = []
        · simp [Text.join, ho, hc]
        · simp [Text.join, String.intercalate_cons_of_ne_nil ho, hc]
      rw [← hr] at front
      obtain rfl : '/' = c := by simpa using front
      exact h.noSlash first mem (hc ▸ List.mem_cons_self)

/-- A path of settled parts is normal. -/
theorem normalize_ofParts {parts : List String} (h : Settled parts.reverse) :
    normalize (ofParts parts) = ofParts parts := by
  by_cases hp : parts = []
  · subst hp
    decide +kernel
  · have path : ofParts parts = Text.join "/" parts := by simp [ofParts, hp]
    have some : Text.join "/" parts ≠ "" :=
      join_ne_empty hp fun part hm => h.notEmpty part (List.mem_reverse.mpr hm)
    have apart : Text.split '/' (Text.join "/" parts) = parts :=
      Text.split_join hp fun part hm => h.noSlash part (List.mem_reverse.mpr hm)
    simp [path, normalize, takeWhile_slash (not_startsWith_join h), apart,
      normalParts_of_settled h, some]

/-- Names can be put below normal paths. -/
theorem normalize_below {path name : String} (h : path.startsWith "/" = false)
    (ne : normalize path ≠ ".") (hn : IsName name) :
    normalize (normalize path ++ "/" ++ name) = normalize path ++ "/" ++ name := by
  obtain ⟨parts, settled, hpath⟩ := normalize_of_relative h
  have hp : parts ≠ [] := by
    rintro rfl
    exact ne hpath
  have below : ofParts (parts ++ [name]) = normalize path ++ "/" ++ name := by
    simp [ofParts, hpath, hp, Text.join_concat hp]
  rw [← below]
  refine normalize_ofParts ?_
  rw [List.reverse_append, List.reverse_singleton, List.singleton_append]
  exact settled.name hn

/-! ## Directories -/

theorem directory_prefix (path : String) : (directory path).toList <+: path.toList := by
  have whole := cutAfterLast_append '/' path.toList
  have trimmed (cs : List Char) : (cs.reverse.dropWhile (· == '/')).reverse <+: cs := by
    simpa using List.reverse_prefix.mpr (List.dropWhile_suffix (l := cs.reverse) (· == '/'))
  have front : (cutAfterLast '/' path.toList).1 <+: path.toList := ⟨_, whole⟩
  unfold directory
  rw [String.toList_ofList]
  split
  · exact front
  · exact (trimmed _).trans front

/-- Nothing but slashes, or no slash at the end. -/
def IsDirectory (text : String) : Prop :=
  (∀ c ∈ text.toList, c = '/') ∨ text.toList.getLast? ≠ some '/'

theorem isDirectory_directory (path : String) : IsDirectory (directory path) := by
  unfold directory IsDirectory
  rw [String.toList_ofList]
  generalize (cutAfterLast '/' path.toList).1 = head
  by_cases empty : (head.reverse.dropWhile (· == '/')).reverse = []
  · rw [if_pos (List.isEmpty_iff.mpr empty)]
    refine .inl fun c hc => ?_
    rw [List.reverse_eq_nil_iff, List.dropWhile_eq_nil_iff] at empty
    simpa using empty c (List.mem_reverse.mpr hc)
  · rw [if_neg (mt List.isEmpty_iff.mp empty), List.getLast?_reverse]
    refine .inr fun first => ?_
    have stop := List.head?_dropWhile_not (· == '/') head.reverse
    rw [first] at stop
    simp at stop

/-- A directory with the slash that its names stand behind, if it needs one. -/
def opened (base : String) : List Char :=
  if base.isEmpty || base.endsWith "/" then base.toList else base.toList ++ ['/']

theorem toList_join {name : String} (h : '/' ∉ name.toList) (base : String) :
    (join base name).toList = opened base ++ name.toList := by
  have relative : name.startsWith "/" = false := by
    rw [String.startsWith_string_eq_false_iff]
    rintro ⟨rest, hr⟩
    exact h (hr ▸ List.mem_cons_self)
  unfold join opened
  rw [relative, if_neg Bool.false_ne_true]
  split <;> simp

theorem opened_cases (base : String) :
    opened base = base.toList ∧ (base.toList = [] ∨ ∃ front, base.toList = front ++ ['/']) ∨
      opened base = base.toList ++ ['/'] ∧ base.toList ≠ [] ∧ base.toList.getLast? ≠ some '/' := by
  unfold opened
  split
  · rename_i kept
    refine .inl ⟨rfl, ?_⟩
    rw [Bool.or_eq_true, String.isEmpty_iff, Text.endsWith_iff] at kept
    exact kept.imp String.toList_eq_nil_iff.mpr fun ⟨front, hf⟩ => ⟨front, hf.symm⟩
  · rename_i open'
    rw [Bool.or_eq_true, String.isEmpty_iff, Text.endsWith_iff, not_or] at open'
    refine .inr ⟨rfl, mt String.toList_eq_nil_iff.mp open'.1, fun last => open'.2 ?_⟩
    exact ⟨_, List.dropLast_append_getLast? '/' last⟩

/-- A name that is put in a directory is found there again. -/
theorem cutAfterLast_join {name : String} (h : '/' ∉ name.toList) (base : String) :
    cutAfterLast '/' (join base name).toList = (opened base, name.toList) := by
  rw [toList_join h]
  rcases opened_cases base with ⟨ho, empty | ⟨front, hf⟩⟩ | ⟨ho, -⟩
  · rw [ho, empty, List.nil_append, cutAfterLast_of_notMem h]
  · rw [ho, hf, List.append_assoc, List.singleton_append, cutAfterLast_append_cons front h]
  · rw [ho, List.append_assoc, List.singleton_append, cutAfterLast_append_cons _ h]

theorem fileName_join {name : String} (h : '/' ∉ name.toList) (base : String) :
    fileName (join base name) = name := by
  rw [fileName, cutAfterLast_join h, String.ofList_toList]

theorem directory_join {base name : String} (hb : IsDirectory base) (h : '/' ∉ name.toList) :
    directory (join base name) = base := by
  rw [directory, cutAfterLast_join h]
  rcases opened_cases base with ⟨ho, closed⟩ | ⟨ho, some, last⟩
  · have slashes : ∀ c ∈ base.toList, c = '/' := by
      rcases closed with empty | ⟨front, hf⟩
      · simp [empty]
      · exact hb.resolve_right (not_not_intro (by simp [hf]))
    have trimmed : base.toList.reverse.dropWhile (· == '/') = [] :=
      List.dropWhile_eq_nil_iff.mpr (by simpa using slashes)
    simp [ho, trimmed]
  · obtain ⟨front, c, hc⟩ := (List.eq_nil_or_concat base.toList).resolve_left some
    have plain : c ≠ '/' := by simpa [hc] using last
    have trimmed : ((opened base).reverse.dropWhile (· == '/')).reverse = base.toList := by
      simp [ho, hc, plain]
    simp [trimmed, some]

/-- A relative path beside a relative path is relative. -/
theorem not_startsWith_join_directory {source path : String}
    (hs : source.startsWith "/" = false) (hp : path.startsWith "/" = false) :
    (join (directory source) path).startsWith "/" = false := by
  have front := directory_prefix source
  simp only [String.startsWith_string_eq_false_iff] at hs hp ⊢
  have hd : ¬"/".toList <+: (directory source).toList := fun h => hs (h.trans front)
  unfold join
  rw [if_neg (by simpa using hp)]
  cases hc : (directory source).toList with
  | nil =>
      have empty : directory source = "" := String.toList_eq_nil_iff.mp hc
      simpa [empty] using hp
  | cons c cs =>
      have ne : c ≠ '/' := by
        rintro rfl
        exact hd ⟨cs, hc.symm⟩
      split <;> simp [hc, Ne.symm ne]

end Path

end CommitLens
