import CommitLens.Files.Scope
import CommitLens.Proofs.Files.Path
import CommitLens.Proofs.Pipeline.Account
import CommitLens.Proofs.Report.Header
import CommitLens.Proofs.Rules.Composition
import CommitLens.Proofs.Text.LowerCase

/-!
# Paths of tests

A path is one of a test if a word for tests stands in it between separators.  Main
statement: that is so if and only if one of its tokens is such a word, whatever the case of
its letters; every file that is a test by its name has such a path, and a change to it is of
the type of tests unless a rule gives it another.
-/

namespace CommitLens

/-! ## Tokens -/

section Tokens

variable {α : Type} {p : α → Bool} {cs part front back : List α} {c : α}

/-- Nothing stands before, or a separator does. -/
def OpensAt (p : α → Bool) (front : List α) : Prop :=
  ∀ c ∈ front.getLast?, p c = true

/-- Nothing stands behind, or a separator does. -/
def ClosesAt (p : α → Bool) (back : List α) : Prop :=
  ∀ c ∈ back.head?, p c = true

theorem OpensAt.nil : OpensAt p [] :=
  fun _ h => nomatch h

theorem OpensAt.concat (h : p c = true) (front : List α) : OpensAt p (front ++ [c]) := by
  simpa [OpensAt] using h

theorem ClosesAt.nil : ClosesAt p [] :=
  fun _ h => nomatch h

theorem ClosesAt.cons (h : p c = true) (back : List α) : ClosesAt p (c :: back) := by
  simpa [ClosesAt] using h

theorem OpensAt.exists_concat (h : OpensAt p front) :
    front = [] ∨ ∃ rest c, front = rest ++ [c] ∧ p c = true := by
  rcases List.eq_nil_or_concat front with rfl | ⟨rest, c, rfl⟩
  · exact .inl rfl
  · rw [List.concat_eq_append] at h ⊢
    exact .inr ⟨rest, c, rfl, h c (by simp)⟩

theorem ClosesAt.exists_cons (h : ClosesAt p back) :
    back = [] ∨ ∃ c rest, back = c :: rest ∧ p c = true := by
  cases back with
  | nil => exact .inl rfl
  | cons c rest => exact .inr ⟨c, rest, rfl, h c rfl⟩

theorem mem_splitOnP_of_between (hp : ∀ c ∈ part, p c = false) (hf : OpensAt p front)
    (hb : ClosesAt p back) : part ∈ (front ++ (part ++ back)).splitOnP p := by
  have here : part ∈ (part ++ back).splitOnP p := by
    rcases hb.exists_cons with rfl | ⟨c, rest, rfl, hc⟩
    · rw [List.append_nil, List.splitOnP_eq_singleton hp]
      exact List.mem_cons_self
    · rw [List.splitOnP_append_cons _ _ hc, List.splitOnP_eq_singleton hp]
      exact List.mem_cons_self
  rcases hf.exists_concat with rfl | ⟨rest, c, rfl, hc⟩
  · exact here
  · rw [List.append_assoc, List.singleton_append, List.splitOnP_append_cons _ _ hc]
    exact List.mem_append_right _ here

/-- The part before the first separator is `begun` with what follows. -/
theorem exists_between_of_mem (begun : List α) (hg : ∀ c ∈ begun, p c = false)
    (h : part ∈ (begun ++ cs).splitOnP p) :
    (∀ c ∈ part, p c = false) ∧
      ∃ front back, begun ++ cs = front ++ (part ++ back) ∧ OpensAt p front ∧
        ClosesAt p back := by
  induction cs generalizing begun with
  | nil =>
      rw [List.append_nil, List.splitOnP_eq_singleton hg, List.mem_singleton] at h
      subst h
      exact ⟨hg, [], [], rfl, .nil, .nil⟩
  | cons c rest ih =>
      cases hc : p c with
      | true =>
          rw [List.splitOnP_append_cons _ _ hc, List.splitOnP_eq_singleton hg,
            List.singleton_append, List.mem_cons] at h
          rcases h with rfl | later
          · exact ⟨hg, [], c :: rest, rfl, .nil, .cons hc rest⟩
          · obtain ⟨hp, front, back, hr, hf, hb⟩ := ih [] (fun _ h => nomatch h) later
            refine ⟨hp, begun ++ c :: front, back, ?_, ?_, hb⟩
            · rw [List.nil_append] at hr
              rw [hr, List.append_assoc, List.cons_append]
            · rcases hf.exists_concat with rfl | ⟨more, d, rfl, hd⟩
              · exact .concat hc begun
              · rw [← List.cons_append, ← List.append_assoc]
                exact .concat hd _
      | false =>
          have longer : ∀ d ∈ begun ++ [c], p d = false := by
            simpa [or_imp, forall_and, hc] using hg
          have moved : begun ++ c :: rest = (begun ++ [c]) ++ rest := by simp
          rw [moved] at h ⊢
          exact ih (begun ++ [c]) longer h

/-- The parts of a list are what stands between its separators. -/
theorem mem_splitOnP_iff :
    part ∈ cs.splitOnP p ↔ (∀ c ∈ part, p c = false) ∧
      ∃ front back, cs = front ++ (part ++ back) ∧ OpensAt p front ∧ ClosesAt p back := by
  constructor
  · exact fun h => exists_between_of_mem [] (fun _ h => nomatch h) h
  · rintro ⟨hp, front, back, rfl, hf, hb⟩
    exact mem_splitOnP_of_between hp hf hb

end Tokens

namespace Path

variable {cs : List Char} {path : String}

def isSeparator (c : Char) : Bool :=
  ['/', '.', '_', '-'].contains c

/-- A text cut at slashes, dots, underscores and hyphens. -/
def pieces (text : String) : List String :=
  (text.toList.splitOnP isSeparator).map String.ofList

theorem tokens_eq_splitOnP (cs : List Char) : tokens cs = cs.splitOnP isSeparator := by
  induction cs with
  | nil => rfl
  | cons c rest ih =>
      obtain ⟨part, more, hp⟩ := List.exists_cons_of_ne_nil (Text.splitOnChar_ne_nil '/'
        (rest.map fun c => if c = '.' || c = '_' || c = '-' then '/' else c))
      rw [tokens, hp] at ih
      rw [tokens, List.map_cons, Text.splitOnChar_cons, hp,
        List.splitOnP_cons_eq_if_modifyHead, ← ih]
      by_cases hc : isSeparator c = true
      · have slash : (if (c = '.' || c = '_' || c = '-') = true then '/' else c) = '/' := by
          simp only [isSeparator, List.contains_cons, List.contains_nil, Bool.or_false,
            Bool.or_eq_true, beq_iff_eq, decide_eq_true_eq] at hc ⊢
          grind
        rw [if_pos hc, if_pos slash]
      · have plain : (if (c = '.' || c = '_' || c = '-') = true then '/' else c) = c ∧ c ≠ '/' := by
          simp only [isSeparator, List.contains_cons, List.contains_nil, Bool.or_false,
            Bool.or_eq_true, beq_iff_eq, decide_eq_true_eq] at hc ⊢
          grind
        rw [if_neg hc, plain.1, if_neg plain.2, List.modifyHead_cons]

/-! ## Words for tests -/

/-- The words of the pattern that finds tests, those with underscores around them included. -/
def testWords : List String :=
  ["test", "tests", "spec", "specs"]

/-- A word for tests stands between separators; a line feed at the end does not count. -/
def IsMarked (cs : List Char) : Prop :=
  ∃ front word back, cs = front ++ (word ++ back) ∧
    (word ∈ testWords.map String.toList ∨ word = "__tests__".toList) ∧
    OpensAt isSeparator front ∧ (ClosesAt isSeparator back ∨ back = ['\n'])

theorem isSeparator_of_mem_testWords {word : List Char}
    (h : word ∈ testWords.map String.toList) : ∀ c ∈ word, isSeparator c = false := by
  have all : ∀ word ∈ testWords.map String.toList, ∀ c ∈ word, isSeparator c = false := by decide
  exact all word h

theorem isTestToken_iff {word : List Char} :
    isTestToken word = true ↔ word ∈ testWords.map String.toList := by
  simp [isTestToken, testWords]

theorem any_tokens_iff :
    (tokens cs).any isTestToken = true ↔
      ∃ front word back, cs = front ++ (word ++ back) ∧ word ∈ testWords.map String.toList ∧
        OpensAt isSeparator front ∧ ClosesAt isSeparator back := by
  simp only [List.any_eq_true, isTestToken_iff, tokens_eq_splitOnP, mem_splitOnP_iff]
  constructor
  · rintro ⟨word, ⟨-, front, back, hcs, hf, hb⟩, hw⟩
    exact ⟨front, word, back, hcs, hw, hf, hb⟩
  · rintro ⟨front, word, back, hcs, hw, hf, hb⟩
    exact ⟨word, ⟨isSeparator_of_mem_testWords hw, front, back, hcs, hf, hb⟩, hw⟩

theorem any_tokens_iff_mem_pieces {text : String} :
    (tokens text.toList).any isTestToken = true ↔ ∃ word ∈ testWords, word ∈ pieces text := by
  simp only [List.any_eq_true, isTestToken_iff, tokens_eq_splitOnP, pieces, List.mem_map]
  constructor
  · rintro ⟨_, part, word, hw, rfl⟩
    exact ⟨word, hw, word.toList, part, String.ofList_toList⟩
  · rintro ⟨_, hw, part, hp, rfl⟩
    exact ⟨part, hp, _, hw, String.toList_ofList⟩

/-- Underscores around the word for a directory of tests are separators. -/
theorem exists_word_of_isMarked (h : IsMarked cs) :
    ∃ front word back, cs = front ++ (word ++ back) ∧ word ∈ testWords.map String.toList ∧
      OpensAt isSeparator front ∧ (ClosesAt isSeparator back ∨ back = ['\n']) := by
  obtain ⟨front, word, back, hcs, hw | rfl, hf, hb⟩ := h
  · exact ⟨front, word, back, hcs, hw, hf, hb⟩
  · refine ⟨front ++ ['_'] ++ ['_'], "tests".toList, '_' :: '_' :: back, ?_, by decide,
      .concat (by decide) _, .inl (.cons (by decide) _)⟩
    rw [hcs]
    simp

/-- Looking for tokens finds what the pattern finds. -/
theorem hasTestToken_iff : hasTestToken cs = true ↔ IsMarked cs := by
  rw [hasTestToken, Bool.or_eq_true, Bool.and_eq_true, any_tokens_iff, any_tokens_iff,
    beq_iff_eq]
  constructor
  · rintro (⟨front, word, back, hcs, hw, hf, hb⟩ | ⟨last, front, word, back, hcs, hw, hf, hb⟩)
    · exact ⟨front, word, back, hcs, .inl hw, hf, .inl hb⟩
    · refine ⟨front, word, back ++ ['\n'], ?_, .inl hw, hf, ?_⟩
      · conv_lhs => rw [← List.dropLast_append_getLast? '\n' last, hcs]
        simp
      · rcases hb.exists_cons with rfl | ⟨c, rest, rfl, hc⟩
        · exact .inr rfl
        · exact .inl (.cons hc _)
  · intro h
    obtain ⟨front, word, back, hcs, hw, hf, hb | rfl⟩ := exists_word_of_isMarked h
    · exact .inl ⟨front, word, back, hcs, hw, hf, hb⟩
    · refine .inr ⟨by simp [hcs], front, word, [], ?_, hw, hf, .nil⟩
      rw [hcs, ← List.append_assoc, List.dropLast_concat, List.append_nil]

/-! ## Scopes -/

theorem toList_lowered (path : String) :
    (lowered path).toList = '/' :: (Text.lower path).toList.dropWhile (· == '/') :=
  String.toList_ofList

theorem any_tokens_cons_separator {c : Char} (h : isSeparator c = true) (cs : List Char) :
    (tokens (c :: cs)).any isTestToken = (tokens cs).any isTestToken := by
  have cut : tokens (c :: cs) = [] :: tokens cs := by
    rw [tokens_eq_splitOnP, List.splitOnP_cons_eq_if_modifyHead, if_pos h, tokens_eq_splitOnP]
  rw [cut, List.any_cons]
  rfl

/-- Slashes in front make no difference. -/
theorem any_tokens_dropWhile (cs : List Char) :
    (tokens (cs.dropWhile (· == '/'))).any isTestToken = (tokens cs).any isTestToken := by
  induction cs with
  | nil => rfl
  | cons c rest ih =>
      by_cases hc : c = '/'
      · subst hc
        rw [List.dropWhile_cons_of_pos rfl, ih, any_tokens_cons_separator (by decide)]
      · rw [List.dropWhile_cons_of_neg (by simpa using hc)]

theorem any_tokens_lowered (path : String) :
    (tokens (lowered path).toList).any isTestToken =
      (tokens (Text.lower path).toList).any isTestToken := by
  rw [toList_lowered, any_tokens_cons_separator (by decide), any_tokens_dropWhile]

theorem scope_eq_test_iff : Scope.ofPath path = .test ↔ hasTestToken (lowered path).toList = true := by
  unfold Scope.ofPath
  dsimp only
  split
  · simp [*]
  · refine iff_of_false ?_ ‹_›
    split_ifs <;> decide

theorem scope_of_any_tokens (h : (tokens (Text.lower path).toList).any isTestToken = true) :
    Scope.ofPath path = .test := by
  rw [scope_eq_test_iff, hasTestToken, any_tokens_lowered, h, Bool.true_or]

/-- Without line feeds, a path is one of a test exactly if it has a token for tests. -/
theorem scope_eq_test_iff_mem_pieces (h : Text.OneLine path) :
    Scope.ofPath path = .test ↔ ∃ word ∈ testWords, word ∈ pieces (Text.lower path) := by
  have open' : (lowered path).toList.getLast? ≠ some '\n' := by
    intro last
    have mem := List.mem_of_getLast? last
    rw [toList_lowered, List.mem_cons] at mem
    rcases mem with slash | mem
    · exact absurd slash (by decide)
    · exact h.lower ((List.dropWhile_suffix _).subset mem)
  rw [scope_eq_test_iff, hasTestToken, beq_eq_false_iff_ne.mpr open', Bool.false_and,
    Bool.or_false, any_tokens_lowered, any_tokens_iff_mem_pieces]

/-! ## Names of tests -/

theorem isSmall_of_isSeparator {c : Char} (h : isSeparator c = true) : Text.IsSmall c := by
  have small : ∀ c ∈ ['/', '.', '_', '-'], Text.IsSmall c := by decide
  exact small c (by simpa [isSeparator] using h)

theorem isSmall_of_mem_testWords {word : List Char} (h : word ∈ testWords.map String.toList) :
    ∀ c ∈ word, Text.IsSmall c := by
  have small : ∀ word ∈ testWords.map String.toList, ∀ c ∈ word, Text.IsSmall c := by decide
  exact small word h

/-- A word between separators is still there in lower case. -/
theorem scope_of_between {word : List Char} (hw : word ∈ testWords.map String.toList)
    {first last : Char} (hf : isSeparator first = true) (hl : isSeparator last = true)
    {front back : List Char}
    (hp : path.toList = front ++ ((first :: (word ++ [last])) ++ back)) :
    Scope.ofPath path = .test := by
  have small : ∀ c ∈ first :: (word ++ [last]), Text.IsSmall c := by
    rw [List.forall_mem_cons, List.forall_mem_append, List.forall_mem_singleton]
    exact ⟨isSmall_of_isSeparator hf, isSmall_of_mem_testWords hw, isSmall_of_isSeparator hl⟩
  obtain ⟨before, behind, ht⟩ := Text.exists_toList_lower small hp
  refine scope_of_any_tokens (any_tokens_iff.mpr ⟨before ++ [first], word, last :: behind, ?_, hw,
    .concat hf before, .cons hl behind⟩)
  rw [ht]
  simp

theorem scope_of_start {word : List Char} (hw : word ∈ testWords.map String.toList)
    {last : Char} (hl : isSeparator last = true) {back : List Char}
    (hp : path.toList = (word ++ [last]) ++ back) : Scope.ofPath path = .test := by
  have small : ∀ c ∈ word ++ [last], Text.IsSmall c := by
    rw [List.forall_mem_append, List.forall_mem_singleton]
    exact ⟨isSmall_of_mem_testWords hw, isSmall_of_isSeparator hl⟩
  obtain ⟨behind, ht⟩ := Text.exists_toList_lower_of_start small hp
  refine scope_of_any_tokens (any_tokens_iff.mpr ⟨[], word, last :: behind, ?_, hw, .nil,
    .cons hl behind⟩)
  rw [ht]
  simp

/-- A file name stands alone or behind a slash. -/
theorem exists_fileName (path : String) :
    path.toList = (fileName path).toList ∨
      ∃ front, path.toList = front ++ '/' :: (fileName path).toList := by
  have whole := cutAfterLast_append '/' path.toList
  rw [fileName, String.toList_ofList]
  by_cases alone : (cutAfterLast '/' path.toList).1 = []
  · rw [alone, List.nil_append] at whole
    exact .inl whole.symm
  · obtain ⟨front, hf⟩ := exists_cutAfterLast_concat alone
    refine .inr ⟨front, ?_⟩
    rw [hf, List.append_assoc, List.singleton_append] at whole
    exact whole.symm

theorem exists_of_hasTestInfix (h : hasTestInfix cs = true) :
    ∃ front back, ∃ word ∈ testWords.map String.toList,
      cs = front ++ (('.' :: (word ++ ['.'])) ++ back) := by
  rw [hasTestInfix, Bool.and_eq_true, Bool.or_eq_true, List.isSuffixOf_iff_suffix,
    List.isSuffixOf_iff_suffix] at h
  have whole := cutAfterLast_append '.' cs
  rcases h.2 with ⟨front, hs⟩ | ⟨front, hs⟩
  · refine ⟨front, (cutAfterLast '.' cs).2, "test".toList, by decide, ?_⟩
    rw [← List.append_assoc]
    exact whole.symm.trans (congrArg (· ++ (cutAfterLast '.' cs).2) hs.symm)
  · refine ⟨front, (cutAfterLast '.' cs).2, "spec".toList, by decide, ?_⟩
    rw [← List.append_assoc]
    exact whole.symm.trans (congrArg (· ++ (cutAfterLast '.' cs).2) hs.symm)

theorem exists_of_isScriptTest (h : isScriptTest cs = true) :
    (∃ back, cs = ("test".toList ++ ['_']) ++ back) ∨
      ∃ front, cs = front ++ (('_' :: ("test".toList ++ ['.'])) ++ "py".toList) := by
  simp only [isScriptTest, Bool.and_eq_true, Bool.or_eq_true, List.isPrefixOf_iff_prefix,
    List.isSuffixOf_iff_suffix] at h
  rcases h.2 with ⟨⟨⟨back, hb⟩, -⟩, -⟩ | ⟨⟨front, hf⟩, -⟩
  · exact .inl ⟨back, hb.symm⟩
  · exact .inr ⟨front, hf.symm⟩

/-- A file that is a test by its name has the path of a test. -/
theorem scope_of_isTestName (h : isTestName (fileName path) = true) :
    Scope.ofPath path = .test := by
  have test : "test".toList ∈ testWords.map String.toList := by decide
  have slash : isSeparator '/' = true := rfl
  have dot : isSeparator '.' = true := rfl
  have underscore : isSeparator '_' = true := rfl
  -- The name is that of a script test, with something behind it.
  have script : ∀ {name rest : List Char}, isScriptTest name = true →
      (fileName path).toList = name ++ rest → Scope.ofPath path = .test := by
    intro name rest hs hn
    rcases exists_of_isScriptTest hs with ⟨back, rfl⟩ | ⟨front, rfl⟩
    · rw [List.append_assoc] at hn
      rcases exists_fileName path with alone | ⟨before, behind⟩
      · exact scope_of_start test underscore (alone.trans hn)
      · rw [hn] at behind
        exact scope_of_between test slash underscore behind
    · rw [List.append_assoc, List.append_assoc] at hn
      rcases exists_fileName path with alone | ⟨before, behind⟩
      · exact scope_of_between test underscore dot (alone.trans hn)
      · rw [hn, ← List.cons_append, ← List.append_assoc] at behind
        exact scope_of_between test underscore dot behind
  rw [isTestName, Bool.or_eq_true, Bool.or_eq_true, Bool.and_eq_true, beq_iff_eq] at h
  rcases h with (marked | whole) | ⟨last, whole⟩
  · obtain ⟨front, back, word, hw, hn⟩ := exists_of_hasTestInfix marked
    rcases exists_fileName path with alone | ⟨before, behind⟩
    · exact scope_of_between hw dot dot (alone.trans hn)
    · rw [hn, ← List.cons_append, ← List.append_assoc] at behind
      exact scope_of_between hw dot dot behind
  · exact script whole (List.append_nil _).symm
  · exact script whole (List.dropLast_append_getLast? '\n' last).symm

end Path

theorem FileKind.ofPath_eq_test_iff {path : String} :
    FileKind.ofPath path = .test ↔ Path.isTestName (Path.fileName path) = true := by
  unfold FileKind.ofPath
  dsimp only [Path.parts]
  split
  · simp [*]
  · refine iff_of_false ?_ ‹_›
    unfold FileKind.ofExtension
    split_ifs <;> decide

theorem Metadata.fileKind_ofContents (path : String) (old new : Option String) :
    (ofContents path old new).fileKind = FileKind.ofPath path := by
  simp only [ofContents]

/-! ## Changes -/

/-- What is found out about a path that may be one of a test. -/
structure Path.TellsTests (path : String) : Prop where
  marked_iff : Scope.ofPath path = .test ↔ IsMarked (lowered path).toList
  token_iff : Text.OneLine path →
    (Scope.ofPath path = .test ↔ ∃ word ∈ testWords, word ∈ pieces (Text.lower path))
  named : ∀ old new, (Metadata.ofContents path old new).fileKind = .test →
    Scope.ofPath path = .test
  /-- Whatever else has changed, and with every configuration. -/
  classified : FileKind.ofPath path = .test →
    ∀ (pipeline : Pipeline) (input : PipelineInput) (analysis : Analysis),
      (pipeline.process input).1 = .ok analysis → ∀ change ∈ analysis.changes,
        change.path = path → change.toComparedChange.IsUndecided pipeline.config.rules →
          change.commitType = "test"

/-- A change with the path of a test that no rule gives a type. -/
theorem ComparedChange.classify_of_test {change : ComparedChange} {rules : List Rule}
    (hs : change.scope = .test) (h : change.IsUndecided rules) :
    (change.classify rules).commitType = "test" := by
  have scope : (change.scope == .test) = true := by
    rw [hs]
    rfl
  rw [classify_commitType_of_isUndecided h, fallbackType]
  exact if_pos scope

/-- Every change of an analysis has the scope of its path. -/
theorem Pipeline.classified_of_test {config : Config} {graph : DependencyGraph} {change : Change}
    (hs : Scope.ofPath change.path = .test)
    (h : (scoreChange config graph change).toComparedChange.IsUndecided config.rules) :
    (scoreChange config graph change).commitType = "test" :=
  ComparedChange.classify_of_test ((change.scope_compare_link graph).trans hs) h

theorem Path.tellsTests (path : String) : Path.TellsTests path where
  marked_iff := scope_eq_test_iff.trans hasTestToken_iff
  token_iff := scope_eq_test_iff_mem_pieces
  named old new h := by
    rw [Metadata.fileKind_ofContents] at h
    exact scope_of_isTestName (FileKind.ofPath_eq_test_iff.mp h)
  classified h pipeline input analysis hp change hc same undecided := by
    rw [(Pipeline.process_eq_ok hp).1, Pipeline.scoreChanges_fst] at hc
    obtain ⟨before, -, rfl⟩ := List.mem_map.mp hc
    rw [Pipeline.toChange_scoreChange] at same
    refine Pipeline.classified_of_test ?_ undecided
    rw [same]
    exact scope_of_isTestName (FileKind.ofPath_eq_test_iff.mp h)

/-- Words that only look like tests are none, in whatever place. -/
example : Scope.ofPath "/latest/contest.inspect/a_Specs-b" = .test ∧
    Scope.ofPath "latest/contest/inspect-testing.ts" = .unknown := by
  decide +kernel

end CommitLens
