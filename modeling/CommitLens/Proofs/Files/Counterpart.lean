import CommitLens.Files.Counterpart
import CommitLens.Proofs.Files.Path
import CommitLens.Proofs.Text.LowerCase

/-!
# From a file to its tests and back

The tests of a file are named after it, and the file of a test after the test.  Main
statement: the tests beside a file that is none are known as tests, and lead back to that
file and nothing else, if and only if its path is spelled as the parts of a path are put
together and nothing in it is taken for the mark of a test; for Python, if its name is one
line.
-/

namespace CommitLens.Path

variable {path : String}

/-! ## Marks -/

/-- What is taken for the mark of a test, wherever it stands. -/
def testMarks : List String :=
  [".spec.", ".test."]

def HasMark (cs : List Char) : Prop :=
  ∃ mark ∈ testMarks, mark.toList <:+: cs

instance (cs : List Char) : Decidable (HasMark cs) :=
  inferInstanceAs (Decidable (∃ mark ∈ testMarks, _))

def StartsWithMark (cs : List Char) : Prop :=
  ∃ mark ∈ testMarks, mark.toList <+: cs

theorem hasMark_cons {c : Char} {cs : List Char} :
    HasMark (c :: cs) ↔ StartsWithMark (c :: cs) ∨ HasMark cs := by
  simp only [HasMark, StartsWithMark, List.infix_cons_iff, and_or_left, exists_or]

theorem dropTestInfix_of_startsWithMark {c : Char} {cs : List Char}
    (h : StartsWithMark (c :: cs)) : dropTestInfix (c :: cs) = '.' :: cs.drop 5 := by
  rw [dropTestInfix, if_pos]
  simpa [StartsWithMark, testMarks] using h

theorem dropTestInfix_cons {c : Char} {cs : List Char} (h : ¬StartsWithMark (c :: cs)) :
    dropTestInfix (c :: cs) = c :: dropTestInfix cs := by
  rw [dropTestInfix, if_neg]
  simpa [StartsWithMark, testMarks] using h

/-- A mark has dots at its ends only, so that it ends at a dot or before. -/
theorem startsWithMark_append {c : Char} {cs rest : List Char} :
    StartsWithMark (c :: (cs ++ '.' :: rest)) ↔ StartsWithMark (c :: (cs ++ ['.'])) := by
  have dots : ∀ mark ∈ testMarks, mark.toList.length = 6 ∧
      ∀ place : Fin 6, mark.toList[place.val]? = some '.' → place.val = 0 ∨ place.val = 5 := by
    decide
  have front : c :: (cs ++ ['.']) <+: c :: (cs ++ '.' :: rest) := by simp
  refine exists_congr fun mark => and_congr_right fun hm => ⟨fun h => ?_, fun h => h.trans front⟩
  obtain ⟨length, inner⟩ := dots mark hm
  refine List.prefix_of_prefix_length_le h front ?_
  by_contra long
  simp only [length, List.length_cons, List.length_append, List.length_nil] at long
  have within : cs.length + 1 < mark.toList.length := by omega
  have here : mark.toList[cs.length + 1]? = some '.' := by
    rw [List.getElem?_eq_getElem within, h.getElem within]
    simp
  have ends := inner ⟨cs.length + 1, by omega⟩ here
  dsimp only at ends
  omega

theorem length_of_startsWithMark {c : Char} {cs : List Char}
    (h : StartsWithMark (c :: cs)) : 5 ≤ cs.length := by
  obtain ⟨mark, hm, hp⟩ := h
  have long : ∀ mark ∈ testMarks, mark.toList.length = 6 := by decide
  have le := hp.length_le
  rw [long mark hm, List.length_cons] at le
  omega

theorem hasMark_append {cs rest : List Char} (h : '.' ∉ rest) :
    HasMark (cs ++ '.' :: rest) ↔ HasMark (cs ++ ['.']) := by
  induction cs with
  | nil =>
      refine iff_of_false ?_ (by decide)
      rintro ⟨mark, hm, hi⟩
      have dots : ∀ mark ∈ testMarks, mark.toList.count '.' = 2 := by decide
      have le := hi.sublist.count_le '.'
      rw [dots mark hm, List.nil_append, List.count_cons_self, List.count_eq_zero.mpr h] at le
      omega
  | cons c cs ih =>
      rw [List.cons_append, List.cons_append, hasMark_cons, hasMark_cons, startsWithMark_append,
        ih]

/-- Without a mark before the dot, nothing is dropped before it. -/
theorem dropTestInfix_append {cs rest : List Char} (h : ¬HasMark (cs ++ ['.'])) :
    dropTestInfix (cs ++ '.' :: rest) = cs ++ dropTestInfix ('.' :: rest) := by
  induction cs with
  | nil => rfl
  | cons c cs ih =>
      rw [List.cons_append, hasMark_cons, not_or] at h
      rw [List.cons_append, dropTestInfix_cons (mt startsWithMark_append.mp h.1), ih h.2,
        List.cons_append]

/-- With a mark before the dot, what stands behind the dot stays. -/
theorem exists_dropTestInfix_append {cs rest : List Char} (h : HasMark (cs ++ ['.'])) :
    ∃ front, dropTestInfix (cs ++ '.' :: rest) = front ++ '.' :: rest := by
  induction cs with
  | nil => exact absurd h (by decide)
  | cons c cs ih =>
      rw [List.cons_append] at h ⊢
      by_cases here : StartsWithMark (c :: (cs ++ ['.']))
      · rw [dropTestInfix_of_startsWithMark (startsWithMark_append.mpr here)]
        have long := length_of_startsWithMark here
        rw [List.length_append, List.length_singleton] at long
        rcases Nat.lt_or_ge cs.length 5 with short | longer
        · have all : (cs ++ ['.']).length = 5 := by
            rw [List.length_append, List.length_singleton]
            omega
          refine ⟨[], ?_⟩
          rw [← List.singleton_append (l := rest), ← List.append_assoc, List.drop_left' all]
          rfl
        · exact ⟨'.' :: cs.drop 5, by rw [List.drop_append_of_le_length longer]; rfl⟩
      · obtain ⟨front, hf⟩ := ih ((hasMark_cons.mp h).resolve_left here)
        exact ⟨c :: front, by rw [dropTestInfix_cons (mt startsWithMark_append.mp here), hf]; rfl⟩

/-! ## Names -/

theorem parts_extension (path : String) :
    (parts path).extension = Path.extension (fileName path) := by
  simp only [parts]

theorem stem_eq {front back : List Char} (hn : (fileName path).toList = front ++ back)
    (hl : (parts path).extension.length = back.length) :
    stem (parts path) = String.ofList front := by
  simp only [stem, parts] at hl ⊢
  rw [hl, hn, List.length_append, Nat.add_sub_cancel, List.take_left]

/-- A dot and small letters. -/
structure IsExtension (extension : String) (letters : List Char) : Prop where
  spelled : extension.toList = '.' :: letters
  some : letters ≠ []
  small : ∀ c ∈ letters, 'a' ≤ c ∧ c ≤ 'z'

/-- The extensions of files that have tests. -/
def testedExtensions : List String :=
  [".ts", ".tsx", ".js", ".jsx", ".mjs", ".cjs", ".py"]

theorem exists_isExtension {extension : String} (h : extension ∈ testedExtensions) :
    ∃ letters, IsExtension extension letters := by
  have all : ∀ extension ∈ testedExtensions, extension.toList = '.' :: extension.toList.tail ∧
      extension.toList.tail ≠ [] ∧ ∀ c ∈ extension.toList.tail, 'a' ≤ c ∧ c ≤ 'z' := by
    decide
  obtain ⟨spelled, some, small⟩ := all extension h
  exact ⟨_, spelled, some, small⟩

namespace IsExtension

variable {extension : String} {letters front : List Char} {name : String}

theorem notMem (h : IsExtension extension letters) {mark : Char} (hm : mark < 'a') :
    mark ∉ letters :=
  fun member => absurd hm (Char.not_lt.mpr (h.small mark member).1)

theorem noSlash (h : IsExtension extension letters) : '/' ∉ extension.toList := by
  rw [h.spelled, List.mem_cons, not_or]
  exact ⟨by decide, h.notMem (by decide)⟩

theorem isSmall (h : IsExtension extension letters) : ∀ c ∈ extension.toList, Text.IsSmall c := by
  have codes : ∀ code < 123, 97 ≤ code → Text.IsSmall (Char.ofNat code) := by decide +kernel
  rw [h.spelled, List.forall_mem_cons]
  refine ⟨by decide, fun c hc => ?_⟩
  obtain ⟨low, high⟩ := h.small c hc
  rw [← Char.ofNat_toNat c]
  exact codes c.toNat (Nat.lt_succ_of_le high) low

/-- A name has the extension that is put behind it. -/
theorem extension_eq (h : IsExtension extension letters)
    (hn : name.toList = front ++ extension.toList) (noSlash : '/' ∉ name.toList)
    (some : ∃ c ∈ front, c ≠ '.') : Path.extension name = extension := by
  rw [h.spelled] at hn
  rw [Path.extension, splitExtension_of_name hn noSlash (h.notMem (by decide)) some, ← h.spelled,
    String.ofList_toList, Text.lower_of_small h.isSmall]

/-- A file name is its stem and an extension as it is written. -/
theorem exists_fileName (h : IsExtension (parts path).extension letters) :
    ∃ written, (fileName path).toList = (stem (parts path)).toList ++ '.' :: written ∧
      (stem (parts path)).toList ≠ [] ∧ '.' ∉ written ∧ written ≠ [] := by
  have lowered : (parts path).extension = Text.lower (splitExtension (fileName path)).2 := by
    rw [parts_extension, Path.extension]
  have some : (splitExtension (fileName path)).2 ≠ "" := by
    intro none
    have spelled := h.spelled
    rw [lowered, none, Text.lower_of_small (by simp)] at spelled
    simp at spelled
  obtain ⟨front, last, hn, noDot, ne, he⟩ := exists_of_splitExtension some
  have count : (parts path).extension.toList.length = ('.' :: last).length := by
    have small := fun c hc => (h.isSmall c hc).1
    rw [lowered, Text.toList_lower, he] at small ⊢
    exact Text.length_lowerFrom_of_ascii small
  have letter : last ≠ [] := by
    rintro rfl
    rw [h.spelled] at count
    exact h.some (by simpa using count)
  have behind : (parts path).extension.length = ('.' :: last).length := count
  rw [stem_eq hn behind, String.toList_ofList]
  exact ⟨last, hn, ne, noDot, letter⟩

end IsExtension

/-! ## Tests of scripts -/

/-- What is put between a name and its extension. -/
def testInfixes : List String :=
  [".spec", ".test"]

section Infix

variable {extension marker : String} {letters front : List Char} {name : String}

theorem testInfix_spelled (hm : marker ∈ testInfixes) :
    ∃ word, marker.toList = '.' :: word ∧ word.length = 4 ∧
      String.ofList ('.' :: (word ++ ['.'])) ∈ testMarks ∧ '/' ∉ marker.toList := by
  have all : ∀ marker ∈ testInfixes, marker.toList = '.' :: marker.toList.tail ∧
      marker.toList.tail.length = 4 ∧
      String.ofList ('.' :: (marker.toList.tail ++ ['.'])) ∈ testMarks ∧ '/' ∉ marker.toList := by
    decide
  exact ⟨_, all marker hm⟩

theorem hasTestInfix_iff {back : List Char} (noDot : '.' ∉ back) :
    hasTestInfix (front ++ '.' :: back) = true ↔
      back ≠ [] ∧ ∃ mark ∈ testMarks, mark.toList <:+ front ++ ['.'] := by
  rw [hasTestInfix, cutAfterLast_append_cons front noDot]
  simp [testMarks, List.isSuffixOf_iff_suffix, or_comm]

theorem isTestName_of_marked (h : IsExtension extension letters) (hm : marker ∈ testInfixes)
    (hn : name.toList = front ++ (marker.toList ++ extension.toList)) :
    isTestName name = true := by
  obtain ⟨word, spelled, -, known, -⟩ := testInfix_spelled hm
  have marked : hasTestInfix name.toList = true := by
    rw [hn, h.spelled, ← List.append_assoc, hasTestInfix_iff (h.notMem (by decide))]
    refine ⟨h.some, _, known, front, ?_⟩
    rw [String.toList_ofList, spelled]
    simp
  rw [isTestName, marked, Bool.true_or, Bool.true_or]

theorem dropTestInfix_marked (h : IsExtension extension letters) (hm : marker ∈ testInfixes) :
    dropTestInfix (marker.toList ++ extension.toList) = extension.toList := by
  obtain ⟨word, spelled, length, known, -⟩ := testInfix_spelled hm
  have split : marker.toList ++ extension.toList = '.' :: ((word ++ ['.']) ++ letters) := by
    rw [spelled, h.spelled]
    simp
  have starts : StartsWithMark ('.' :: ((word ++ ['.']) ++ letters)) := by
    refine ⟨_, known, ?_⟩
    rw [String.toList_ofList, ← List.cons_append]
    exact List.prefix_append _ _
  rw [split, dropTestInfix_of_startsWithMark starts, List.drop_left' (by simp [length]), h.spelled]

/-- A test leads to the path without its mark, unless another mark comes first; then to the
path of a test. -/
theorem dropTestInfix_path (h : IsExtension extension letters) (hm : marker ∈ testInfixes)
    (front : List Char) :
    (¬HasMark (front ++ extension.toList) ∧
      dropTestInfix (front ++ (marker.toList ++ extension.toList)) = front ++ extension.toList) ∨
    (HasMark (front ++ extension.toList) ∧
      ∃ before, dropTestInfix (front ++ (marker.toList ++ extension.toList)) =
        before ++ (marker.toList ++ extension.toList)) := by
  obtain ⟨word, spelled, -, -, -⟩ := testInfix_spelled hm
  have marks : HasMark (front ++ extension.toList) ↔ HasMark (front ++ ['.']) := by
    rw [h.spelled]
    exact hasMark_append (h.notMem (by decide))
  have split : marker.toList ++ extension.toList = '.' :: (word ++ extension.toList) := by
    rw [spelled, List.cons_append]
  by_cases marked : HasMark (front ++ ['.'])
  · rw [split]
    exact .inr ⟨marks.mpr marked, exists_dropTestInfix_append marked⟩
  · refine .inl ⟨mt marks.mp marked, ?_⟩
    rw [split, dropTestInfix_append marked, ← split, dropTestInfix_marked h hm]

end Infix

/-- A path that ends as a test does is one of a test. -/
theorem isTestName_fileName_of_marked {extension marker : String} {letters before : List Char}
    (h : IsExtension extension letters) (hm : marker ∈ testInfixes)
    (hp : path.toList = before ++ (marker.toList ++ extension.toList)) :
    isTestName (fileName path) = true := by
  obtain ⟨-, -, -, -, noSlash⟩ := testInfix_spelled hm
  have free : '/' ∉ marker.toList ++ extension.toList :=
    List.mem_append.not.mpr (not_or.mpr ⟨noSlash, h.noSlash⟩)
  obtain ⟨front, hf⟩ := exists_fileName_append free hp
  exact isTestName_of_marked h hm hf

theorem counterparts_of_scriptTest (test : isTestName (fileName path) = true)
    (hx : (parts path).extension ≠ ".py") :
    counterparts path = [String.ofList (dropTestInfix path.toList)] := by
  simp only [parts] at hx
  simp [counterparts, parts, test, hx]

/-! ## Tests of Python modules -/

/-- What begins with a character that the front has not begins behind the front. -/
theorem suffix_of_suffix_append {α : Type} {c : α} {mark front back : List α}
    (hc : c ∉ front) (h : c :: mark <:+ front ++ back) : c :: mark <:+ back := by
  obtain ⟨rest, hr⟩ := h
  rcases List.append_eq_append_iff.mp hr with ⟨more, hf, hm⟩ | ⟨more, -, hb⟩
  · cases more with
    | nil => exact ⟨[], hm⟩
    | cons d more =>
        obtain rfl : c = d := (List.cons.inj hm).1
        exact absurd (hf ▸ List.mem_append_right rest List.mem_cons_self) hc
  · exact ⟨more, hb.symm⟩

theorem counterparts_of_pythonTest (test : isTestName (fileName path) = true)
    (hx : (parts path).extension = ".py") :
    counterparts path =
      [join (directory path) (testedModule (stem (parts path)) ++ ".py")] := by
  simp only [parts] at hx
  simp [counterparts, parts, test, hx]

/-- A module that is no test makes the name of one if its name is one line. -/
theorem isTestName_module_iff {stem written : List Char}
    (notTest : isTestName (String.ofList (stem ++ '.' :: written)) = false)
    (noDot : '.' ∉ written) (some : written ≠ []) (ne : stem ≠ []) :
    isTestName (String.ofList ("test_".toList ++ (stem ++ ".py".toList))) = true ↔
      '\n' ∉ stem := by
  have unmarked : ¬hasTestInfix ("test_".toList ++ (stem ++ ".py".toList)) = true := by
    rw [← List.append_assoc, show ".py".toList = '.' :: "py".toList from rfl,
      hasTestInfix_iff (by decide), List.append_assoc]
    rintro ⟨-, mark, hm, behind⟩
    have dots : ∀ mark ∈ testMarks, mark.toList = '.' :: mark.toList.tail := by decide
    rw [dots mark hm] at behind
    have marked : hasTestInfix (stem ++ '.' :: written) = true := by
      rw [hasTestInfix_iff noDot]
      refine ⟨some, mark, hm, ?_⟩
      rw [dots mark hm]
      exact suffix_of_suffix_append (by decide) behind
    rw [isTestName, String.toList_ofList, marked, Bool.true_or, Bool.true_or] at notTest
    exact Bool.false_ne_true notTest.symm
  have last : ("test_".toList ++ (stem ++ ".py".toList)).getLast? ≠ Option.some '\n' := by
    rw [← List.append_assoc, List.getLast?_append_of_ne_nil _ (by decide)]
    decide
  have begins : "test_".toList <+: "test_".toList ++ (stem ++ ".py".toList) :=
    List.prefix_append _ _
  have ends : ".py".toList <:+ "test_".toList ++ (stem ++ ".py".toList) := by
    rw [← List.append_assoc]
    exact List.suffix_append _ _
  have long : 9 ≤ ("test_".toList ++ (stem ++ ".py".toList)).length := by
    have some := List.length_pos_iff.mpr ne
    simp
    omega
  have named : isScriptTest ("test_".toList ++ (stem ++ ".py".toList)) = true ↔ '\n' ∉ stem := by
    simp only [isScriptTest, Bool.and_eq_true, Bool.or_eq_true, List.isPrefixOf_iff_prefix,
      List.isSuffixOf_iff_suffix, decide_eq_true_eq]
    have free : (!("test_".toList ++ (stem ++ ".py".toList)).contains '\n') = true ↔
        '\n' ∉ stem := by simp
    rw [free]
    exact and_iff_left (.inl ⟨⟨begins, ends⟩, long⟩)
  rw [isTestName, String.toList_ofList, eq_false_of_ne_true unmarked, Bool.false_or,
    beq_false_of_ne last, Bool.false_and, Bool.or_false, named]

/-! ## There and back -/

/-- The names of the tests of a file. -/
def testNames (path : String) : List String :=
  let name := stem (parts path)
  let extension := (parts path).extension
  if extension = ".py" then ["test_" ++ name ++ ".py"]
  else testInfixes.map fun marker => name ++ marker ++ extension

/-- The tests of a file in its own directory. -/
def testsBeside (path : String) : List String :=
  (testNames path).map (join (directory path))

/-- A path as its parts are put together: one slash before the file name, and the extension
in small letters. -/
def IsPlain (path : String) : Prop :=
  path = join (directory path) (stem (parts path) ++ (parts path).extension)

/-- What is put into the name of a file for its tests is found and taken out again. -/
def IsReversible (path : String) : Prop :=
  if (parts path).extension = ".py" then Text.OneLine (stem (parts path))
  else ¬HasMark path.toList

/-- The tests beside a file, as far as their names tell. -/
structure TestsLeadBack (path : String) : Prop where
  beside_iff : ∀ other, other ∈ counterparts path ∧ directory other = directory path ↔
    other ∈ testsBeside path
  known_iff : ∀ other ∈ testsBeside path, isTestName (fileName other) = true ↔
    ((parts path).extension = ".py" → Text.OneLine (stem (parts path)))
  back_iff : ∀ other ∈ testsBeside path,
    counterparts other = [path] ↔ IsPlain path ∧ IsReversible path

theorem counterparts_of_python (notTest : isTestName (fileName path) = false)
    (hx : (parts path).extension = ".py") :
    counterparts path = [directory path, "tests", "tests/unit"].map fun base =>
      join base ("test_" ++ stem (parts path) ++ ".py") := by
  simp only [parts] at hx
  simp [counterparts, parts, notTest, hx]

theorem testNames_python (h : (parts path).extension = ".py") :
    testNames path = ["test_" ++ stem (parts path) ++ ".py"] := by
  simp only [testNames, if_pos h]

theorem testNames_script (h : (parts path).extension ≠ ".py") :
    testNames path =
      testInfixes.map fun marker => stem (parts path) ++ marker ++ (parts path).extension := by
  simp only [testNames, if_neg h]

theorem notMem_stem (h : (parts path).extension ∈ testedExtensions) :
    '/' ∉ (stem (parts path)).toList := by
  obtain ⟨letters, he⟩ := exists_isExtension h
  obtain ⟨written, hn, -⟩ := he.exists_fileName
  have free : '/' ∉ (fileName path).toList := by
    rw [fileName, String.toList_ofList]
    exact notMem_cutAfterLast_snd '/' _
  rw [hn] at free
  exact fun hs => free (List.mem_append_left _ hs)

theorem counterparts_eq (notTest : isTestName (fileName path) = false)
    (h : (parts path).extension ∈ testedExtensions) :
    ∃ elsewhere, (∀ base ∈ elsewhere, IsDirectory base) ∧
      counterparts path =
        (directory path :: elsewhere).flatMap fun base => (testNames path).map (join base) := by
  by_cases python : (parts path).extension = ".py"
  · refine ⟨["tests", "tests/unit"], by simp only [IsDirectory]; decide, ?_⟩
    rw [testNames_python python, counterparts_of_python notTest python]
    simp
  · refine ⟨["tests/unit"], by simp only [IsDirectory]; decide, ?_⟩
    rw [testNames_script python]
    have script : (parts path).extension ∈ [".ts", ".tsx", ".js", ".jsx", ".mjs", ".cjs"] := by
      simpa [testedExtensions, python] using h
    simp only [parts] at script
    simp [counterparts, parts, notTest, script, testInfixes]

theorem notMem_testNames (h : (parts path).extension ∈ testedExtensions) :
    ∀ name ∈ testNames path, '/' ∉ name.toList := by
  intro name hn
  have free := notMem_stem h
  by_cases python : (parts path).extension = ".py"
  · rw [testNames_python python, List.mem_singleton] at hn
    subst hn
    simpa using free
  · rw [testNames_script python] at hn
    obtain ⟨marker, hm, rfl⟩ := List.mem_map.mp hn
    obtain ⟨letters, he⟩ := exists_isExtension h
    obtain ⟨-, -, -, -, noSlash⟩ := testInfix_spelled hm
    simpa only [String.toList_append, List.mem_append, not_or] using ⟨⟨free, noSlash⟩, he.noSlash⟩

theorem mem_testsBeside_iff (notTest : isTestName (fileName path) = false)
    (h : (parts path).extension ∈ testedExtensions) (other : String) :
    other ∈ counterparts path ∧ directory other = directory path ↔ other ∈ testsBeside path := by
  obtain ⟨elsewhere, hd, hc⟩ := counterparts_eq notTest h
  have placed : ∀ base ∈ directory path :: elsewhere, ∀ name ∈ testNames path,
      directory (join base name) = base := fun base hb name hn =>
    directory_join ((List.forall_mem_cons.mpr ⟨isDirectory_directory path, hd⟩) base hb)
      (notMem_testNames h name hn)
  simp only [hc, List.mem_flatMap, List.mem_map, testsBeside]
  constructor
  · rintro ⟨⟨base, hb, name, hn, rfl⟩, here⟩
    rw [placed base hb name hn] at here
    exact ⟨name, hn, here ▸ rfl⟩
  · rintro ⟨name, hn, rfl⟩
    exact ⟨⟨_, List.mem_cons_self, name, hn, rfl⟩, placed _ List.mem_cons_self name hn⟩

theorem isTestName_script (h : (parts path).extension ∈ testedExtensions)
    (script : (parts path).extension ≠ ".py") {name : String} (hn : name ∈ testNames path) :
    isTestName name = true := by
  obtain ⟨letters, he⟩ := exists_isExtension h
  rw [testNames_script script] at hn
  obtain ⟨marker, hm, rfl⟩ := List.mem_map.mp hn
  have spelled : (stem (parts path) ++ marker ++ (parts path).extension).toList =
      (stem (parts path)).toList ++ (marker.toList ++ (parts path).extension.toList) := by
    rw [String.toList_append, String.toList_append, List.append_assoc]
  exact isTestName_of_marked he hm spelled

theorem isTestName_python (notTest : isTestName (fileName path) = false)
    (h : (parts path).extension = ".py") {name : String} (hn : name ∈ testNames path) :
    isTestName name = true ↔ Text.OneLine (stem (parts path)) := by
  have tested : (parts path).extension ∈ testedExtensions := by
    rw [h]
    decide
  obtain ⟨letters, he⟩ := exists_isExtension tested
  obtain ⟨written, hf, ne, noDot, some⟩ := he.exists_fileName
  rw [testNames_python h, List.mem_singleton] at hn
  have spelled : name = String.ofList ("test_".toList ++ ((stem (parts path)).toList ++
      ".py".toList)) := by
    rw [hn, ← String.toList_inj]
    simp
  rw [← String.ofList_toList (s := fileName path), hf] at notTest
  rw [spelled, isTestName_module_iff notTest noDot some ne, Text.OneLine]

theorem isPlain_iff (h : (parts path).extension ∈ testedExtensions) :
    IsPlain path ↔ path.toList = opened (directory path) ++ (stem (parts path)).toList ++
      (parts path).extension.toList := by
  obtain ⟨letters, he⟩ := exists_isExtension h
  have free : '/' ∉ (stem (parts path) ++ (parts path).extension).toList := by
    simpa only [String.toList_append, List.mem_append, not_or] using ⟨notMem_stem h, he.noSlash⟩
  rw [IsPlain, ← String.toList_inj, toList_join free, String.toList_append, List.append_assoc]

theorem counterparts_script (notTest : isTestName (fileName path) = false)
    (h : (parts path).extension ∈ testedExtensions)
    (script : (parts path).extension ≠ ".py") {other : String} (ho : other ∈ testsBeside path) :
    counterparts other = [path] ↔ IsPlain path ∧ IsReversible path := by
  obtain ⟨letters, he⟩ := exists_isExtension h
  obtain ⟨name, hn, rfl⟩ := List.mem_map.mp ho
  have free := notMem_testNames h name hn
  have test : isTestName (fileName (join (directory path) name)) = true := by
    rw [fileName_join free]
    exact isTestName_script h script hn
  rw [testNames_script script] at hn
  obtain ⟨marker, hm, rfl⟩ := List.mem_map.mp hn
  have word : ∀ marker ∈ testInfixes, ∃ c ∈ marker.toList, c ≠ '.' := by decide
  obtain ⟨c, hc, ne⟩ := word marker hm
  have same : (parts (join (directory path)
      (stem (parts path) ++ marker ++ (parts path).extension))).extension =
        (parts path).extension := by
    rw [parts_extension, fileName_join free]
    refine he.extension_eq (String.toList_append ..) free ⟨c, ?_, ne⟩
    rw [String.toList_append]
    exact List.mem_append_right _ hc
  have script' : (parts (join (directory path)
      (stem (parts path) ++ marker ++ (parts path).extension))).extension ≠ ".py" :=
    fun python => script (same.symm.trans python)
  rw [counterparts_of_scriptTest test script', toList_join free, String.toList_append,
    String.toList_append, List.append_assoc, ← List.append_assoc, isPlain_iff h, IsReversible,
    if_neg script, List.cons.injEq, eq_self_iff_true, and_true, ← String.toList_inj,
    String.toList_ofList]
  rcases dropTestInfix_path he hm (opened (directory path) ++ (stem (parts path)).toList) with
    ⟨unmarked, back⟩ | ⟨marked, before, back⟩
  · rw [back, eq_comm]
    exact ⟨fun plain => ⟨plain, plain ▸ unmarked⟩, And.left⟩
  · rw [back]
    refine iff_of_false (fun ends => ?_) fun plain => plain.2 (plain.1 ▸ marked)
    rw [isTestName_fileName_of_marked he hm ends.symm] at notTest
    exact Bool.false_ne_true notTest.symm

theorem testedModule_test (stem : String) : testedModule ("test_" ++ stem) = stem := by
  have begins : "test_".toList.isPrefixOf ("test_".toList ++ stem.toList) = true :=
    List.isPrefixOf_iff_prefix.mpr (List.prefix_append _ _)
  have cut : ("test_".toList ++ stem.toList).drop 5 = stem.toList := List.drop_left' rfl
  rw [testedModule, String.toList_append, if_pos begins, cut, String.ofList_toList]

theorem counterparts_python (notTest : isTestName (fileName path) = false)
    (h : (parts path).extension = ".py") {other : String} (ho : other ∈ testsBeside path) :
    counterparts other = [path] ↔ IsPlain path ∧ IsReversible path := by
  have tested : (parts path).extension ∈ testedExtensions := by
    rw [h]
    decide
  obtain ⟨letters, he⟩ := exists_isExtension tested
  rw [h] at he
  obtain ⟨name, hn, rfl⟩ := List.mem_map.mp ho
  have free := notMem_testNames tested name hn
  have test := isTestName_python notTest h hn
  rw [testNames_python h, List.mem_singleton] at hn
  have spelled : name.toList = ("test_" ++ stem (parts path)).toList ++ ".py".toList := by
    rw [hn, String.toList_append]
  have named := fileName_join free (directory path)
  have same : (parts (join (directory path) name)).extension = ".py" := by
    rw [parts_extension, named]
    exact he.extension_eq spelled free ⟨'t', by simp, by decide⟩
  have reversible : IsReversible path ↔ Text.OneLine (stem (parts path)) := by
    rw [IsReversible, if_pos h]
  rw [reversible]
  by_cases line : Text.OneLine (stem (parts path))
  · have module : stem (parts (join (directory path) name)) = "test_" ++ stem (parts path) := by
      have cut := stem_eq (named.symm ▸ spelled) (congrArg String.length same)
      rw [cut, String.ofList_toList]
    rw [counterparts_of_pythonTest (named.symm ▸ test.mpr line) same,
      directory_join (isDirectory_directory path) free, module, testedModule_test, IsPlain, h]
    simp [line, eq_comm]
  · have plain : isTestName (fileName (join (directory path) name)) = false := by
      rw [named]
      exact eq_false_of_ne_true (mt test.mp line)
    rw [counterparts_of_python plain same]
    simp [line]

theorem testsLeadBack (notTest : isTestName (fileName path) = false)
    (h : (parts path).extension ∈ testedExtensions) : TestsLeadBack path where
  beside_iff := mem_testsBeside_iff notTest h
  known_iff other ho := by
    obtain ⟨name, hn, rfl⟩ := List.mem_map.mp ho
    rw [fileName_join (notMem_testNames h name hn)]
    by_cases python : (parts path).extension = ".py"
    · rw [isTestName_python notTest python hn]
      exact ⟨fun line _ => line, fun line => line python⟩
    · exact iff_of_true (isTestName_script h python hn) fun hp => absurd hp python
  back_iff other ho := by
    by_cases python : (parts path).extension = ".py"
    · exact counterparts_python notTest python ho
    · exact counterparts_script notTest h python ho

/-- A script in a directory, with capitals and a dot in its name. -/
theorem testsLeadBack_script :
    isTestName (fileName "src/App.view.tsx") = false ∧
      (parts "src/App.view.tsx").extension ∈ testedExtensions ∧
      TestsLeadBack "src/App.view.tsx" :=
  ⟨by decide +kernel, by decide +kernel, testsLeadBack (by decide +kernel) (by decide +kernel)⟩

/-- A mark in the directory is taken for the mark of the test, and so is one in the name; a
module whose name is two lines has no tests that are known as such. -/
theorem not_leadBack_marked :
    (isTestName (fileName "my.test.dir/foo.ts") = false ∧
      "my.test.dir/foo.spec.ts" ∈ testsBeside "my.test.dir/foo.ts" ∧
      counterparts "my.test.dir/foo.spec.ts" = ["my.dir/foo.spec.ts"]) ∧
    (isTestName (fileName "foo.spec.bar.ts") = false ∧
      "foo.spec.bar.test.ts" ∈ testsBeside "foo.spec.bar.ts" ∧
      counterparts "foo.spec.bar.test.ts" = ["foo.bar.test.ts"]) ∧
    isTestName (fileName "a\nb.py") = false ∧ "test_a\nb.py" ∈ testsBeside "a\nb.py" ∧
      isTestName (fileName "test_a\nb.py") = false := by
  decide +kernel

/-- Two slashes and capitals in an extension are not spelled again. -/
example : counterparts "a//b.spec.ts" = ["a//b.ts"] ∧ ¬IsPlain "a//b.ts" ∧ ¬IsPlain "b.TS" := by
  unfold IsPlain
  decide +kernel

end CommitLens.Path
