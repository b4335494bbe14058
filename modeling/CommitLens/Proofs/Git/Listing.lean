import CommitLens.Git.Listing
import CommitLens.Proofs.Text

/-!
# Listings written and read

How Git writes a listing of differences: a line for each entry, tabs between its
fields, and quotes around a path that has quotes or backslashes of its own.  Main
statement: reading such a listing gives back its entries.
-/

namespace CommitLens

open Text

namespace Git

/-! ## Paths in quotes -/

/-- Characters that stand behind a backslash between quotes. -/
def isEscaped (c : Char) : Bool :=
  c == '"' || c == '\\'

/-- Write a backslash before every quote and every backslash. -/
def escape (cs : List Char) : List Char :=
  cs.flatMap fun c => if isEscaped c then ['\\', c] else [c]

/-- A path as a listing has it. -/
def quote (path : String) : String :=
  if path.toList.any isEscaped then "\"" ++ String.ofList (escape path.toList) ++ "\"" else path

theorem not_isEscaped_iff {c : Char} : ¬isEscaped c ↔ c ≠ '"' ∧ c ≠ '\\' := by
  simp [isEscaped]

/-! ### Spellings -/

/-- The characters of a spelling that is left alone between quotes: neither quotes nor
backslashes, but for a backslash in front of others. -/
inductive LeftAlone : List Char → Prop
  | plain {c : Char} {cs : List Char} (h : ∀ d ∈ c :: cs, ¬isEscaped d) : LeftAlone (c :: cs)
  | behind {c : Char} {cs : List Char} (h : ∀ d ∈ c :: cs, ¬isEscaped d) :
      LeftAlone ('\\' :: c :: cs)

/-- A way to spell all characters: quotes and backslashes stand for themselves. -/
structure Spells (spell : Char → List Char) : Prop where
  escaped : ∀ c, isEscaped c → spell c = [c]
  other : ∀ c, ¬isEscaped c → LeftAlone (spell c)

/-- Write a backslash before every quote and every backslash, and every other character as it
is spelled. -/
def escapeBy (spell : Char → List Char) (cs : List Char) : List Char :=
  cs.flatMap fun c => if isEscaped c then ['\\', c] else spell c

theorem spells_self : Spells fun c => [c] where
  escaped _ _ := rfl
  other _ h := .plain (by simpa using h)

section Spells

variable {spell : Char → List Char} {spelling : List Char} {mark : Char}

theorem replaceAll_plain {marks plain : List Char} (h : ∀ c ∈ plain, ¬isEscaped c)
    (new rest : List Char) :
    replaceAll ('\\' :: marks) new (plain ++ rest) =
      plain ++ replaceAll ('\\' :: marks) new rest := by
  induction plain with
  | nil => rfl
  | cons c plain ih =>
      rw [List.forall_mem_cons] at h
      have apart : ¬ '\\' :: marks <+: c :: (plain ++ rest) := by
        intro found
        obtain rfl := (List.cons_prefix_cons.mp found).1
        exact h.1 rfl
      rw [List.cons_append, replaceAll_cons apart, ih h.2, List.cons_append]

theorem LeftAlone.replaceAll_append (h : LeftAlone spelling) (hm : isEscaped mark)
    (new rest : List Char) :
    replaceAll ['\\', mark] new (spelling ++ rest) =
      spelling ++ replaceAll ['\\', mark] new rest := by
  cases h with
  | plain h => exact replaceAll_plain h new rest
  | @behind c cs h =>
      have apart : ¬['\\', mark] <+: '\\' :: (c :: cs ++ rest) := by
        intro found
        obtain rfl := (List.cons_prefix_cons.mp (List.cons_prefix_cons.mp found).2).1
        exact h mark List.mem_cons_self hm
      rw [List.cons_append, replaceAll_cons apart, replaceAll_plain h]
      rfl

theorem LeftAlone.not_quote_opens (h : LeftAlone spelling) (rest : List Char) :
    ¬['"'] <+: spelling ++ rest := by
  cases h with
  | @plain c cs h =>
      intro found
      obtain rfl := (List.cons_prefix_cons.mp found).1
      exact h '"' List.mem_cons_self rfl
  | behind h => simp

theorem escapeBy_cons_of_isEscaped {c : Char} (h : isEscaped c) (cs : List Char) :
    escapeBy spell (c :: cs) = '\\' :: c :: escapeBy spell cs := by
  simp [escapeBy, h]

theorem escapeBy_cons_of_not_isEscaped {c : Char} (h : ¬isEscaped c) (cs : List Char) :
    escapeBy spell (c :: cs) = spell c ++ escapeBy spell cs := by
  simp [escapeBy, h]

/-- An escaped text does not begin with a quote. -/
theorem not_quote_prefix_escapeBy (h : Spells spell) (cs : List Char) :
    ¬['"'] <+: escapeBy spell cs := by
  cases cs with
  | nil => simp [escapeBy]
  | cons c cs =>
      by_cases hc : isEscaped c
      · rw [escapeBy_cons_of_isEscaped hc]
        simp
      · rw [escapeBy_cons_of_not_isEscaped hc]
        exact (h.other c hc).not_quote_opens _

/-- What is left of an escaped text when its quotes have lost their backslashes. -/
def escapeBackslashesBy (spell : Char → List Char) (cs : List Char) : List Char :=
  cs.flatMap fun c => if c = '\\' then ['\\', c] else spell c

/-- The first replacement takes the backslashes from the quotes.  Neither backslash of
a pair stands before a quote, so both are left. -/
theorem replaceAll_escapeBy (h : Spells spell) (cs : List Char) :
    replaceAll ['\\', '"'] ['"'] (escapeBy spell cs) = escapeBackslashesBy spell cs := by
  induction cs with
  | nil => rfl
  | cons c cs ih =>
      by_cases hq : c = '"'
      · subst hq
        have tail : escapeBackslashesBy spell ('"' :: cs) = '"' :: escapeBackslashesBy spell cs := by
          simp [escapeBackslashesBy, h.escaped '"' rfl]
        rw [escapeBy_cons_of_isEscaped rfl, tail]
        exact (replaceAll_append (by simp) (escapeBy spell cs)).trans (congrArg ('"' :: ·) ih)
      by_cases hb : c = '\\'
      · subst hb
        have second : ¬['\\', '"'] <+: '\\' :: escapeBy spell cs := fun found =>
          not_quote_prefix_escapeBy h cs (List.cons_prefix_cons.mp found).2
        have first : ¬['\\', '"'] <+: '\\' :: '\\' :: escapeBy spell cs := by simp
        rw [escapeBy_cons_of_isEscaped rfl, replaceAll_cons first, replaceAll_cons second, ih]
        rfl
      · have plain : ¬isEscaped c := not_isEscaped_iff.mpr ⟨hq, hb⟩
        rw [escapeBy_cons_of_not_isEscaped plain, (h.other c plain).replaceAll_append rfl, ih]
        simp [escapeBackslashesBy, hb]

/-- The second replacement makes one backslash of every pair. -/
theorem replaceAll_escapeBackslashesBy (h : Spells spell) (cs : List Char) :
    replaceAll ['\\', '\\'] ['\\'] (escapeBackslashesBy spell cs) = cs.flatMap spell := by
  induction cs with
  | nil => rfl
  | cons c cs ih =>
      rw [List.flatMap_cons, ← ih]
      by_cases hb : c = '\\'
      · subst hb
        rw [h.escaped '\\' rfl]
        exact replaceAll_append (by simp) (escapeBackslashesBy spell cs)
      have tail : escapeBackslashesBy spell (c :: cs) =
          spell c ++ escapeBackslashesBy spell cs := by
        simp [escapeBackslashesBy, hb]
      rw [tail]
      by_cases hq : c = '"'
      · have apart : ¬['\\', '\\'] <+: '"' :: escapeBackslashesBy spell cs := by simp
        rw [hq, h.escaped '"' rfl, List.singleton_append, replaceAll_cons apart,
          List.singleton_append]
      · exact (h.other c (not_isEscaped_iff.mpr ⟨hq, hb⟩)).replaceAll_append rfl _ _

end Spells

theorem escape_cons_of_isEscaped {c : Char} (h : isEscaped c) (cs : List Char) :
    escape (c :: cs) = '\\' :: c :: escape cs :=
  escapeBy_cons_of_isEscaped h cs

theorem escape_cons_of_not_isEscaped {c : Char} (h : ¬isEscaped c) (cs : List Char) :
    escape (c :: cs) = c :: escape cs :=
  escapeBy_cons_of_not_isEscaped h cs

/-! ### Reading -/

theorem toList_quotes (inside : List Char) :
    ("\"" ++ String.ofList inside ++ "\"").toList = '"' :: (inside ++ ['"']) := by
  simp

theorem unquote_of_quotes (inside : List Char) :
    unquote ("\"" ++ String.ofList inside ++ "\"") =
      replace (replace (String.ofList inside) "\\\"" "\"") "\\\\" "\\" := by
  unfold unquote
  rw [toList_quotes]
  simp

theorem unquote_of_not_isEscaped {path : String} (h : ∀ c ∈ path.toList, ¬isEscaped c) :
    unquote path = path := by
  unfold unquote
  split
  · rename_i rest hpath
    exact absurd rfl (h '"' (hpath ▸ List.mem_cons_self))
  · rfl

/-- An escaped text comes out of its quotes as its characters are spelled. -/
theorem unquote_quotes_escapeBy {spell : Char → List Char} (h : Spells spell) (cs : List Char) :
    unquote ("\"" ++ String.ofList (escapeBy spell cs) ++ "\"") =
      String.ofList (cs.flatMap spell) := by
  have inside : (String.ofList (escapeBy spell cs)).toList = escapeBy spell cs :=
    String.toList_ofList
  have quotes : (replace (String.ofList (escapeBy spell cs)) "\\\"" "\"").toList =
      escapeBackslashesBy spell cs := by
    rw [toList_replace (by simp), inside]
    exact replaceAll_escapeBy h cs
  rw [unquote_of_quotes, String.ext_iff, toList_replace (by simp), quotes]
  exact (replaceAll_escapeBackslashesBy h cs).trans String.toList_ofList.symm

/-- Where all characters stand for themselves, the text is as it was. -/
theorem unquote_quotes_escape (cs : List Char) :
    unquote ("\"" ++ String.ofList (escape cs) ++ "\"") = String.ofList cs := by
  have read := unquote_quotes_escapeBy spells_self cs
  rwa [List.flatMap_singleton'] at read

/-- A path comes out of its quotes as it went in. -/
theorem unquote_quote (path : String) : unquote (quote path) = path := by
  unfold quote
  split
  · rw [unquote_quotes_escape, String.ofList_toList]
  · rename_i plain
    exact unquote_of_not_isEscaped (by simpa using plain)

example : quote "a \"b\\c" = "\"a \\\"b\\\\c\"" := by decide

theorem mem_quotes_escape {cs : List Char} {c : Char}
    (h : c ∈ ("\"" ++ String.ofList (escape cs) ++ "\"").toList) : isEscaped c ∨ c ∈ cs := by
  have around : c = '"' ∨ c ∈ escape cs := by simpa [or_comm, or_assoc] using h
  rcases around with rfl | h
  · exact .inl rfl
  · obtain ⟨d, hd, hc⟩ := List.mem_flatMap.mp h
    split at hc
    · rcases List.mem_cons.mp hc with rfl | hc
      · exact .inl rfl
      · exact .inr (List.mem_singleton.mp hc ▸ hd)
    · exact .inr (List.mem_singleton.mp hc ▸ hd)

theorem mem_quote {path : String} {c : Char} (h : c ∈ (quote path).toList) :
    isEscaped c ∨ c ∈ path.toList := by
  unfold quote at h
  split at h
  · exact mem_quotes_escape h
  · exact .inr h

/-! ## Characters of a line -/

/-- A character that is no control character and ends no line. -/
def isPlain (c : Char) : Bool :=
  32 ≤ c.toNat && c != '\u0085' && c != '\u2028' && c != '\u2029'

/-- A character that ends neither a field nor a line. -/
def IsInner (c : Char) : Prop :=
  c ≠ '\t' ∧ isLineEnd c = false

theorem isInner_of_isPlain {c : Char} (h : isPlain c) : IsInner c := by
  simp only [isPlain, Bool.and_eq_true, decide_eq_true_eq, bne_iff_ne, ne_eq,
    ← Char.toNat_inj] at h
  simp only [IsInner, isLineEnd, ne_eq, ← Char.toNat_inj, Bool.or_eq_false_iff,
    Bool.and_eq_false_iff, decide_eq_false_iff_not, beq_eq_false_iff_ne]
  simp only [Char.reduceToNat] at *
  omega

theorem isInner_of_visible {c : Char} (h : isBlank c = false) : IsInner c := by
  refine ⟨?_, ?_⟩
  · rintro rfl
    exact absurd h (by decide)
  · cases hend : isLineEnd c with
    | false => rfl
    | true => exact (isBlank_of_isLineEnd c hend).symm.trans h

theorem isInner_of_isEscaped {c : Char} (h : isEscaped c) : IsInner c := by
  rcases (by simpa [isEscaped] using h : c = '"' ∨ c = '\\') with rfl | rfl <;>
    exact isInner_of_visible rfl

theorem isBlank_of_isDigit {c : Char} (h : c.isDigit) : isBlank c = false := by
  have range : 48 ≤ c.toNat ∧ c.toNat ≤ 57 := by
    simpa [Char.isDigit, UInt32.le_iff_toNat_le] using h
  simp only [isBlank, Bool.or_eq_false_iff, Bool.and_eq_false_iff, decide_eq_false_iff_not,
    beq_eq_false_iff_ne]
  omega

end Git

/-! ## Listings -/

/-- A path of plain characters. -/
structure PlainPath where
  text : String
  plain : ∀ c ∈ text.toList, Git.isPlain c

/-- A letter that stands for a change of one path. -/
structure StatusLetter where
  letter : Char
  visible : isBlank letter = false
  onePath : letter ≠ 'R' ∧ letter ≠ 'C'

/-- Changes that come with the path before them. -/
inductive Move where
  | rename
  | copy
  deriving Repr, DecidableEq

def Move.letter : Move → Char
  | rename => 'R'
  | copy => 'C'

/-- How similar two files are, in digits. -/
structure Similarity where
  digits : List Char
  isDigit : ∀ c ∈ digits, c.isDigit

/-- An entry of a listing of differences. -/
inductive Difference where
  | single (status : StatusLetter) (path : PlainPath)
  | moved (move : Move) (score : Similarity) (old new : PlainPath)

namespace Difference

/-- The first field of a line. -/
def code : Difference → String
  | single status _ => String.singleton status.letter
  | moved move score _ _ => String.ofList (move.letter :: score.digits)

/-- The line of an entry. -/
def line (entry : Difference) : String :=
  match entry with
  | single _ path => entry.code ++ "\t" ++ Git.quote path.text
  | moved _ _ old new => entry.code ++ "\t" ++ Git.quote old.text ++ "\t" ++ Git.quote new.text

/-- The change that an entry tells of. -/
def change : Difference → ListedChange
  | single status path => ⟨path.text, some status.letter, none⟩
  | moved move _ old new => ⟨new.text, some move.letter, some old.text⟩

def listing (entries : List Difference) : String :=
  String.join (entries.map fun entry => entry.line ++ "\n")

theorem line_moved (move : Move) (score : Similarity) (old new : PlainPath) :
    line (moved move score old new) = code (moved move score old new) ++ "\t" ++
      (Git.quote old.text ++ "\t" ++ Git.quote new.text) := by
  simp only [line, String.append_assoc]

/-! ### Fields -/

theorem isInner_quote (path : PlainPath) : ∀ c ∈ (Git.quote path.text).toList, Git.IsInner c := by
  intro c hc
  rcases Git.mem_quote hc with escaped | hc
  · exact Git.isInner_of_isEscaped escaped
  · exact Git.isInner_of_isPlain (path.plain c hc)

theorem isInner_code (entry : Difference) : ∀ c ∈ entry.code.toList, Git.IsInner c := by
  cases entry with
  | single status path => simpa [code] using Git.isInner_of_visible status.visible
  | moved move score old new =>
      simp only [code, String.toList_ofList, List.forall_mem_cons]
      refine ⟨?_, fun c hc => Git.isInner_of_visible (Git.isBlank_of_isDigit (score.isDigit c hc))⟩
      cases move <;> exact Git.isInner_of_visible rfl

/-- A line is cut into its fields. -/
theorem split_line (entry : Difference) :
    split '\t' entry.line = entry.code ::
      match entry with
      | single _ path => [Git.quote path.text]
      | moved _ _ old new => [Git.quote old.text, Git.quote new.text] := by
  have noTab {text : String} (h : ∀ c ∈ text.toList, Git.IsInner c) : '\t' ∉ text.toList :=
    fun ht => (h _ ht).1 rfl
  have inCode := noTab entry.isInner_code
  have inPath (path : PlainPath) := noTab (isInner_quote path)
  cases entry with
  | single status path =>
      have fields := split_append inCode (Git.quote path.text)
      rwa [split_of_notMem (inPath path)] at fields
  | moved move score old new =>
      have paths := split_append (inPath old) (Git.quote new.text)
      rw [split_of_notMem (inPath new)] at paths
      rw [line_moved]
      exact (split_append inCode _).trans (congrArg _ paths)

theorem readDifference?_line (entry : Difference) :
    Git.readDifference? entry.line = some entry.change := by
  unfold Git.readDifference?
  rw [split_line]
  cases entry with
  | single status path =>
      simp [code, change, Git.unquote_quote, Git.hasPreviousPath, status.onePath]
  | moved move score old new =>
      cases move <;> simp [code, change, Git.unquote_quote, Git.hasPreviousPath, Move.letter]

/-! ### Lines -/

theorem isLineEnd_line (entry : Difference) : ∀ c ∈ entry.line.toList, isLineEnd c = false := by
  have joined {a b : String} (ha : ∀ c ∈ a.toList, Git.IsInner c)
      (hb : ∀ c ∈ b.toList, isLineEnd c = false) :
      ∀ c ∈ (a ++ "\t" ++ b).toList, isLineEnd c = false := by
    intro c hc
    simp only [String.toList_append, List.mem_append] at hc
    rcases hc with (hc | hc) | hc
    · exact (ha c hc).2
    · obtain rfl : c = '\t' := by simpa using hc
      rfl
    · exact hb c hc
  have last (path : PlainPath) : ∀ c ∈ (Git.quote path.text).toList, isLineEnd c = false :=
    fun c hc => (isInner_quote path c hc).2
  cases entry with
  | single status path => exact joined (isInner_code _) (last path)
  | moved move score old new =>
      rw [line_moved]
      exact joined (isInner_code _) (joined (isInner_quote old) (last new))

theorem isAllBlank_line (entry : Difference) : isAllBlank entry.line = false := by
  unfold isAllBlank
  cases entry with
  | single status path => simp [line, code, status.visible]
  | moved move score old new => cases move <;> simp [line, code, Move.letter, isBlank]

theorem splitLines_listing (entries : List Difference) :
    splitLines (listing entries) = entries.map line := by
  have lines : listing entries = String.join ((entries.map line).map (· ++ "\n")) := by
    rw [listing, List.map_map]
    rfl
  rw [lines, splitLines_join]
  simpa using fun entry _ => isLineEnd_line entry

/-- Reading a listing gives back the entries that it was written for. -/
theorem readDifferences_listing (entries : List Difference) :
    Git.readDifferences (listing entries) = entries.map change := by
  unfold Git.readDifferences
  rw [splitLines_listing]
  induction entries with
  | nil => rfl
  | cons entry rest ih =>
      rw [List.map_cons, List.filter_cons_of_pos (by simp [isAllBlank_line]),
        List.filterMap_cons_some (readDifference?_line entry), ih, List.map_cons]

end Difference

end CommitLens
