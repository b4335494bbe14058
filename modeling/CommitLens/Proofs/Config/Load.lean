import CommitLens.Config.Load
import CommitLens.Proofs.Config.Read
import CommitLens.Proofs.Session
import Mathlib.Data.List.Forall2

/-!
# What loading a rules file can end with

A rules file that says a YAML value is read like that value, and loading it falls
back on the defaults exactly if it is rejected.  Main statement: without values
that reading breaks off at, loading always comes to a configuration.
-/

namespace CommitLens

open Session Yaml

/-! ## Files that say something -/

theorem FileTree.isPresent_of_read {tree : FileTree} {path : String} {content : List UInt8}
    (h : tree.read path = .ok content) : tree.isPresent path := by
  unfold FileTree.read at h
  unfold FileTree.isPresent
  cases hlook : tree.look path with
  | ok found => rfl
  | error fault =>
      rw [hlook] at h
      cases h

theorem World.isPresent_of_readText {world : World} {path text : String}
    (h : world.readText path = .ok text) : world.isPresent path := by
  unfold World.readText at h
  cases hread : world.files.read (world.locate path) with
  | ok content => exact FileTree.isPresent_of_read hread
  | error fault =>
      rw [hread] at h
      cases h

/-- A document is read in three steps: to tokens, to a tree and to a value. -/
theorem Yaml.readDocument_of_steps {text : String} {tokens : List Token} {node : Node}
    {state : Compose.State} {data : Value} {known : Known} (scanned : Yaml.tokens text = .ok tokens)
    (composed : (Compose.document (4 * tokens.length + 16)).run { tokens } =
      .ok (some node, state))
    (built : (Build.value unfoldings node).run {} = .ok (data, known)) :
    readDocument text = .ok data := by
  simp only [readDocument, Node.ofText, scanned, composed, built, bind, Except.bind, pure,
    Except.pure]

/-- A path is a file that can be read, and its text decodes to a value. -/
def World.Says (world : World) (path : String) (data : Value) : Prop :=
  ∃ text, world.readText path = .ok text ∧ readDocument text = .ok data

namespace World.Says

variable {world : World} {path : String} {data : Value} (h : world.Says path data)
include h

theorem isPresent : world.isPresent path := by
  obtain ⟨text, htext, _⟩ := h
  exact World.isPresent_of_readText htext

theorem readData_result :
    (readData path).result world =
      match data with
      | .null => .error (.rejected (.empty (Path.lastName path)))
      | data => .ok data := by
  have present := isPresent h
  obtain ⟨text, htext, hdata⟩ := h
  simp only [readData, result_bind, result_world, present, htext, hdata]
  cases data <;> rfl

/-- A file is read like the value that it says, unless it says nothing. -/
theorem readConfig_result :
    (readConfig path).result world =
      match data with
      | .null => .error (.rejected (.empty (Path.lastName path)))
      | data => parseConfig data (some path) := by
  have notices (value : Value) : result (do
      for notice in configNotices value do
        Session.log .warning notice
      Session.ofExcept (parseConfig value (some path))) world =
        parseConfig value (some path) := by
    rw [result_bind_of_ok (result_forIn _ fun notice => result_log .warning notice),
      result_ofExcept]
  unfold readConfig
  rw [result_bind, readData_result h]
  cases data <;> first | rfl | exact notices _

theorem readConfig_settles (orderly : data.Orderly) :
    Settles ((readConfig path).result world) := by
  rw [readConfig_result h]
  split
  · exact .rejected _
  · exact parseConfig_settles orderly (some path)

end World.Says

/-! ## Falling back -/

/-- What is loaded where reading comes to a result: the defaults if the file is
rejected. -/
def fallBack : Except ConfigFailure Config → Except ConfigFailure Config
  | .error (.rejected error) => .ok { loadError := some error.message }
  | found => found

theorem loadFile_result (world : World) (path : String) (explicit : Bool) :
    (loadFile path explicit).result world = fallBack ((readConfig path).result world) := by
  unfold loadFile
  rw [result_bind_of_ok (result_attempt _)]
  rcases (readConfig path).result world with failure | config
  · cases failure <;> rfl
  · rfl

/-- A file that is there is loaded, whether it is given or only found. -/
theorem loadConfig_result {world : World} {root path : String} {path? : Option String}
    (h : path?.getD (Path.below root configFileName) = path) (present : world.isPresent path) :
    (loadConfig root path?).result world = fallBack ((readConfig path).result world) := by
  unfold loadConfig
  cases path? with
  | some given =>
      cases h
      exact loadFile_result world given true
  | none =>
      obtain rfl : Path.below root configFileName = path := h
      dsimp only
      rw [result_bind_of_ok result_world, if_pos present]
      exact loadFile_result world _ false

/-- A value of any shape is read to a configuration or rejected; a file that says it
is loaded as that configuration, or as the defaults with the reason. -/
theorem loadConfig_settles {data : Value} (orderly : data.Orderly) :
    (∀ source, Settles (parseConfig data source)) ∧
    ∀ (world : World) (path : String), world.Says path data →
      Settles ((readConfig path).result world) ∧
      ∀ root path?, path?.getD (Path.below root configFileName) = path →
        (∃ config, (readConfig path).result world = .ok config ∧
          (loadConfig root path?).result world = .ok config) ∨
        ∃ error, (readConfig path).result world = .error (.rejected error) ∧
          (loadConfig root path?).result world =
            .ok { loadError := some error.message } := by
  refine ⟨parseConfig_settles orderly, fun world path file => ?_⟩
  have settles := file.readConfig_settles orderly
  refine ⟨settles, fun root path? hpath => ?_⟩
  rw [loadConfig_result hpath file.isPresent]
  generalize (readConfig path).result world = found at settles
  cases settles with
  | ok config => exact .inl ⟨config, rfl, rfl⟩
  | rejected error => exact .inr ⟨error, rfl, rfl⟩

/-- The file of a rule with a key that is passed over. -/
theorem loadConfig_settles_ignoredKey :
    let data : Value := .list [.mapping [(.text "id", .text "a"), (.text "b", .text "c")]]
    let text := "- \"id\": \"a\"\n  \"b\": \"c\"\n"
    let world : World :=
      { command := fun _ => .notStarted "no command"
        files := { entries := [(["r"], .directory),
          (["r", ".diffsense.yml"], .file text.toUTF8.toList)] }
        directory := "/r" }
    let path := "/r/.diffsense.yml"
    data.Orderly ∧ world.Says path data ∧ none.getD (Path.below "/r" configFileName) = path ∧
      Settles (parseConfig data) ∧ Settles ((readConfig path).result world) ∧
      ((∃ config, (readConfig path).result world = .ok config ∧
          (loadConfig "/r" none).result world = .ok config) ∨
        ∃ error, (readConfig path).result world = .error (.rejected error) ∧
          (loadConfig "/r" none).result world =
            .ok { loadError := some error.message }) := by
  intro data text world path
  have orderly : data.Orderly :=
    { keys := fun entries h => nomatch h
      rules := fun items hitems entries hentries => by
        cases hitems
        cases List.mem_singleton.mp hentries
        exact .of_texts (by simp)
      scoring := fun entries h => nomatch h }
  have scanned : Yaml.tokens text = .ok [.blockSequenceStart, .blockEntry, .blockMappingStart,
      .key, .scalar "id" false, .value, .scalar "a" false,
      .key, .scalar "b" false, .value, .scalar "c" false, .blockEnd, .blockEnd, .streamEnd] := by
    decide +kernel
  have built : (Build.value unfoldings (.sequence none none [.mapping none none
      [(.scalar none none false "id", .scalar none none false "a"),
        (.scalar none none false "b", .scalar none none false "c")]])).run {} =
      .ok (data, {}) := by
    simp [Build.value, Build.values, Build.entryValues, Build.enter, Build.record, Build.gather,
      Build.sequenceValue, Node.anchor?, Node.isMergeKey, Node.isDefaultKey, Node.scalarKind,
      scalarValue, Value.isKey]
    rfl
  have file : world.Says path data :=
    ⟨text, by decide +kernel, readDocument_of_steps scanned rfl built⟩
  have default : none.getD (Path.below "/r" configFileName) = path := by decide +kernel
  obtain ⟨parsed, loaded⟩ := loadConfig_settles orderly
  obtain ⟨read, load⟩ := loaded world path file
  exact ⟨orderly, file, default, parsed none, read, load "/r" none default⟩

/-- A weight beyond all doubles is not rejected. -/
theorem parseConfig_of_large {n : Int} (h : Decimal.wholeLimit ≤ n.natAbs) :
    parseConfig (.mapping [(.text "scoring",
      .mapping [(.text "breaking", .number (.whole n))])]) = .error .tooLarge := by
  let entries : List (Value × Value) :=
    [(.text "scoring", .mapping [(.text "breaking", .number (.whole n))])]
  have known : unknownKeys topLevelKeys entries = .ok [] :=
    sortKeys_eq_ok_iff.mpr ⟨List.Pairwise.nil, List.mergeSort_nil⟩
  have top : topLevel (.mapping entries) = .ok entries := by
    rw [topLevel, known]
    rfl
  have types : readCommitTypes entries = .ok builtinCommitTypes := rfl
  have rules : readRules (Yaml.entry? entries "rules") builtinCommitTypes = .ok defaultRules := rfl
  have excluded : textList (Yaml.entry? entries "exclude_paths") "exclude_paths" = .ok [] := rfl
  have included : textList (Yaml.entry? entries "include_only") "include_only" = .ok [] := rfl
  have weight : WeightName.ofText? "breaking" = some .breaking := rfl
  have scoring : readScoring (Yaml.entry? entries "scoring") = .error .tooLarge := by
    have found : Yaml.entry? entries "scoring" =
        some (.mapping [(.text "breaking", .number (.whole n))]) := rfl
    simp only [found, readScoring, List.mapM_cons, readSetting, Value.shown, weight,
      weightOf_of_large h, bind, Except.bind]
  simp only [parseConfig, bind, Except.bind, entries, top, types, rules, excluded, included,
    scoring]

/-- An unknown key with too many digits is not rejected. -/
theorem parseConfig_of_long {n : Int} (h : Nat.pow 10 digitLimit ≤ n.natAbs) :
    parseConfig (.mapping [(.number (.whole n), .null)]) =
      .error (.scalar .tooLongToWrite) := by
  have key : unknownKeys topLevelKeys [(.number (.whole n), .null)] =
      .ok [.number (.whole n)] :=
    sortKeys_eq_ok_iff.mpr ⟨List.pairwise_singleton _ _, List.mergeSort_singleton _⟩
  simp only [parseConfig, topLevel, key, List.isEmpty_cons, List.mapM_cons, showKey_of_long h,
    bind, Except.bind, Bool.false_eq_true, if_false]

/-- Reading breaks off at keys of different kinds, at a weight beyond all doubles
and at a key with too many digits. -/
theorem parseConfig_breaksOff :
    parseConfig (.mapping [(.number (.whole 0), .text "x"), (.text "a", .text "y")]) =
        .error (.unordered "str" "int") ∧
      parseConfig (.mapping [(.text "scoring",
        .mapping [(.text "breaking", .number (.whole (Nat.pow 10 400)))])]) =
        .error .tooLarge ∧
      parseConfig (.mapping [(.number (.whole (Nat.pow 10 4300)), .null)]) =
        .error (.scalar .tooLongToWrite) := by
  refine ⟨rfl, parseConfig_of_large ?_, parseConfig_of_long ?_⟩
  · decide +kernel
  · decide +kernel

end CommitLens
