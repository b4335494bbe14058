import CommitLens.Proofs.Extraction.Places

/-!
# Extracted changes

A listed file is loaded, fails, or breaks the extraction off.  Main statement: an extraction
divides the listed files that its filter accepts into changes and failures; no file is left
out, none goes both ways, and both lists keep the order of the files.  If one of the files
breaks it off, this holds of the files before the first of them.
-/

namespace CommitLens

/-- Every item goes one of two ways, and both of them keep the order. -/
inductive Divided {α β γ : Type} (kept : α → β → Prop) (lost : α → γ → Prop) :
    List α → List β → List γ → Prop where
  | nil : Divided kept lost [] [] []
  | keep {a : α} {b : β} {as : List α} {bs : List β} {cs : List γ} :
      kept a b → Divided kept lost as bs cs → Divided kept lost (a :: as) (b :: bs) cs
  | lose {a : α} {c : γ} {as : List α} {bs : List β} {cs : List γ} :
      lost a c → Divided kept lost as bs cs → Divided kept lost (a :: as) bs (c :: cs)

namespace Divided

variable {α β γ δ : Type} {kept : α → β → Prop} {lost : α → γ → Prop}
  {as : List α} {bs : List β} {cs : List γ}

theorem length_eq (h : Divided kept lost as bs cs) : as.length = bs.length + cs.length := by
  induction h with
  | nil => rfl
  | keep _ _ ih =>
      simp only [List.length_cons, ih]
      omega
  | lose _ _ ih =>
      simp only [List.length_cons, ih]
      omega

/-- An item that is not kept is lost. -/
theorem exists_lost_of_mem (h : Divided kept lost as bs cs) {a : α} (ha : a ∈ as)
    (hk : ∀ b, ¬kept a b) : ∃ c ∈ cs, lost a c := by
  induction h with
  | nil => cases ha
  | keep hb _ ih =>
      rcases List.mem_cons.mp ha with rfl | ha
      · exact absurd hb (hk _)
      · exact ih ha
  | lose hl _ ih =>
      rcases List.mem_cons.mp ha with rfl | ha
      · exact ⟨_, List.mem_cons_self, hl⟩
      · obtain ⟨c, hc, hac⟩ := ih ha
        exact ⟨c, List.mem_cons_of_mem _ hc, hac⟩

/-- What is kept may be worked on afterwards. -/
theorem map {kept' : α → δ → Prop} (h : Divided kept lost as bs cs) (f : β → δ)
    (hf : ∀ a b, kept a b → kept' a (f b)) : Divided kept' lost as (bs.map f) cs := by
  induction h with
  | nil => exact nil
  | keep hk _ ih => exact keep (hf _ _ hk) ih
  | lose hl _ ih => exact lose hl ih

end Divided

variable {ε : Type} {repository : Repository} {range : ChangeRange} {world : World}

namespace ListedChange

/-- The file is loaded as a change. -/
def Loads (repository : Repository) (range : ChangeRange) (world : World)
    (entry : ListedChange) (change : Change) : Prop :=
  (entry.load repository range).result world = .ok change

/-- The file cannot be loaded, and a failure says why. -/
def FailsToLoad (repository : Repository) (range : ChangeRange) (world : World)
    (entry : ListedChange) (failure : FileFailure) : Prop :=
  ∃ path reason, (entry.load repository range).result world = .error (.unreadable path reason) ∧
    failure = ⟨entry.path, "extraction", reason⟩

/-- The contents of a change are those of its entry; of a binary file none are
kept. -/
structure HasContents (repository : Repository) (range : ChangeRange) (world : World)
    (entry : ListedChange) (old new : Option String) : Prop where
  binary : Path.isBinary entry.path = true → old = none ∧ new = none
  old : Path.isBinary entry.path = false →
    (entry.oldContent repository range).result world = .ok old
  new : Path.isBinary entry.path = false →
    (entry.newContent repository range).result world = .ok new

/-- A change that is loaded is made from its entry and the contents. -/
theorem Loads.eq_ofContents {entry : ListedChange} {change : Change}
    (h : entry.Loads repository range world change) :
    ∃ old new, entry.HasContents repository range world old new ∧
      change = Change.ofContents entry.path entry.kind old new entry.renamedFrom := by
  unfold Loads at h
  rw [load_eq] at h
  cases hb : Path.isBinary entry.path with
  | true =>
      rw [if_pos hb] at h
      exact ⟨none, none, ⟨fun _ => ⟨rfl, rfl⟩, by simp [hb], by simp [hb]⟩,
        (Except.ok.inj h).symm⟩
  | false =>
      rw [if_neg (by simp [hb])] at h
      obtain ⟨old, ho, h⟩ := Session.result_bind_eq_ok_iff.mp h
      obtain ⟨new, hn, h⟩ := Session.result_bind_eq_ok_iff.mp h
      exact ⟨old, new, ⟨by simp [hb], fun _ => ho, fun _ => hn⟩, (Except.ok.inj h).symm⟩

end ListedChange

/-! ## One file after the other -/

/-- What can come of going through listed files. -/
inductive Loading (repository : Repository) (range : ChangeRange) (world : World) :
    List ListedChange → Except QuestionError (List Change) → List FileFailure → Prop
  | finished {entries : List ListedChange} {changes : List Change} {failures : List FileFailure}
      (divided : Divided (ListedChange.Loads repository range world)
        (ListedChange.FailsToLoad repository range world) entries changes failures) :
      Loading repository range world entries (.ok changes) failures
  /-- The files before the first that breaks off are divided; their failures are kept. -/
  | brokenOff {before rest : List ListedChange} {entry : ListedChange} {changes : List Change}
      {failures : List FileFailure}
      (divided : Divided (ListedChange.Loads repository range world)
        (ListedChange.FailsToLoad repository range world) before changes failures)
      (breaks : entry.BreaksOff repository range world) :
      Loading repository range world (before ++ entry :: rest) (.error .nullCharacter) failures

namespace Loading

variable {entry : ListedChange} {entries : List ListedChange} {changes : List Change}
  {found : Except QuestionError (List Change)} {failures : List FileFailure}

theorem keep {change : Change} (loads : entry.Loads repository range world change)
    (loading : Loading repository range world entries found failures) :
    Loading repository range world (entry :: entries) (found.map (change :: ·)) failures := by
  cases loading with
  | finished divided => exact .finished (.keep loads divided)
  | brokenOff divided breaks => exact .brokenOff (.keep loads divided) breaks

theorem lose {failure : FileFailure} (fails : entry.FailsToLoad repository range world failure)
    (loading : Loading repository range world entries found failures) :
    Loading repository range world (entry :: entries) found (failure :: failures) := by
  cases loading with
  | finished divided => exact .finished (.lose fails divided)
  | brokenOff divided breaks => exact .brokenOff (.lose fails divided) breaks

theorem divided (loading : Loading repository range world entries (.ok changes) failures) :
    Divided (ListedChange.Loads repository range world)
      (ListedChange.FailsToLoad repository range world) entries changes failures := by
  cases loading with
  | finished divided => exact divided

/-- A file that breaks off is neither loaded nor set aside. -/
theorem not_breaksOff (loading : Loading repository range world entries (.ok changes) failures) :
    ∀ entry ∈ entries, ¬entry.BreaksOff repository range world := by
  intro entry member breaks
  have broken := ListedChange.load_eq_nullCharacter_iff.mpr breaks
  have unloaded (change : Change) : ¬entry.Loads repository range world change := fun loads =>
    nomatch broken.symm.trans loads
  obtain ⟨_, _, _, _, failed, _⟩ := loading.divided.exists_lost_of_mem member unloaded
  exact nomatch broken.symm.trans failed

theorem breaksOff {error : QuestionError}
    (loading : Loading repository range world entries (.error error) failures) :
    error = .nullCharacter ∧ ∃ entry ∈ entries, entry.BreaksOff repository range world := by
  cases loading with
  | brokenOff divided breaks => exact ⟨rfl, _, by simp, breaks⟩

end Loading

/-- Each file is put to what comes of those behind it, up to one that breaks off. -/
theorem loadChanges_ends (repository : Repository) (range : ChangeRange) (world : World)
    (entries : List ListedChange) :
    ∃ found failures,
      (loadChanges repository range entries : Session ε _).result world = .ok (found, failures) ∧
      Loading repository range world entries found failures := by
  induction entries with
  | nil => exact ⟨.ok [], [], rfl, .finished .nil⟩
  | cons entry rest ih =>
      obtain ⟨found, failures, hr, loading⟩ := ih
      unfold loadChanges
      rw [Session.result_bind_of_ok (Session.result_attempt _)]
      cases hl : (entry.load repository range).result world with
      | ok change =>
          refine ⟨found.map (change :: ·), failures, ?_, loading.keep hl⟩
          rw [Session.result_bind_of_ok hr]
          rfl
      | error error =>
          cases error with
          | nullCharacter =>
              exact ⟨_, _, rfl, .brokenOff .nil (ListedChange.load_eq_nullCharacter_iff.mp hl)⟩
          | unreadable path reason =>
              refine ⟨found, ⟨entry.path, "extraction", reason⟩ :: failures, ?_,
                loading.lose ⟨path, reason, hl, rfl⟩⟩
              rw [Session.result_bind_of_ok (Session.result_log _ _),
                Session.result_bind_of_ok hr]
              rfl

theorem extractChanges_of_error {filter? : Option PathFilter} {record : ExtractionRecord}
    {error : QuestionError} (h : (repository.list range).result world = .error error) :
    (extractChanges repository filter? range record : Session ε _).result world =
      .ok (.error error, { record with failures := [] }) := by
  unfold extractChanges
  rw [Session.result_bind_of_ok (Session.result_attempt _), h]
  rfl

/-- Once the files are listed, an extraction counts them and comes to what loading comes to. -/
theorem extractChanges_of_loaded (filter? : Option PathFilter) (record : ExtractionRecord)
    {listed : List ListedChange} {found : Except QuestionError (List Change)}
    {failures : List FileFailure} (h : (repository.list range).result world = .ok listed) :
    let entries := listed.filter fun entry => filter?.all fun filter => filter.accepts entry.path
    (loadChanges repository range entries : Session ε _).result world = .ok (found, failures) →
      (extractChanges repository filter? range record : Session ε _).result world =
        .ok (found, ⟨failures, entries.length⟩) := by
  intro entries loaded
  unfold extractChanges
  rw [Session.result_bind_of_ok (Session.result_attempt _), h]
  dsimp only
  rw [Session.result_bind_of_ok loaded]
  rfl

theorem extractChanges_of_listed (filter? : Option PathFilter) (record : ExtractionRecord)
    {listed : List ListedChange} (h : (repository.list range).result world = .ok listed) :
    let entries := listed.filter fun entry => filter?.all fun filter => filter.accepts entry.path
    ∃ found failures,
      (extractChanges repository filter? range record : Session ε _).result world =
        .ok (found, ⟨failures, entries.length⟩) ∧
      Loading repository range world entries found failures := by
  intro entries
  obtain ⟨found, failures, loaded, loading⟩ :=
    loadChanges_ends (ε := ε) repository range world entries
  exact ⟨found, failures, extractChanges_of_loaded filter? record h loaded, loading⟩

end CommitLens
