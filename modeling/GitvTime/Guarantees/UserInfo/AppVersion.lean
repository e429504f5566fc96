import GitvTime.Source.UserInfo.AppVersion
import GitvTime.Support.Runs

/-!
# Which upgrade decides the stored version

Every emitted upgrade overwrites the version and adds its own entry to the history,
whatever its log time, so the column ends with the version of the last update that
Cassandra applied. A version that an upgrade of this topology stored has an entry;
one that was stored before may have none.
-/
namespace GitvTime.Guarantees.UserInfo.AppVersion
open GitvTime.Support GitvTime.Source.UserInfo.AppVersion

variable (parseTime : String → Option Int)

/-! ### What is to be stored -/

/-- A successful upgrade of this app on this device. -/
def Succeeded (key : Key) (input : Upgrade) : Prop :=
  input.updateRes = some "0" ∧ input.key = some key

def timeOf (input : Upgrade) : Option Int := input.logtime.bind parseTime

/-- Successful upgrades of one app on one device, with distinct log times. -/
structure UpgradesOf (inputs : List Upgrade) (key : Key) : Prop where
  nonempty : inputs ≠ []
  legal : ∀ input ∈ inputs, input.isLegal = true
  succeeded : ∀ input ∈ inputs, Succeeded key input
  distinct : (inputs.map (timeOf parseTime)).Nodup

/-- Of the successful upgrades none has a later log time. -/
structure Newest (inputs : List Upgrade) (key : Key) (newest : Upgrade) : Prop where
  member : newest ∈ inputs
  succeeded : Succeeded key newest
  latest : ∃ time, timeOf parseTime newest = some time ∧
    ∀ other ∈ inputs, Succeeded key other → ∀ t, timeOf parseTime other = some t → t ≤ time

/-- The column holds this version, and the history has an entry for it. -/
def Stored (cell : Cell) (appVersion : Option String) : Prop :=
  ∃ version, appVersion = some version ∧ cell.appVersion = some version ∧
    (cell.updateHistory version).isSome = true

def NewestStored (inputs : List Upgrade) (key : Key) (cell : Cell) : Prop :=
  ∃ newest, Newest parseTime inputs key newest ∧ Stored cell newest.appVersion

/-! ### Which action writes it -/

/-- The version that an action writes to the column. -/
def writtenBy (inputs : List Upgrade) (key : Key) : Action → Option String
  | .isChanged _ | .onSuccess _ => none
  | .update index =>
    match inputs[index]?.bind (Upgrade.write parseTime) with
    | some (written, appVersion, _) => if written = key then some appVersion else none
    | none => none

/-- The last update that was applied to the column is of the newest version; without
any update it was stored before, with an entry. -/
def NewestWrittenLast (inputs : List Upgrade) (key : Key) (cell : Cell) (actions : List Action) :
    Prop :=
  ∃ newest, Newest parseTime inputs key newest ∧
    match (actions.filterMap (writtenBy parseTime inputs key)).getLast? with
    | some appVersion => newest.appVersion = some appVersion
    | none => Stored cell newest.appVersion

/-! ### Steps -/

/-- The stored version has an entry in the history. -/
def recorded (cell : Cell) : Bool :=
  cell.appVersion.any fun version => (cell.updateHistory version).isSome

theorem stored_iff (cell : Cell) (appVersion : Option String) :
    Stored cell appVersion ↔ appVersion = cell.appVersion ∧ recorded cell = true := by
  constructor
  · rintro ⟨version, rfl, stored, entry⟩
    exact ⟨stored.symm, by rw [recorded, stored]; exact entry⟩
  · rintro ⟨rfl, entry⟩
    cases stored : cell.appVersion with
    | none => simp [recorded, stored] at entry
    | some version => exact ⟨version, rfl, stored, by simpa [recorded, stored] using entry⟩

@[simp] theorem recorded_update (cell : Cell) (appVersion : String) (logtime : Int) :
    recorded (cell.update appVersion logtime) = true := by
  simp [recorded, Cell.update]

def inputsOf (s : State) : List Upgrade := s.tasks.map Task.input

theorem inputsOf_init (store : Key → Cell) (inputs : List Upgrade) :
    inputsOf (.init store inputs) = inputs := by
  rw [inputsOf, State.init, List.map_map]
  exact List.map_id inputs

variable {parseTime : String → Option Int}

theorem inputsOf_step {s next : State} {action : Action}
    (taken : s.step parseTime action = some next) : inputsOf next = inputsOf s := by
  cases action with
  | isChanged index =>
    simp only [State.step] at taken
    split at taken
    · rename_i found
      cases taken
      exact map_set_same found rfl
    · cases taken
  | onSuccess index =>
    simp only [State.step] at taken
    split at taken
    · rename_i found
      cases taken
      exact map_set_same found rfl
    · cases taken
  | update index =>
    simp only [State.step] at taken
    split at taken
    · rename_i found
      split at taken
      · cases taken
        exact map_set_same found rfl
      · cases taken
        exact map_set_same found rfl
    · cases taken

/-- A step leaves the column as it is or makes one update of it. -/
theorem store_step {s next : State} {action : Action}
    (taken : s.step parseTime action = some next) (key : Key) :
    (writtenBy parseTime (inputsOf s) key action = none ∧ next.store key = s.store key) ∨
      ∃ appVersion logtime, writtenBy parseTime (inputsOf s) key action = some appVersion ∧
        next.store key = (s.store key).update appVersion logtime := by
  cases action with
  | isChanged index =>
    simp only [State.step] at taken
    split at taken
    · cases taken
      exact .inl ⟨rfl, rfl⟩
    · cases taken
  | onSuccess index =>
    simp only [State.step] at taken
    split at taken
    · cases taken
      exact .inl ⟨rfl, rfl⟩
    · cases taken
  | update index =>
    simp only [State.step] at taken
    split at taken
    · rename_i input found
      have at_index : (inputsOf s)[index]? = some input := by
        rw [inputsOf, List.getElem?_map, found]
        rfl
      split at taken
      · rename_i written appVersion logtime write
        cases taken
        by_cases here : written = key
        · subst here
          refine .inr ⟨appVersion, logtime, ?_, Function.update_self _ _ _⟩
          simp [writtenBy, at_index, write]
        · refine .inl ⟨?_, Function.update_of_ne (Ne.symm here) _ _⟩
          simp [writtenBy, at_index, write, here]
      · rename_i refused
        cases taken
        exact .inl ⟨by simp [writtenBy, at_index, refused], rfl⟩
    · cases taken

/-- The column holds the version of its last update, with an entry; without one it
is as it was. -/
theorem store_of_last_write {store : Key → Cell} {inputs : List Upgrade} {actions : List Action}
    {last : State} (key : Key)
    (reached : runSteps (State.step parseTime) (.init store inputs) actions = some last) :
    ((last.store key).appVersion, recorded (last.store key)) =
      match (actions.filterMap (writtenBy parseTime inputs key)).getLast? with
      | some appVersion => (some appVersion, true)
      | none => ((store key).appVersion, recorded (store key)) := by
  have final := field_of_last_write (fun s => inputsOf s = inputs)
    (fun s => ((s.store key).appVersion, recorded (s.store key)))
    (fun action => (writtenBy parseTime inputs key action).map fun version => (some version, true))
    (fun s action next same taken => (inputsOf_step taken).trans same) ?_ actions
    (inputsOf_init store inputs) reached
  · rw [← List.map_filterMap, List.getLast?_map] at final
    cases writes : (actions.filterMap (writtenBy parseTime inputs key)).getLast? with
    | none =>
      rw [writes] at final
      exact final
    | some appVersion =>
      rw [writes] at final
      exact final
  · intro s action next same taken
    rcases store_step taken key with ⟨none_, kept⟩ | ⟨appVersion, logtime, some_, updated⟩
    · rw [same] at none_
      rw [none_, kept]
      rfl
    · rw [same] at some_
      rw [some_, updated, recorded_update]
      rfl

/-- Whatever the order of the reads, the tests and the updates, and after any number
of them, the newest version is stored exactly when it was written last. -/
theorem newest_version_stored_iff {store : Key → Cell} {inputs : List Upgrade}
    {actions : List Action} {last : State} (key : Key)
    (reached : runSteps (State.step parseTime) (.init store inputs) actions = some last) :
    NewestStored parseTime inputs key (last.store key) ↔
      NewestWrittenLast parseTime inputs key (store key) actions := by
  have final := store_of_last_write key reached
  refine exists_congr fun newest => and_congr_right fun _ => ?_
  rw [stored_iff]
  cases writes : (actions.filterMap (writtenBy parseTime inputs key)).getLast? with
  | none =>
    simp only [writes, Prod.mk.injEq] at final
    rw [final.1, final.2, ← stored_iff]
  | some appVersion =>
    simp only [writes, Prod.mk.injEq] at final
    simp [final.1, final.2]

/-! ### Two upgrades -/

def firstUpgrade : Upgrade where
  enumtype := some "LIVOD"
  partner := some "AH_CP"
  mac := some "14:3D:F2:1B:6C:07"
  appVersion := some "1.1.8"
  updateRes := some "0"
  logtime := some "2016-11-18 08:00:00"

def secondUpgrade : Upgrade :=
  { firstUpgrade with appVersion := some "2.3.10", logtime := some "2016-11-19 09:30:00" }

def upgradedApp : Key := ⟨"AH_CP", "14:3D:F2:1B:6C:07", .livod⟩

/-- The two log times in the time zone of the cluster. -/
def sampleTime (text : String) : Option Int :=
  if text = "2016-11-18 08:00:00" then some 1479427200000
  else if text = "2016-11-19 09:30:00" then some 1479519000000
  else none

theorem second_newest :
    Newest sampleTime [firstUpgrade, secondUpgrade] upgradedApp secondUpgrade where
  member := by simp
  succeeded := by unfold Succeeded; decide
  latest := by
    refine ⟨1479519000000, rfl, fun other member _ t at_t => ?_⟩
    rcases List.mem_pair.mp member with rfl | rfl
    · cases at_t
      decide
    · cases at_t
      decide

/-- The row is new. -/
def noVersion : Key → Cell := fun _ => ⟨none, fun _ => none⟩

/-- One upgrade after the other, by log time. -/
def orderedRun : List Action :=
  [.isChanged 0, .onSuccess 0, .update 0, .isChanged 1, .onSuccess 1, .update 1]

/-- The reads and tests come by log time, the updates the other way round. -/
def overtakenRun : List Action :=
  [.isChanged 0, .onSuccess 0, .isChanged 1, .onSuccess 1, .update 1, .update 0]

theorem ordered_upgrades_right :
    ∃ last, runSteps (State.step sampleTime) (.init noVersion [firstUpgrade, secondUpgrade])
      orderedRun = some last ∧
        NewestStored sampleTime [firstUpgrade, secondUpgrade] upgradedApp
          (last.store upgradedApp) := by
  have reached : runSteps (State.step sampleTime)
      (.init noVersion [firstUpgrade, secondUpgrade]) orderedRun = some _ := rfl
  exact ⟨_, reached,
    (newest_version_stored_iff upgradedApp reached).mpr ⟨secondUpgrade, second_newest, rfl⟩⟩

/-- The older update overtakes the newer one. -/
theorem older_update_overtakes :
    ¬ ∀ (parseTime : String → Option Int) (store : Key → Cell) (inputs : List Upgrade) (key : Key)
      (actions : List Action) (last : State), UpgradesOf parseTime inputs key →
        runSteps (State.step parseTime) (.init store inputs) actions = some last →
          last.Finished → NewestStored parseTime inputs key (last.store key) := by
  intro right
  have upgrades : UpgradesOf sampleTime [firstUpgrade, secondUpgrade] upgradedApp :=
    ⟨by simp, by decide, by unfold Succeeded; decide, by decide⟩
  have reached : runSteps (State.step sampleTime)
      (.init noVersion [firstUpgrade, secondUpgrade]) overtakenRun = some _ := rfl
  obtain ⟨newest, is_newest, version, named, stored, _⟩ :=
    right _ _ _ _ _ _ upgrades reached (by unfold State.Finished; decide)
  obtain ⟨time, at_time, latest⟩ := is_newest.latest
  have later := latest secondUpgrade (by simp) second_newest.succeeded _ rfl
  rcases List.mem_pair.mp is_newest.member with rfl | rfl
  · cases at_time
    revert later
    decide
  · cases named
    revert stored
    decide

end GitvTime.Guarantees.UserInfo.AppVersion
