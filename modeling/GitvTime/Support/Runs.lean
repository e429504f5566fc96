import Mathlib.Data.List.Basic
import Mathlib.Algebra.Ring.Int.Defs

/-!
# Runs of a partial step function

`step state action = none` says the action is not possible. A statement about a
run speaks of the states along a list of actions, up to the first impossible
one. Each induction over runs is done once here.
-/
namespace GitvTime.Support

variable {σ α : Type} (step : σ → α → Option σ)

/-- Execute a list of actions. -/
def runSteps : σ → List α → Option σ
  | state, [] => some state
  | state, action :: rest => (step state action).bind fun next => runSteps next rest

/-- `P` holds in every state along the run. -/
def AllStates (P : σ → Prop) : σ → List α → Prop
  | state, [] => P state
  | state, action :: rest =>
    P state ∧ ∀ next, step state action = some next → AllStates P next rest

/-- `C` holds of every step of the run, in the state before it. -/
def AllSteps (C : σ → α → Prop) : σ → List α → Prop
  | _, [] => True
  | state, action :: rest =>
    ∀ next, step state action = some next → C state action ∧ AllSteps C next rest

variable {step}

theorem runSteps_cons {action : α} {rest : List α} {state next last : σ}
    (taken : step state action = some next) (reached : runSteps step next rest = some last) :
    runSteps step state (action :: rest) = some last :=
  Option.bind_eq_some_iff.mpr ⟨next, taken, reached⟩

theorem runSteps_append {first later : List α} {state middle last : σ}
    (to_middle : runSteps step state first = some middle)
    (to_last : runSteps step middle later = some last) :
    runSteps step state (first ++ later) = some last := by
  induction first generalizing state with
  | nil =>
    cases to_middle
    exact to_last
  | cons action rest ih =>
    obtain ⟨next, taken, to_middle⟩ := Option.bind_eq_some_iff.mp to_middle
    exact Option.bind_eq_some_iff.mpr ⟨next, taken, ih to_middle⟩

theorem runSteps_snoc {first : List α} {action : α} {state middle last : σ}
    (to_middle : runSteps step state first = some middle) (taken : step middle action = some last) :
    runSteps step state (first ++ [action]) = some last :=
  runSteps_append to_middle (runSteps_cons taken rfl)

/-- An invariant of the steps holds along every run. -/
theorem AllStates.of_invariant {Inv : σ → Prop}
    (preserved : ∀ state action next, Inv state → step state action = some next → Inv next)
    (actions : List α) {state : σ} (start : Inv state) : AllStates step Inv state actions := by
  induction actions generalizing state with
  | nil => exact start
  | cons action rest ih => exact ⟨start, fun next taken => ih (preserved _ _ _ start taken)⟩

theorem AllStates.mono {P Q : σ → Prop} (weaker : ∀ state, P state → Q state)
    {actions : List α} {state : σ} (run : AllStates step P state actions) :
    AllStates step Q state actions := by
  induction actions generalizing state with
  | nil => exact weaker _ run
  | cons action rest ih => exact ⟨weaker _ run.1, fun next taken => ih (run.2 next taken)⟩

theorem AllStates.start {P : σ → Prop} {actions : List α} {state : σ}
    (run : AllStates step P state actions) : P state := by
  cases actions with
  | nil => exact run
  | cons _ _ => exact run.1

/-- When, under an invariant, a step keeps `P` exactly if it meets `C`, a run
keeps `P` throughout exactly if all of its steps meet `C`. -/
theorem AllStates.iff_allSteps (Inv : σ → Prop) {P : σ → Prop} {C : σ → α → Prop}
    (preserved : ∀ state action next, Inv state → step state action = some next → Inv next)
    (exact_step : ∀ state action next, Inv state → P state → step state action = some next →
      (P next ↔ C state action))
    (actions : List α) {state : σ} (inv : Inv state) (start : P state) :
    AllStates step P state actions ↔ AllSteps step C state actions := by
  induction actions generalizing state with
  | nil => exact ⟨fun _ => trivial, fun _ => start⟩
  | cons action rest ih =>
    constructor
    · rintro ⟨_, later⟩ next taken
      have inv' := preserved _ _ _ inv taken
      have after := later next taken
      have start' : P next := after.start
      exact ⟨(exact_step _ _ _ inv start taken).mp start', (ih inv' start').mp after⟩
    · intro steps
      refine ⟨start, fun next taken => ?_⟩
      obtain ⟨met, later⟩ := steps next taken
      have start' := (exact_step _ _ _ inv start taken).mpr met
      exact (ih (preserved _ _ _ inv taken) start').mpr later

theorem AllSteps.congr {C D : σ → α → Prop} (same : ∀ state action, C state action ↔ D state action)
    {actions : List α} {state : σ} :
    AllSteps step C state actions ↔ AllSteps step D state actions := by
  have eq : C = D := funext fun state => funext fun action => propext (same state action)
  rw [eq]

/-- Two conditions that agree on the steps under an invariant agree on runs. -/
theorem AllSteps.iff_of_invariant (Inv : σ → Prop) {C D : σ → α → Prop}
    (preserved : ∀ state action next, Inv state → step state action = some next → Inv next)
    (same : ∀ state action next, Inv state → step state action = some next →
      (C state action ↔ D state action))
    (actions : List α) {state : σ} (inv : Inv state) :
    AllSteps step C state actions ↔ AllSteps step D state actions := by
  induction actions generalizing state with
  | nil => exact Iff.rfl
  | cons action rest ih =>
    refine forall_congr' fun next => imp_congr_right fun taken => ?_
    exact and_congr (same _ _ _ inv taken) (ih (preserved _ _ _ inv taken))

/-- What an invariant gives for one step holds for every step of a run. -/
theorem AllSteps.of_invariant {Inv : σ → Prop} {C : σ → α → Prop}
    (preserved : ∀ state action next, Inv state → step state action = some next → Inv next)
    (met : ∀ state action next, Inv state → step state action = some next → C state action)
    (actions : List α) {state : σ} (start : Inv state) : AllSteps step C state actions := by
  induction actions generalizing state with
  | nil => trivial
  | cons action rest ih =>
    intro next taken
    exact ⟨met _ _ _ start taken, ih (preserved _ _ _ start taken)⟩

theorem AllSteps.cons {C : σ → α → Prop} {action : α} {rest : List α} {state next : σ}
    (taken : step state action = some next) (met : C state action)
    (later : AllSteps step C next rest) : AllSteps step C state (action :: rest) := by
  intro next' taken'
  cases taken.symm.trans taken'
  exact ⟨met, later⟩

/-- The last step of a run is one of its steps. -/
theorem AllSteps.at_end {C : σ → α → Prop} {first : List α} {action : α} {state middle last : σ}
    (steps : AllSteps step C state (first ++ [action]))
    (to_middle : runSteps step state first = some middle) (taken : step middle action = some last) :
    C middle action := by
  induction first generalizing state with
  | nil =>
    cases Option.some.inj to_middle
    exact (steps last taken).1
  | cons head rest ih =>
    obtain ⟨next, here, to_middle⟩ := Option.bind_eq_some_iff.mp to_middle
    exact ih (steps next here).2 to_middle

/-- A condition on the actions alone. -/
theorem AllSteps.of_forall {C : α → Prop} {actions : List α} {state : σ}
    (all : ∀ action ∈ actions, C action) :
    AllSteps step (fun _ action => C action) state actions := by
  induction actions generalizing state with
  | nil => trivial
  | cons action rest ih =>
    intro next _
    exact ⟨all _ List.mem_cons_self, ih fun a member => all a (List.mem_cons_of_mem _ member)⟩

/-- Steps that meet `C` keep `Inv`, so a run of such steps keeps it throughout. -/
theorem AllStates.of_allSteps {Inv : σ → Prop} {C : σ → α → Prop}
    (preserved : ∀ state action next, Inv state → C state action →
      step state action = some next → Inv next)
    (actions : List α) {state : σ} (start : Inv state) (steps : AllSteps step C state actions) :
    AllStates step Inv state actions := by
  induction actions generalizing state with
  | nil => exact start
  | cons action rest ih =>
    refine ⟨start, fun next taken => ?_⟩
    obtain ⟨met, later⟩ := steps next taken
    exact ih (preserved _ _ _ start met taken) later

/-- What such an invariant gives for one step holds for every step of the run. -/
theorem AllSteps.of_allSteps {Inv : σ → Prop} {C D : σ → α → Prop}
    (preserved : ∀ state action next, Inv state → C state action →
      step state action = some next → Inv next)
    (met : ∀ state action next, Inv state → C state action →
      step state action = some next → D state action)
    (actions : List α) {state : σ} (start : Inv state) (steps : AllSteps step C state actions) :
    AllSteps step D state actions := by
  induction actions generalizing state with
  | nil => trivial
  | cons action rest ih =>
    intro next taken
    obtain ⟨here, later⟩ := steps next taken
    exact ⟨met _ _ _ start here taken, ih (preserved _ _ _ start here taken) later⟩

/-- The state a run ends in is one of its states. -/
theorem AllStates.last {P : σ → Prop} {actions : List α} {state last : σ}
    (run : AllStates step P state actions) (reached : runSteps step state actions = some last) :
    P last := by
  induction actions generalizing state with
  | nil =>
    cases Option.some.inj reached
    exact run
  | cons action rest ih =>
    obtain ⟨next, taken, reached⟩ := Option.bind_eq_some_iff.mp reached
    exact ih (run.2 next taken) reached

/-- A field that each step overwrites or keeps ends as its last write. -/
theorem field_of_last_write {β : Type} (Inv : σ → Prop) (field : σ → β) (write : α → Option β)
    (preserved : ∀ state action next, Inv state → step state action = some next → Inv next)
    (effect : ∀ state action next, Inv state → step state action = some next →
      field next = (write action).getD (field state))
    (actions : List α) {state last : σ} (inv : Inv state)
    (reached : runSteps step state actions = some last) :
    field last = ((actions.filterMap write).getLast?).getD (field state) := by
  induction actions generalizing state with
  | nil =>
    cases Option.some.inj reached
    rfl
  | cons action rest ih =>
    obtain ⟨next, taken, reached⟩ := Option.bind_eq_some_iff.mp reached
    rw [ih (preserved _ _ _ inv taken) reached, effect _ _ _ inv taken]
    cases written : write action with
    | none => simp [written]
    | some value =>
      rw [List.filterMap_cons_some written, List.getLast?_cons]
      cases (rest.filterMap write).getLast? <;> rfl

variable (step) in
/-- `C` holds of some step of the run, in the state before it. -/
def SomeStep (C : σ → α → Prop) : σ → List α → Prop
  | _, [] => False
  | state, action :: rest =>
    ∃ next, step state action = some next ∧ (C state action ∨ SomeStep C next rest)

theorem allSteps_of_not_someStep {C : σ → α → Prop} {actions : List α} {state : σ}
    (never : ¬ SomeStep step C state actions) :
    AllSteps step (fun state action => ¬ C state action) state actions := by
  induction actions generalizing state with
  | nil => trivial
  | cons action rest ih =>
    intro next taken
    exact ⟨fun here => never ⟨next, taken, .inl here⟩,
      ih fun later => never ⟨next, taken, .inr later⟩⟩

/-- What a step of the run establishes and the others keep holds at the end. -/
theorem SomeStep.last {Inv P : σ → Prop} {C : σ → α → Prop}
    (preserved : ∀ state action next, Inv state → step state action = some next → Inv next)
    (established : ∀ state action next, Inv state → C state action →
      step state action = some next → P next)
    (kept : ∀ state action next, Inv state → P state → step state action = some next → P next)
    {actions : List α} {state last : σ} (inv : Inv state)
    (reached : runSteps step state actions = some last)
    (happens : SomeStep step C state actions) : P last := by
  induction actions generalizing state with
  | nil => exact happens.elim
  | cons action rest ih =>
    obtain ⟨next, taken, reached⟩ := Option.bind_eq_some_iff.mp reached
    obtain ⟨next', taken', cases_⟩ := happens
    cases taken.symm.trans taken'
    have inv' := preserved _ _ _ inv taken
    rcases cases_ with here | later
    · have both : AllStates step (fun s => Inv s ∧ P s) next rest := by
        refine AllStates.of_invariant ?_ rest ⟨inv', established _ _ _ inv here taken⟩
        intro s a n holds taken
        exact ⟨preserved _ _ _ holds.1 taken, kept _ _ _ holds.1 holds.2 taken⟩
      exact (both.last reached).2
    · exact ih inv' reached later

variable (step) in
/-- The last observation along the run. -/
def lastAlong {β : Type} (observe : σ → α → Option β) : σ → List α → Option β
  | _, [] => none
  | state, action :: rest =>
    ((step state action).bind fun next => lastAlong observe next rest).or (observe state action)

/-- A field that the steps of the run overwrite with what is observed, or keep. -/
theorem field_of_last_along {β : Type} {C : σ → α → Prop} (field : σ → Option β)
    (observe : σ → α → Option β)
    (effect : ∀ state action next, C state action → step state action = some next →
      field next = (observe state action).or (field state))
    {actions : List α} {state last : σ} (steps : AllSteps step C state actions)
    (reached : runSteps step state actions = some last) :
    field last = (lastAlong step observe state actions).or (field state) := by
  induction actions generalizing state with
  | nil =>
    cases Option.some.inj reached
    rfl
  | cons action rest ih =>
    obtain ⟨next, taken, reached⟩ := Option.bind_eq_some_iff.mp reached
    obtain ⟨met, later⟩ := steps next taken
    rw [ih later reached, effect _ _ _ met taken, lastAlong, taken, Option.bind_some,
      Option.or_assoc]

variable (step) in
/-- The sum of a weight over the steps of a run. -/
def sumAlong (weight : σ → α → Int) : σ → List α → Int
  | _, [] => 0
  | state, action :: rest =>
    weight state action + ((step state action).map fun next => sumAlong weight next rest).getD 0

/-- A quantity that every step lowers by its weight is lowered by the sum. -/
theorem lowered_along (Inv : σ → Prop) (quantity : σ → Int) (weight : σ → α → Int)
    (preserved : ∀ state action next, Inv state → step state action = some next → Inv next)
    (lowered : ∀ state action next, Inv state → step state action = some next →
      quantity next = quantity state - weight state action)
    (actions : List α) {state last : σ} (inv : Inv state)
    (reached : runSteps step state actions = some last) :
    Inv last ∧ quantity last = quantity state - sumAlong step weight state actions := by
  induction actions generalizing state with
  | nil =>
    cases Option.some.inj reached
    exact ⟨inv, by simp [sumAlong]⟩
  | cons action rest ih =>
    obtain ⟨next, taken, reached⟩ := Option.bind_eq_some_iff.mp reached
    obtain ⟨inv_last, later⟩ := ih (preserved _ _ _ inv taken) reached
    have here := lowered _ _ _ inv taken
    refine ⟨inv_last, ?_⟩
    simp only [sumAlong, taken, Option.map_some, Option.getD_some]
    omega

/-- A quantity to which every step adds a gain of its action, less a loss, ends
higher by the gains and lower by the losses. -/
theorem moved_along (Inv : σ → Prop) (quantity : σ → Int) (gain : α → Int) (loss : σ → α → Int)
    (preserved : ∀ state action next, Inv state → step state action = some next → Inv next)
    (moved : ∀ state action next, Inv state → step state action = some next →
      quantity next = quantity state + gain action - loss state action)
    (actions : List α) {state last : σ} (inv : Inv state)
    (reached : runSteps step state actions = some last) :
    quantity last =
      quantity state + (actions.map gain).sum - sumAlong step loss state actions := by
  induction actions generalizing state with
  | nil =>
    cases Option.some.inj reached
    simp [sumAlong]
  | cons action rest ih =>
    obtain ⟨next, taken, reached⟩ := Option.bind_eq_some_iff.mp reached
    have later := ih (preserved _ _ _ inv taken) reached
    have here := moved _ _ _ inv taken
    simp only [sumAlong, taken, Option.map_some, Option.getD_some]
    rw [List.map_cons, List.sum_cons]
    omega

/-- Replacing or removing the element at an index, seen as surgery on the list. -/
theorem split_at_index {β : Type} {l : List β} {index : Nat} {x : β} (found : l[index]? = some x) :
    ∃ front back, l = front ++ x :: back ∧ l.eraseIdx index = front ++ back ∧
      ∀ y, l.set index y = front ++ y :: back := by
  obtain ⟨bound, rfl⟩ := List.getElem?_eq_some_iff.mp found
  refine ⟨l.take index, l.drop (index + 1), ?_, ?_, ?_⟩
  · rw [List.getElem_cons_drop]
    exact (List.take_append_drop index l).symm
  · exact List.eraseIdx_eq_take_drop_succ l index
  · intro y
    rw [List.set_eq_take_append_cons_drop, if_pos bound]

/-- A property of all elements survives replacing one of them. -/
theorem forall_mem_replace {β : Type} {P : β → Prop} {l front back : List β} {x y : β}
    (split : l = front ++ x :: back) (all : ∀ z ∈ l, P z) (new : P y) :
    ∀ z ∈ front ++ y :: back, P z := by
  intro z member
  rcases List.mem_append.mp member with early | late
  · exact all z (by simp [split, early])
  · rcases List.mem_cons.mp late with rfl | late
    · exact new
    · exact all z (by simp [split, late])

/-- Replacing an element by one of the same image. -/
theorem map_set_same {β γ : Type} {f : β → γ} {l : List β} {index : Nat} {x y : β}
    (found : l[index]? = some x) (same : f y = f x) : (l.set index y).map f = l.map f := by
  obtain ⟨front, back, split, _, set⟩ := split_at_index found
  rw [set, split, List.map_append, List.map_append, List.map_cons, List.map_cons, same]

end GitvTime.Support
