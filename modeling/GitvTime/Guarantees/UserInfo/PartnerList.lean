import GitvTime.Source.UserInfo.PartnerList
import GitvTime.Support.Runs

/-!
# The partner list against ZooKeeper

`partnerList` should hold exactly the children whose data is "true". The handler
of `CHILD_ADDED` never looks at the data, the one of `CHILD_UPDATED` never adds,
and the list allows duplicates of which a removal takes one. Each of these is the
failure of one step; a run in which no step is of these kinds keeps the list
right throughout, and only such a run does.
-/
namespace GitvTime.Guarantees.UserInfo
open GitvTime.Support GitvTime.Source.UserInfo
open GitvTime.Source.UserInfo.PartnerList (State Action)

/-- The child exists and its data is "true". -/
def Enabled (content : Children) (partner : String) : Prop :=
  content.lookup partner = some (some "true")

instance (content : Children) (partner : String) : Decidable (Enabled content partner) := by
  unfold Enabled
  infer_instance

/-- The list holds exactly the enabled partners. -/
def Mirrored (s : State) : Prop :=
  ∀ partner, partner ∈ s.partnerList ↔ Enabled s.children partner

/-! ### The reading at the start -/

def hasData (content : Children) (partner : String) : Bool :=
  (partnerTrue content partner).isSome

/-- Every enabled child is read before the first one without data, at which the
loop breaks off. -/
def InitReads (content : Children) : Prop :=
  ∀ partner, Enabled content partner → partner ∈ content.keys.takeWhile (hasData content)

theorem partnerTrue_eq_true {content : Children} {partner : String} :
    partnerTrue content partner = some true ↔ Enabled content partner := by
  unfold partnerTrue Enabled
  split
  · rename_i result found
    simp [found]
  · rename_i missing
    refine iff_of_false nofun fun enabled => ?_
    exact missing "true" enabled

theorem initLoop_eq (content : Children) (items partnerList : List String) :
    initLoop content items partnerList =
      (partnerList ++ (items.takeWhile (hasData content)).filter (Enabled content ·),
        items.all (hasData content)) := by
  induction items generalizing partnerList with
  | nil => simp [initLoop]
  | cons item rest ih =>
    simp only [initLoop]
    split
    · rename_i read
      have enabled := partnerTrue_eq_true.mp read
      simp [ih, hasData, read, enabled]
    · rename_i read
      have disabled : ¬ Enabled content item := fun enabled => by
        rw [partnerTrue_eq_true.mpr enabled] at read
        cases read
      simp [ih, hasData, read, disabled]
    · rename_i read
      simp [hasData, read]

theorem mirrored_init_iff (content : Children) :
    Mirrored (State.init content) ↔ InitReads content := by
  have members : ∀ partner, partner ∈ (State.init content).partnerList ↔
      partner ∈ content.keys.takeWhile (hasData content) ∧ Enabled content partner := by
    intro partner
    simp [State.init, initLoop_eq]
  constructor
  · intro mirrored partner enabled
    exact ((members partner).mp ((mirrored partner).mpr enabled)).1
  · intro reads partner
    rw [members partner]
    exact ⟨fun both => both.2, fun enabled => ⟨reads partner enabled, enabled⟩⟩

/-! ### One step -/

/-- What the step asks of the state before it so that the list follows. Without
a listener the step may not change which partners are enabled. -/
def Reflected (s : State) (action : Action) : Prop :=
  if s.listening then
    match action with
    | .cached partner => Enabled s.children partner
    | .create _ data => data = some "true"
    | .setData partner none => ¬ Enabled s.children partner
    | .setData partner (some data) =>
      if data = "true" then Enabled s.children partner else s.partnerList.count partner ≤ 1
    | .delete partner => s.partnerList.count partner ≤ 1
    | .notice => True
  else
    match action with
    | .create _ data => data ≠ some "true"
    | .setData partner data => Enabled s.children partner ↔ data = some "true"
    | .delete partner => ¬ Enabled s.children partner
    | .cached _ | .notice => True

theorem mem_erase_self_iff (partnerList : List String) (partner : String) :
    partner ∈ partnerList.erase partner ↔ 1 < partnerList.count partner := by
  rw [← List.count_pos_iff, List.count_erase_self]
  omega

/-- Only the touched partner can break the mirror. -/
theorem mirrored_iff_at {s s' : State} (partner : String) (mirrored : Mirrored s)
    (listed : ∀ other ≠ partner, other ∈ s'.partnerList ↔ other ∈ s.partnerList)
    (known : ∀ other ≠ partner, s'.children.lookup other = s.children.lookup other) :
    Mirrored s' ↔ (partner ∈ s'.partnerList ↔ Enabled s'.children partner) := by
  constructor
  · intro mirrored'
    exact mirrored' partner
  · intro touched other
    by_cases same : other = partner
    · rw [same]
      exact touched
    · rw [listed other same, mirrored other, Enabled, Enabled, known other same]

/-- The event about a partner patches the list at that partner only. -/
def ConcernsChild (partner : String) : ChildEvent → Prop
  | .childAdded path | .childUpdated path _ | .childRemoved path => path = fullPath partner
  | .other => True

theorem childEvent_others {partner : String} (partnerList : List String) {event : ChildEvent}
    (about : ConcernsChild partner event) (other : String) (different : other ≠ partner) :
    other ∈ childEvent partnerList event ↔ other ∈ partnerList := by
  cases event with
  | childAdded path =>
    rw [show path = fullPath partner from about]
    simp [childEvent, different]
  | childUpdated path data =>
    rw [show path = fullPath partner from about]
    cases data with
    | none => rfl
    | some data =>
      simp only [childEvent, childOf_fullPath]
      split
      · rfl
      · exact List.mem_erase_of_ne different
  | childRemoved path =>
    rw [show path = fullPath partner from about]
    simp only [childEvent, childOf_fullPath]
    exact List.mem_erase_of_ne different
  | other => rfl

/-- A change of one child and the event about it: the mirror stands or falls with
that child. -/
theorem mirrored_deliver_iff {s changed : State} {event : ChildEvent} (partner : String)
    (mirrored : Mirrored s) (about : ConcernsChild partner event)
    (list_kept : changed.partnerList = s.partnerList)
    (known : ∀ other ≠ partner, changed.children.lookup other = s.children.lookup other) :
    Mirrored (changed.deliver event) ↔
      (partner ∈ (if changed.listening then childEvent s.partnerList event else s.partnerList) ↔
        Enabled changed.children partner) := by
  have list_eq : (changed.deliver event).partnerList =
      if changed.listening then childEvent s.partnerList event else s.partnerList := by
    rw [State.deliver_partnerList, list_kept]
  rw [mirrored_iff_at partner mirrored ?_ ?_, list_eq, State.deliver_children]
  · intro other different
    rw [list_eq]
    split
    · exact childEvent_others _ about other different
    · rfl
  · intro other different
    rw [State.deliver_children]
    exact known other different

/-- A step keeps the list right exactly when it meets `Reflected`. -/
theorem mirrored_step {s s' : State} {action : Action} (mirrored : Mirrored s)
    (taken : s.step action = some s') : Mirrored s' ↔ Reflected s action := by
  cases action with
  | cached partner =>
    obtain ⟨_, ⟨⟩⟩ := Option.ite_none_right_eq_some.mp taken
    refine Iff.trans (mirrored_deliver_iff partner mirrored rfl rfl fun _ _ => rfl) ?_
    cases listening : s.listening with
    | true => simp [Reflected, listening, childEvent]
    | false => simpa [Reflected, listening] using mirrored partner
  | create partner data =>
    obtain ⟨absent, ⟨⟩⟩ := Option.ite_none_left_eq_some.mp taken
    refine Iff.trans (mirrored_deliver_iff partner mirrored rfl rfl
      fun _ different => AList.lookup_insert_ne different) ?_
    have unlisted : partner ∉ s.partnerList := by
      rw [mirrored partner, Enabled, AList.lookup_eq_none.mpr absent]
      nofun
    cases listening : s.listening with
    | true => simp [Reflected, listening, childEvent, Enabled]
    | false => simp [Reflected, listening, unlisted, Enabled]
  | setData partner data =>
    obtain ⟨_, ⟨⟩⟩ := Option.ite_none_right_eq_some.mp taken
    refine Iff.trans (mirrored_deliver_iff partner mirrored rfl rfl
      fun _ different => AList.lookup_insert_ne different) ?_
    have listed := mirrored partner
    cases listening : s.listening with
    | false => simp [Reflected, listening, listed, Enabled]
    | true =>
      cases data with
      | none => simp [Reflected, listening, childEvent, listed, Enabled]
      | some data =>
        by_cases enables : data = "true"
        · simp [Reflected, listening, childEvent, listed, Enabled, enables]
        · simp [Reflected, listening, childEvent, Enabled, enables, mem_erase_self_iff]
  | delete partner =>
    obtain ⟨_, ⟨⟩⟩ := Option.ite_none_right_eq_some.mp taken
    refine Iff.trans (mirrored_deliver_iff partner mirrored rfl rfl
      fun _ different => AList.lookup_erase_ne different) ?_
    have listed := mirrored partner
    cases listening : s.listening with
    | true => simp [Reflected, listening, childEvent, Enabled, mem_erase_self_iff]
    | false => simp [Reflected, listening, listed, Enabled]
  | notice =>
    cases taken
    have same : Mirrored (s.deliver .other) := by
      intro partner
      rw [State.deliver_partnerList, State.deliver_children, ← mirrored partner]
      split <;> rfl
    refine iff_of_true same ?_
    unfold Reflected
    split <;> trivial

/-- The list mirrors ZooKeeper throughout a run exactly when the start read every
enabled child and every step was reflected. -/
theorem partner_list_mirrored_iff (content : Children) (actions : List Action) :
    AllStates State.step Mirrored (State.init content) actions ↔
      InitReads content ∧ AllSteps State.step Reflected (State.init content) actions := by
  have along : Mirrored (State.init content) →
      (AllStates State.step Mirrored (State.init content) actions ↔
        AllSteps State.step Reflected (State.init content) actions) := by
    intro mirrored
    refine AllStates.iff_allSteps (fun _ => True) (fun _ _ _ _ _ => trivial) ?_ actions trivial
      mirrored
    intro s action s' _ here taken
    exact mirrored_step here taken
  rw [← mirrored_init_iff]
  constructor
  · intro run
    exact ⟨run.start, (along run.start).mp run⟩
  · intro both
    exact (along both.1).mpr both.2

/-- A child added with other data is enabled all the same. -/
theorem disabled_partner_listed :
    ¬ ∀ content actions, AllStates State.step Mirrored (State.init content) actions := by
  intro mirrored
  have run := mirrored ∅ [.create "p1" (some "false")]
  have listed := run.last rfl "p1"
  revert listed
  decide

/-- Where the list mirrors ZooKeeper, a device of an enabled partner, and no
other, is published. -/
theorem published_iff_enabled {s : State} (mirrored : Mirrored s) (partner mac : String) :
    s.execute partner mac = some (partner, mac) ↔ Enabled s.children partner := by
  rw [← mirrored partner]
  simp [State.execute]

end GitvTime.Guarantees.UserInfo
