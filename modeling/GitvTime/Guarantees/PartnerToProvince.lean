import GitvTime.Source.PartnerToProvince
import GitvTime.Support.Runs

/-!
# The ZooKeeper maps against ZooKeeper

Of a child about which an event reaches the listener the last event is delivered
too, and it reports what the child has become. Of any other child the map keeps what
the loop read, and between that reading and the registration of the listener
everything else may happen unheard.
-/
namespace GitvTime.Guarantees.PartnerToProvince
open GitvTime.Support GitvTime.Source.PartnerToProvince

/-- The map holds the children and their data. -/
def Mirrored (s : State) : Prop :=
  ∀ child, (s.partnerToProvince child).map some = s.zookeeper.lookup child

/-- What an event reports of a child. -/
def reportOf (path child : String) : ChildEvent → Option (Option (Option String))
  | .childAdded full_path data | .childUpdated full_path data =>
    if childOf path full_path = child then some (some data) else none
  | .childRemoved full_path => if childOf path full_path = child then some none else none
  | .other => none

/-- An event about the child reaches the listener. -/
def HeardAt (path child : String) (s : State) : Action → Prop
  | .deliver => s.phase = .listening ∧ (s.events.head?.bind (reportOf path child)).isSome = true
  | _ => False

/-- What the loop puts into the map for the child. -/
def readAt (child : String) (s : State) : Action → Option String
  | .getData =>
    match s.phase with
    | .reading (item :: _) => if item = child then (s.zookeeper.lookup item).join else none
    | _ => none
  | _ => none

def Heard (path : String) (content : Children) (actions : List Action) (child : String) : Prop :=
  SomeStep (State.step path) (HeardAt path child) (.init content) actions

def loopRead (path : String) (content : Children) (actions : List Action) (child : String) :
    Option String :=
  lastAlong (State.step path) (readAt child) (.init content) actions

/-! ### What an event does to the map -/

theorem childEvent_apply (path : String) (partnerToProvince : Provinces) (event : ChildEvent)
    (child : String) :
    childEvent path partnerToProvince event child =
      match reportOf path child event with
      | none | some (some none) => partnerToProvince child
      | some none => none
      | some (some (some province)) => some province := by
  have updated : ∀ full_path value, Function.update partnerToProvince (childOf path full_path) value
      child = if childOf path full_path = child then value else partnerToProvince child := by
    intro full_path value
    by_cases here : childOf path full_path = child
    · rw [if_pos here, here, Function.update_self]
    · rw [if_neg here, Function.update_of_ne (Ne.symm here)]
  cases event with
  | childAdded full_path data | childUpdated full_path data =>
    cases data with
    | none =>
      simp only [childEvent, reportOf]
      by_cases here : childOf path full_path = child <;> simp [here]
    | some province =>
      simp only [childEvent, reportOf, updated]
      by_cases here : childOf path full_path = child <;> simp [here]
  | childRemoved full_path =>
    simp only [childEvent, reportOf, updated]
    by_cases here : childOf path full_path = child <;> simp [here]
  | other => rfl

/-! ### Steps -/

/-- What a step found and what it did. -/
inductive Moved (path : String) (s : State) : Action → State → Prop
  | create (child : String) (data : Option String) :
    Moved path s (.create child data) { s with zookeeper := s.zookeeper.insert child data }
  | setData (child : String) (data : Option String) :
    Moved path s (.setData child data) { s with zookeeper := s.zookeeper.insert child data }
  | delete (child : String) :
    Moved path s (.delete child) { s with zookeeper := s.zookeeper.erase child }
  | getChildren (before : s.phase = .beforeList) :
    Moved path s .getChildren { s with phase := .reading s.zookeeper.keys }
  | read {item : String} {rest : List String} {province : String}
      (before : s.phase = .reading (item :: rest))
      (found : s.zookeeper.lookup item = some (some province)) :
    Moved path s .getData { s with
      phase := .reading rest
      partnerToProvince := Function.update s.partnerToProvince item (some province) }
  | readFails {item : String} {rest : List String} (before : s.phase = .reading (item :: rest))
      (missing : (s.zookeeper.lookup item).join = none) :
    Moved path s .getData { s with phase := .failed }
  | cacheStart (before : s.phase = .reading []) :
    Moved path s .cacheStart { s with phase := .started }
  | addListener (before : s.phase = .started) :
    Moved path s .addListener { s with phase := .listening }
  | refresh (child : String) :
    Moved path s (.refresh child) { s with
      snapshot := Function.update s.snapshot child (s.zookeeper.lookup child)
      events := s.events ++
        difference path child (s.snapshot child) (s.zookeeper.lookup child) }
  | notice : Moved path s .notice { s with events := s.events ++ [.other] }
  | heard {event : ChildEvent} {events : List ChildEvent} (first : s.events = event :: events)
      (listening : s.phase = .listening) :
    Moved path s .deliver { s with
      events := events
      partnerToProvince := childEvent path s.partnerToProvince event }
  | lost {event : ChildEvent} {events : List ChildEvent} (first : s.events = event :: events)
      (deaf : s.phase ≠ .listening) :
    Moved path s .deliver { s with events := events }

theorem moved_of_step {path : String} {s next : State} {action : Action}
    (taken : s.step path action = some next) : Moved path s action next := by
  cases action with
  | create child data =>
    obtain ⟨_, ⟨⟩⟩ := Option.ite_none_left_eq_some.mp taken
    exact .create child data
  | setData child data =>
    obtain ⟨_, ⟨⟩⟩ := Option.ite_none_right_eq_some.mp taken
    exact .setData child data
  | delete child =>
    obtain ⟨_, ⟨⟩⟩ := Option.ite_none_right_eq_some.mp taken
    exact .delete child
  | getChildren =>
    obtain ⟨before, ⟨⟩⟩ := Option.ite_none_right_eq_some.mp taken
    exact .getChildren before
  | getData =>
    simp only [State.step] at taken
    split at taken
    · rename_i item rest before
      split at taken
      · rename_i province found
        cases taken
        exact .read before found
      · rename_i missing
        cases taken
        refine .readFails before ?_
        cases found : s.zookeeper.lookup item with
        | none => rfl
        | some data =>
          cases data with
          | none => rfl
          | some province => exact absurd found (missing province)
    · cases taken
  | cacheStart =>
    obtain ⟨before, ⟨⟩⟩ := Option.ite_none_right_eq_some.mp taken
    exact .cacheStart before
  | addListener =>
    obtain ⟨before, ⟨⟩⟩ := Option.ite_none_right_eq_some.mp taken
    exact .addListener before
  | refresh child =>
    obtain ⟨_, ⟨⟩⟩ := Option.ite_none_right_eq_some.mp taken
    exact .refresh child
  | notice =>
    obtain ⟨_, ⟨⟩⟩ := Option.ite_none_right_eq_some.mp taken
    exact .notice
  | deliver =>
    simp only [State.step] at taken
    split at taken
    · rename_i event events first
      split at taken
      · rename_i listening
        cases taken
        exact .heard first listening
      · rename_i deaf
        cases taken
        exact .lost first deaf
    · cases taken

/-! ### The events on their way -/

/-- What the events that are still to be delivered report of a child. -/
def reports (path child : String) (events : List ChildEvent) : List (Option (Option String)) :=
  events.filterMap (reportOf path child)

theorem reports_append (path child : String) (events later : List ChildEvent) :
    reports path child (events ++ later) = reports path child events ++ reports path child later :=
  List.filterMap_append

theorem reports_difference (path child other : String) (before after : Option (Option String)) :
    reports path child (difference path other before after) =
      if other = child ∧ before ≠ after then [after] else [] := by
  by_cases same : other = child
  · cases before with
    | none =>
      cases after with
      | none => simp [difference, reports]
      | some data => simp [difference, reports, reportOf, same]
    | some old =>
      cases after with
      | none => simp [difference, reports, reportOf, same]
      | some data =>
        by_cases unchanged : old = data <;> simp [difference, reports, reportOf, same, unchanged]
  · cases before with
    | none =>
      cases after with
      | none => simp [difference, reports]
      | some data => simp [difference, reports, reportOf, same]
    | some old =>
      cases after with
      | none => simp [difference, reports, reportOf, same]
      | some data =>
        by_cases unchanged : old = data <;> simp [difference, reports, reportOf, same, unchanged]

/-- The last event about a child reports what the cache last saw of it. -/
def InOrder (path : String) (s : State) : Prop :=
  ∀ child report, (reports path child s.events).getLast? = some report →
    report = s.snapshot child

theorem inOrder_init (path : String) (content : Children) : InOrder path (.init content) :=
  fun _ _ => nofun

/-- Looking at a child changes the snapshot and reports it, or neither. -/
theorem reports_refresh (path child other : String) (s : State) :
    reports path child (s.events ++ difference path other (s.snapshot other)
      (s.zookeeper.lookup other)) =
      if other = child ∧ s.snapshot child ≠ s.zookeeper.lookup child then
        reports path child s.events ++ [s.zookeeper.lookup child]
      else reports path child s.events := by
  rw [reports_append, reports_difference]
  by_cases same : other = child
  · subst same
    by_cases changed : s.snapshot other = s.zookeeper.lookup other <;> simp [changed]
  · simp [same]

theorem snapshot_refresh (child other : String) (s : State) :
    Function.update s.snapshot other (s.zookeeper.lookup other) child =
      if other = child ∧ s.snapshot child ≠ s.zookeeper.lookup child then s.zookeeper.lookup child
      else s.snapshot child := by
  by_cases same : other = child
  · subst same
    rw [Function.update_self]
    by_cases changed : s.snapshot other = s.zookeeper.lookup other <;> simp [changed]
  · rw [Function.update_of_ne (Ne.symm same), if_neg fun both => same both.1]

theorem InOrder.step {path : String} {s next : State} {action : Action}
    (inOrder : InOrder path s) (taken : s.step path action = some next) : InOrder path next := by
  cases moved_of_step taken with
  | create _ _ | setData _ _ | delete _ | getChildren _ | read _ _ | readFails _ _
  | cacheStart _ | addListener _ => exact inOrder
  | refresh other =>
    intro child report last
    simp only [reports_refresh, snapshot_refresh] at last ⊢
    split at last
    · rename_i changed
      rw [List.getLast?_concat] at last
      rw [if_pos changed]
      exact (Option.some.inj last).symm
    · rename_i unchanged
      rw [if_neg unchanged]
      exact inOrder child report last
  | notice =>
    intro child report last
    rw [reports_append] at last
    exact inOrder child report (by simpa [reports, reportOf] using last)
  | heard first _ | lost first _ =>
    intro child report last
    refine inOrder child report ?_
    rw [first, reports, List.filterMap_cons]
    cases reportOf path child _ with
    | none => exact last
    | some earlier =>
      rw [List.getLast?_cons]
      exact congrArg (fun value => some (value.getD earlier)) last

/-! ### A child that the listener has heard of -/

/-- The map agrees with a report; null data never gets into it. -/
def Agrees (province : Option String) (report : Option (Option String)) : Prop :=
  report = some none ∨ province.map some = report

/-- The listener is registered, and without an event about the child on its way the
map agrees with what the cache last saw of it. -/
structure Followed (path child : String) (s : State) : Prop where
  listening : s.phase = .listening
  caught_up : reports path child s.events = [] →
    Agrees (s.partnerToProvince child) (s.snapshot child)

theorem followed_of_deliver {path child : String} {s : State} {event : ChildEvent}
    {events : List ChildEvent} {report : Option (Option String)} (inOrder : InOrder path s)
    (first : s.events = event :: events) (listening : s.phase = .listening)
    (about : reportOf path child event = some report) :
    Followed path child { s with
      events := events
      partnerToProvince := childEvent path s.partnerToProvince event } where
  listening := listening
  caught_up := by
    intro nothing_later
    have only : reports path child s.events = [report] := by
      rw [first, reports, List.filterMap_cons, about]
      exact congrArg (List.cons report) nothing_later
    have latest : report = s.snapshot child := inOrder child report (by rw [only]; rfl)
    simp only [← latest, childEvent_apply, about]
    cases report with
    | none => exact .inr rfl
    | some data =>
      cases data with
      | none => exact .inl rfl
      | some province => exact .inr rfl

theorem Followed.step {path child : String} {s next : State} {action : Action}
    (inOrder : InOrder path s) (followed : Followed path child s)
    (taken : s.step path action = some next) : Followed path child next := by
  have listening := followed.listening
  cases moved_of_step taken with
  | create _ _ | setData _ _ | delete _ => exact ⟨followed.listening, followed.caught_up⟩
  | getChildren before | read before _ | readFails before _ | cacheStart before
  | addListener before =>
    rw [listening] at before
    cases before
  | refresh other =>
    refine ⟨listening, fun nothing => ?_⟩
    simp only [reports_refresh, snapshot_refresh] at nothing ⊢
    split at nothing
    · exact absurd nothing (List.append_ne_nil_of_right_ne_nil _ (List.cons_ne_nil _ _))
    · rename_i unchanged
      rw [if_neg unchanged]
      exact followed.caught_up nothing
  | notice =>
    refine ⟨listening, fun nothing => followed.caught_up ?_⟩
    rw [reports_append] at nothing
    exact (List.append_eq_nil_iff.mp nothing).1
  | @heard event events first _ =>
    cases about : reportOf path child event with
    | some report => exact followed_of_deliver inOrder first listening about
    | none =>
      refine ⟨listening, fun nothing => ?_⟩
      simp only [childEvent_apply, about]
      refine followed.caught_up ?_
      rw [first, reports, List.filterMap_cons, about]
      exact nothing
  | lost _ deaf => exact absurd listening deaf

theorem followed_of_heardAt {path child : String} {s next : State} {action : Action}
    (inOrder : InOrder path s) (heard : HeardAt path child s action)
    (taken : s.step path action = some next) : Followed path child next := by
  cases moved_of_step taken with
  | heard first listening =>
    obtain ⟨_, about⟩ := heard
    rw [first, List.head?_cons, Option.bind_some] at about
    obtain ⟨report, about⟩ := Option.isSome_iff_exists.mp about
    exact followed_of_deliver inOrder first listening about
  | lost _ deaf => exact absurd heard.1 deaf
  | _ => exact heard.elim

/-! ### A child of which it never hears -/

theorem map_of_unheard {path child : String} {s next : State} {action : Action}
    (unheard : ¬ HeardAt path child s action) (taken : s.step path action = some next) :
    next.partnerToProvince child = (readAt child s action).or (s.partnerToProvince child) := by
  cases moved_of_step taken with
  | create _ _ | setData _ _ | delete _ | getChildren _ | cacheStart _ | addListener _
  | refresh _ | notice | lost _ _ => rfl
  | read before found =>
    rename_i item rest province
    simp only [readAt, before, found]
    by_cases same : item = child
    · subst same
      simp
    · rw [Function.update_of_ne (Ne.symm same), if_neg same]
      rfl
  | readFails before missing =>
    rename_i item rest
    simp only [readAt, before]
    by_cases same : item = child
    · subst same
      simp [missing]
    · rw [if_neg same]
      rfl
  | heard first listening =>
    rename_i event events
    have silent : reportOf path child event = none := by
      rw [← Option.not_isSome_iff_eq_none]
      intro about
      exact unheard ⟨listening, by rw [first]; exact about⟩
    simp only [childEvent_apply, silent, readAt]
    rfl

/-! ### Runs -/

theorem map_of_never_heard {path : String} {content : Children} {actions : List Action}
    {last : State} (reached : runSteps (State.step path) (.init content) actions = some last)
    {child : String} (never : ¬ Heard path content actions child) :
    last.partnerToProvince child = loopRead path content actions child := by
  rw [field_of_last_along (fun s => s.partnerToProvince child) (readAt child)
    (fun _ _ _ silent taken => map_of_unheard silent taken)
    (allSteps_of_not_someStep never) reached]
  exact Option.or_none

/-- Whatever else happened to it, a child that is heard of ends right in the map. -/
theorem map_of_heard {path : String} {content : Children} {actions : List Action} {last : State}
    (reached : runSteps (State.step path) (.init content) actions = some last)
    (settled : last.Settled) {child : String} (heard : Heard path content actions child) :
    Agrees (last.partnerToProvince child) (last.zookeeper.lookup child) := by
  have followed : Followed path child last :=
    SomeStep.last (fun _ _ _ inOrder taken => inOrder.step taken)
      (fun _ _ _ inOrder here taken => followed_of_heardAt inOrder here taken)
      (fun _ _ _ inOrder followed taken => followed.step inOrder taken)
      (inOrder_init path content) reached heard
  rcases settled with failed | ⟨_, no_events, seen⟩
  · exact absurd (failed.symm.trans followed.listening) nofun
  · rw [← seen child]
    exact followed.caught_up (by rw [no_events]; rfl)

/-- Once everything is processed the map mirrors ZooKeeper exactly when no child has
null data and each child is heard of or was read as it has stayed. -/
theorem mirrored_iff {path : String} {content : Children} {actions : List Action} {last : State}
    (reached : runSteps (State.step path) (.init content) actions = some last)
    (settled : last.Settled) :
    Mirrored last ↔ ∀ child, last.zookeeper.lookup child ≠ some none ∧
      (Heard path content actions child ∨
        (loopRead path content actions child).map some = last.zookeeper.lookup child) := by
  constructor
  · intro mirrored child
    constructor
    · intro null
      have equal := mirrored child
      rw [null] at equal
      cases province : last.partnerToProvince child <;> simp [province] at equal
    · by_cases heard : Heard path content actions child
      · exact .inl heard
      · rw [← map_of_never_heard reached heard]
        exact .inr (mirrored child)
  · intro right child
    obtain ⟨not_null, heard_or_read⟩ := right child
    by_cases heard : Heard path content actions child
    · exact (map_of_heard reached settled heard).resolve_left not_null
    · rw [map_of_never_heard reached heard]
      exact heard_or_read.resolve_left heard

/-! ### Two starts -/

def sampleContent : Children := AList.singleton "AH_CP" (some "安徽省")

theorem sampleContent_lookup_ne {child : String} (other : child ≠ "AH_CP") :
    sampleContent.lookup child = none := by
  rw [AList.lookup_eq_none, AList.mem_keys, sampleContent, AList.keys_singleton,
    List.mem_singleton]
  exact other

/-- The child is read by the loop and then reported by the cache. -/
def quietStart : List Action :=
  [.getChildren, .getData, .cacheStart, .addListener, .refresh "AH_CP", .deliver]

def quietEnd : State where
  zookeeper := sampleContent
  phase := .listening
  partnerToProvince := Function.update (Function.update (fun _ => none) "AH_CP" (some "安徽省"))
    "AH_CP" (some "安徽省")
  snapshot := Function.update (fun _ => none) "AH_CP" (some (some "安徽省"))
  events := []

theorem quiet_start_mirrors : Mirrored quietEnd := by
  have reached : runSteps distinguishBolt (.init sampleContent) quietStart = some quietEnd := rfl
  have settled : quietEnd.Settled := by
    refine .inr ⟨rfl, rfl, fun child => ?_⟩
    by_cases same : child = "AH_CP"
    · subst same
      rfl
    · simp [quietEnd, same, sampleContent_lookup_ne]
  refine (mirrored_iff reached settled).mpr fun child => ?_
  by_cases same : child = "AH_CP"
  · subst same
    refine ⟨by decide, .inl ?_⟩
    exact ⟨_, rfl, .inr ⟨_, rfl, .inr ⟨_, rfl, .inr ⟨_, rfl, .inr ⟨_, rfl, .inr
      ⟨_, rfl, .inl ⟨rfl, by decide⟩⟩⟩⟩⟩⟩⟩
  · have absent : quietEnd.zookeeper.lookup child = none := sampleContent_lookup_ne same
    have unread : loopRead UIF_PATH sampleContent quietStart child =
      (if "AH_CP" = child then some "安徽省" else none).or none := rfl
    rw [absent, unread, if_neg (Ne.symm same)]
    exact ⟨nofun, .inr rfl⟩

/-- The cache looks at a new child and delivers its event before the listener is
added. -/
def lateListener : List Action :=
  [.getChildren, .cacheStart, .create "AH_CP" (some "安徽省"), .refresh "AH_CP", .deliver,
    .addListener]

def lateEnd : State where
  zookeeper := sampleContent
  phase := .listening
  partnerToProvince := fun _ => none
  snapshot := Function.update (fun _ => none) "AH_CP" (some (some "安徽省"))
  events := []

theorem lateEnd_settled : lateEnd.Settled := by
  refine .inr ⟨rfl, rfl, fun child => ?_⟩
  by_cases same : child = "AH_CP"
  · subst same
    rfl
  · simp [lateEnd, same, sampleContent_lookup_ne]

/-- The child never gets into the map of either bolt. -/
theorem late_listener_misses_child :
    (¬ ∀ (content : Children) (actions : List Action) (last : State),
      runSteps distinguishBolt (.init content) actions = some last → last.Settled →
        Mirrored last) ∧
    ¬ ∀ (content : Children) (actions : List Action) (last : State),
      runSteps vodDistributeBolt (.init content) actions = some last → last.Settled →
        Mirrored last := by
  have missing : ¬ Mirrored lateEnd := by
    intro mirrored
    have at_child := mirrored "AH_CP"
    revert at_child
    decide
  constructor
  · intro mirrors
    exact missing (mirrors ∅ lateListener lateEnd rfl lateEnd_settled)
  · intro mirrors
    exact missing (mirrors ∅ lateListener lateEnd rfl lateEnd_settled)

end GitvTime.Guarantees.PartnerToProvince
