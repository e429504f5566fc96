import Mathlib.Data.List.AList
import Mathlib.Logic.Function.Basic

/-!
# The ZooKeeper maps of the distributing bolts

`Distinguish_Bolt` of userinfo-maintain and `VOD_Distribute_Bolt` of
viscosity-play keep a map of the children of a ZooKeeper path and their data. Both
have the same `partnerToProvinceMapInit` and the same `PathChildListen`, for paths
of their own.

`getChildren` and `getData` answer with what ZooKeeper holds at that time. Once
started the cache compares each child with what it last saw of it, whenever it
likes, and delivers the differences in the order in which it found them, each to
the listener if there is one by then.
-/
namespace GitvTime.Source.PartnerToProvince

/-- The path of `Distinguish_Bolt`. -/
def UIF_PATH : String := "/uif_partner_about/partner_province"

/-- The path of `VOD_Distribute_Bolt`. -/
def PV_PATH : String := "/play_viscosity/srcid_meaning"

/-- The children of the path with their data decoded as UTF-8; null data is `none`. -/
abbrev Children := AList fun _ : String => Option String

def fullPath (path child : String) : String := path ++ "/" ++ child

/-- `full_path.substring(UIF_PATH.length() + 1, full_path.length())`. -/
def childOf (path fullPath : String) : String :=
  String.ofList (fullPath.toList.drop (path.length + 1))

@[simp] theorem childOf_fullPath (path child : String) :
    childOf path (fullPath path child) = child := by
  have length : (path.toList ++ "/".toList).length = path.length + 1 := by
    rw [List.length_append, String.length_toList]
    rfl
  rw [childOf, fullPath, String.toList_append, String.toList_append, ← length, List.drop_left,
    String.ofList_toList]

/-- A `PathChildrenCacheEvent`. -/
inductive ChildEvent where
  | childAdded (path : String) (data : Option String)
  | childUpdated (path : String) (data : Option String)
  | childRemoved (path : String)
  | other
  deriving DecidableEq, Repr

/-- `partnerToProvince`, a null map before the start. -/
abbrev Provinces := String → Option String

/-- `PathChildListen.childEvent`: what becomes of the map. Decoding null data throws
before the map is touched. -/
def childEvent (path : String) (partnerToProvince : Provinces) : ChildEvent → Provinces
  | .childAdded full_path (some province) | .childUpdated full_path (some province) =>
    Function.update partnerToProvince (childOf path full_path) (some province)
  | .childAdded _ none | .childUpdated _ none => partnerToProvince
  | .childRemoved full_path => Function.update partnerToProvince (childOf path full_path) none
  | .other => partnerToProvince

/-- What the cache reports of a child that it finds changed. -/
def difference (path child : String) : Option (Option String) → Option (Option String) →
    List ChildEvent
  | none, none => []
  | none, some data => [.childAdded (fullPath path child) data]
  | some before, some data =>
    if before = data then [] else [.childUpdated (fullPath path child) data]
  | some _, none => [.childRemoved (fullPath path child)]

/-- Where `partnerToProvinceMapInit` is. -/
inductive Phase where
  | beforeList
  /-- the children that the loop has still to read -/
  | reading (partner : List String)
  /-- the cache is started, without a listener -/
  | started
  | listening
  /-- an exception ended it before the cache was started -/
  | failed
  deriving DecidableEq, Repr

structure State where
  zookeeper : Children
  phase : Phase
  partnerToProvince : Provinces
  /-- what the cache last saw of each child -/
  snapshot : String → Option (Option String)
  /-- the events that are still to be delivered -/
  events : List ChildEvent

/-- `prepare` begins, with these children in ZooKeeper. -/
def State.init (content : Children) : State :=
  ⟨content, .beforeList, fun _ => none, fun _ => none, []⟩

inductive Action where
  | create (child : String) (data : Option String)
  | setData (child : String) (data : Option String)
  | delete (child : String)
  | getChildren
  /-- the next round of the loop -/
  | getData
  | cacheStart
  | addListener
  /-- the cache looks at a child -/
  | refresh (child : String)
  /-- the cache is initialised, or loses or regains its connection -/
  | notice
  /-- the cache delivers its next event -/
  | deliver
  deriving DecidableEq, Repr

/-- The cache is running. -/
def Phase.cached : Phase → Bool
  | .started | .listening => true
  | .beforeList | .reading _ | .failed => false

def State.step (path : String) (s : State) : Action → Option State
  | .create child data =>
    if child ∈ s.zookeeper then none
    else some { s with zookeeper := s.zookeeper.insert child data }
  | .setData child data =>
    if child ∈ s.zookeeper then some { s with zookeeper := s.zookeeper.insert child data }
    else none
  | .delete child =>
    if child ∈ s.zookeeper then some { s with zookeeper := s.zookeeper.erase child } else none
  | .getChildren =>
    if s.phase = .beforeList then some { s with phase := .reading s.zookeeper.keys } else none
  | .getData =>
    match s.phase with
    | .reading (item :: rest) =>
      match s.zookeeper.lookup item with
      | some (some province) =>
        some { s with
          phase := .reading rest
          partnerToProvince := Function.update s.partnerToProvince item (some province) }
      -- no node, or null data
      | _ => some { s with phase := .failed }
    | _ => none
  | .cacheStart => if s.phase = .reading [] then some { s with phase := .started } else none
  | .addListener => if s.phase = .started then some { s with phase := .listening } else none
  | .refresh child =>
    if s.phase.cached then
      some { s with
        snapshot := Function.update s.snapshot child (s.zookeeper.lookup child)
        events := s.events ++
          difference path child (s.snapshot child) (s.zookeeper.lookup child) }
    else none
  | .notice => if s.phase.cached then some { s with events := s.events ++ [.other] } else none
  | .deliver =>
    match s.events with
    | event :: events =>
      if s.phase = .listening then
        some { s with
          events := events
          partnerToProvince := childEvent path s.partnerToProvince event }
      else some { s with events := events }
    | [] => none

/-- All changes and events are processed: the cache has seen every child as it is
and has delivered everything, or it was never started. -/
def State.Settled (s : State) : Prop :=
  s.phase = .failed ∨
    s.phase = .listening ∧ s.events = [] ∧ ∀ child, s.snapshot child = s.zookeeper.lookup child

/-- The steps around `Distinguish_Bolt`. -/
abbrev distinguishBolt : State → Action → Option State := State.step UIF_PATH

/-- The steps around `VOD_Distribute_Bolt`. -/
abbrev vodDistributeBolt : State → Action → Option State := State.step PV_PATH

end GitvTime.Source.PartnerToProvince
