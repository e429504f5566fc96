import Mathlib.Data.List.AList

/-!
# The enabled partners of userinfo-maintain

`bolts/RabbitMQ_Bolt.java`: `partnersListInit` reads the children of `UIF_PATH`
once, and `PathChildListen` patches the list at every later event. ZooKeeper and
RabbitMQ answer; only the data of the nodes is arbitrary. The listener reads
nothing but its event, so the model delivers an event with the change it reports.
-/
namespace GitvTime.Source.UserInfo

def uifPath : String := "/uif_partner_about/builded_consumer"

/-- The children of `UIF_PATH`, in the order of `getChildren`, with their data
decoded as UTF-8; null data is `none`. -/
abbrev Children := AList fun _ : String => Option String

def fullPath (child : String) : String := uifPath ++ "/" ++ child

/-- `full_path.substring(UIF_PATH.length() + 1, full_path.length())`. -/
def childOf (fullPath : String) : String :=
  String.ofList (fullPath.toList.drop (uifPath.length + 1))

@[simp] theorem childOf_fullPath (child : String) : childOf (fullPath child) = child := by
  have length : (uifPath.toList ++ "/".toList).length = uifPath.length + 1 := by
    rw [List.length_append, String.length_toList]
    rfl
  rw [childOf, fullPath, String.toList_append, String.toList_append, ← length, List.drop_left,
    String.ofList_toList]

/-- `partnerTrue`: `none` when it throws. Without data the catch block leaves
`result` null and `result.equals` throws outside of it. -/
def partnerTrue (content : Children) (partner : String) : Option Bool :=
  match content.lookup partner with
  | some (some result) => some (result = "true")
  | _ => none

/-- The loop of `partnersListInit`, with whether it reached its end. -/
def initLoop (content : Children) : List String → List String → List String × Bool
  | [], partnerList => (partnerList, true)
  | item :: rest, partnerList =>
    match partnerTrue content item with
    | some true => initLoop content rest (partnerList ++ [item])
    | some false => initLoop content rest partnerList
    | none => (partnerList, false)

/-- A `PathChildrenCacheEvent`. -/
inductive ChildEvent where
  | childAdded (path : String)
  | childUpdated (path : String) (data : Option String)
  | childRemoved (path : String)
  | other

/-- `PathChildListen.childEvent`: what becomes of `partnerList`. -/
def childEvent (partnerList : List String) : ChildEvent → List String
  | .childAdded path => partnerList ++ [childOf path]
  -- decoding null data throws before the list is touched
  | .childUpdated _ none => partnerList
  | .childUpdated path (some data) =>
    if data = "true" then partnerList else partnerList.erase (childOf path)
  | .childRemoved path => partnerList.erase (childOf path)
  | .other => partnerList

namespace PartnerList

/-- `unreported` are the children read at the start whose `CHILD_ADDED` the cache
may still deliver. The listener is registered only after the loop. -/
structure State where
  children : Children
  unreported : List String
  partnerList : List String
  listening : Bool

/-- `partnersListInit` over the content it finds. -/
def State.init (content : Children) : State :=
  let read := initLoop content content.keys []
  ⟨content, content.keys, read.1, read.2⟩

inductive Action where
  | cached (partner : String)
  | create (partner : String) (data : Option String)
  | setData (partner : String) (data : Option String)
  | delete (partner : String)
  | notice

def State.deliver (s : State) (event : ChildEvent) : State :=
  if s.listening then { s with partnerList := childEvent s.partnerList event } else s

/-- The cache reports a child before any other event about it. -/
def State.report (s : State) (partner : String) : State :=
  { s with unreported := s.unreported.erase partner }

def State.step (s : State) : Action → Option State
  | .cached partner =>
    if partner ∈ s.unreported then
      some ((s.report partner).deliver (.childAdded (fullPath partner)))
    else none
  | .create partner data =>
    if partner ∈ s.children then none
    else some ({ s with children := s.children.insert partner data }.deliver
      (.childAdded (fullPath partner)))
  | .setData partner data =>
    if partner ∈ s.children then
      some (({ s with children := s.children.insert partner data }.report partner).deliver
        (.childUpdated (fullPath partner) data))
    else none
  | .delete partner =>
    if partner ∈ s.children then
      some (({ s with children := s.children.erase partner }.report partner).deliver
        (.childRemoved (fullPath partner)))
    else none
  | .notice => some (s.deliver .other)

/-- `execute`: the routing key and the message published for a tuple, if any. -/
def State.execute (s : State) (partner mac : String) : Option (String × String) :=
  if partner ∈ s.partnerList then some (partner, mac) else none

@[simp] theorem State.deliver_children (s : State) (event : ChildEvent) :
    (s.deliver event).children = s.children := by
  unfold State.deliver
  split <;> rfl

@[simp] theorem State.report_children (s : State) (partner : String) :
    (s.report partner).children = s.children := rfl

@[simp] theorem State.report_partnerList (s : State) (partner : String) :
    (s.report partner).partnerList = s.partnerList := rfl

@[simp] theorem State.report_listening (s : State) (partner : String) :
    (s.report partner).listening = s.listening := rfl

theorem State.deliver_partnerList (s : State) (event : ChildEvent) :
    (s.deliver event).partnerList =
      if s.listening then childEvent s.partnerList event else s.partnerList := by
  unfold State.deliver
  split <;> rfl

end PartnerList

end GitvTime.Source.UserInfo
