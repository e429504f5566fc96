import GitvTime.Source.Patterns
import GitvTime.Source.UserInfo.OpenTimes

/-!
# The boot records of `Distinguish_Bolt`

`Distinguish_Bolt` selects the boot records and looks up the province of their
partner; `UpdateUinfo_Bolt` sends each of them down its three branches. The province
of a partner that ZooKeeper does not know is null, and so is the date of a text that
`SimpleDateUtils` cannot parse; both go on as they are.
-/
namespace GitvTime.Source.UserInfo.DistinguishBolt
open GitvTime.Source.Patterns

/-- The tuple that `TopFilter_Bolt` emits; its fields can be null. -/
structure LogTuple where
  enumtype : Option String
  Action : Option String
  partner : Option String
  mac : Option String
  appVersion : Option String
  lastOpen : Option String

/-- The tuple of the `UPD` stream. -/
structure UpdTuple where
  enumtype : Option String
  mac : String
  partner : String
  province : Option String
  appVersion : String
  lastOpen : String
  deriving DecidableEq, Repr

/-- What an execution sends: the streams `NOPTP` and `UPD`, and the read whose answer
decides about `RAB`. -/
inductive Output where
  | noptp (partner : String)
  | upd (tuple : UpdTuple)
  | mainIsNull (partner mac : String)
  deriving DecidableEq, Repr

/-- `execute`; `enumtype` is not checked. -/
def execute (partnerToProvince : String → Option String) (input : LogTuple) : List Output :=
  match input.Action, input.partner, input.mac, input.appVersion, input.lastOpen with
  | some Action, some partner, some mac, some appVersion, some lastOpen =>
    if isLegalField [Action, partner, mac, appVersion, lastOpen] then
      if "1" = Action then
        let province := partnerToProvince partner
        (if province = none then [.noptp partner] else []) ++
          [.upd ⟨input.enumtype, mac, partner, province, appVersion, lastOpen⟩,
            .mainIsNull partner mac]
      else []
    else []
  | _, _, _, _, _ => []

/-- A tuple of the three branches. -/
inductive Branch where
  | fopen (mac partner lastOpen : String)
  | appv (enumtype : Option String) (mac partner appVersion : String)
  | nojudge (mac partner lastOpen : String) (province : Option String)
  deriving DecidableEq, Repr

/-- `execute` of `UpdateUinfo_Bolt`. -/
def updateUinfo (input : UpdTuple) : List Branch :=
  [.fopen input.mac input.partner input.lastOpen,
    .appv input.enumtype input.mac input.partner input.appVersion,
    .nojudge input.mac input.partner input.lastOpen input.province]

/-- The record as the branches of the open times carry it. -/
def UpdTuple.boot (input : UpdTuple) : Boot := ⟨input.lastOpen, input.province⟩

variable {partnerToProvince : String → Option String} {input : LogTuple} {tuple : UpdTuple}

/-- An accepted record carries its own texts and what ZooKeeper knows of its partner. -/
theorem upd_of_execute (accepted : .upd tuple ∈ execute partnerToProvince input) :
    input.partner = some tuple.partner ∧ input.lastOpen = some tuple.lastOpen ∧
      tuple.province = partnerToProvince tuple.partner := by
  unfold execute at accepted
  split at accepted
  · rename_i partner mac appVersion lastOpen action has_partner has_mac has_version has_time
    split at accepted
    · split at accepted
      · have found : tuple =
            ⟨input.enumtype, mac, partner, partnerToProvince partner, appVersion, lastOpen⟩ := by
          rcases List.mem_append.mp accepted with notice | rest
          · split at notice
            · simp at notice
            · cases notice
          · simpa using rest
        rw [found]
        exact ⟨has_partner, has_time, rfl⟩
      · cases accepted
    · cases accepted
  · cases accepted

end GitvTime.Source.UserInfo.DistinguishBolt
