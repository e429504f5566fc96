import GitvTime.Source.Launcher.AnsweringBolts
import GitvTime.Source.UserInfo.RabbitMQBolt

/-!
# One answer for every tuple

`FilterData_Bolt` answers every tuple once: what its try block does not answer
its handler fails. `URLDecode_Bolt` does so once it has read its fields.
`RabbitMQ_Bolt` acks in its finally block a tuple that its handler has failed,
and `PartitionBolt` answers only the lines it rejects.
-/
namespace GitvTime.Guarantees.Launcher
open GitvTime.Support GitvTime.Source.StormBolt GitvTime.Source.Launcher
open GitvTime.Source.UserInfo

/-! ### `FilterData_Bolt` -/

section FilterData

variable (jsonToBean : String → Option ApkBean) (emits : Bool)

theorem forwardCase_quiet (action content : String) (decoded : Bool × LogBean) :
    Logged.Quiet CollectorCall.isAnswer
      (FilterDataBolt.forwardCase emits action content decoded) := by
  unfold FilterDataBolt.forwardCase
  split
  · refine Logged.Quiet.bind (.ofOption _) fun passes => ?_
    split
    · exact emit_quiet _ _
    · exact .pure _
  · exact .pure _

theorem expandCase_answers (action : String) (decoded : Bool × LogBean) (apk : Option String)
    (toStringApk : String → String) :
    Logged.OnceOrThrows CollectorCall.isAnswer
      (FilterDataBolt.expandCase jsonToBean emits action decoded apk toStringApk) := by
  unfold FilterDataBolt.expandCase
  split
  · refine Logged.OnceOrThrows.bind (.ofOption _) fun passes => ?_
    split
    · refine Logged.OnceOrThrows.bind (.ofOption _) fun apk => ?_
      dsimp only
      split
      · exact ack_once
      · exact Logged.OnceOrThrows.bind (emit_quiet _ _) fun _ => ack_once
    · exact ack_once
  · exact ack_once

theorem filterData_tryBody (action content : Field) :
    Logged.OnceOrThrows CollectorCall.isAnswer
      (FilterDataBolt.tryBody jsonToBean emits action content) := by
  unfold FilterDataBolt.tryBody
  refine Logged.OnceOrThrows.bind (getStringByField_quiet _) fun action => ?_
  refine Logged.OnceOrThrows.bind (getStringByField_quiet _) fun content => ?_
  refine Logged.OnceOrThrows.bind (.ofOption _) fun action => ?_
  have forwards : ∀ decoded : String → Bool × LogBean, Logged.OnceOrThrows CollectorCall.isAnswer
      (Logged.ofOption content >>= fun content =>
        FilterDataBolt.forwardCase emits action content (decoded content) >>= fun _ => ack) :=
    fun decoded => Logged.OnceOrThrows.bind (.ofOption _) fun content =>
      Logged.OnceOrThrows.bind (forwardCase_quiet emits _ _ _) fun _ => ack_once
  refine Logged.OnceOrThrows.ite (fun _ => forwards _) fun _ => ?_
  refine Logged.OnceOrThrows.ite (fun _ => forwards _) fun _ => ?_
  refine Logged.OnceOrThrows.ite (fun _ => forwards _) fun _ => ?_
  refine Logged.OnceOrThrows.ite (fun _ => ?_) fun _ => ?_
  · exact Logged.OnceOrThrows.bind (.ofOption _) fun _ => expandCase_answers _ _ _ _ _ _
  refine Logged.OnceOrThrows.ite (fun _ => ?_) fun _ => ?_
  · exact Logged.OnceOrThrows.bind (.ofOption _) fun _ => expandCase_answers _ _ _ _ _ _
  · exact ack_once

theorem filterData_answers (action content : Field) :
    AnsweredOnce (FilterDataBolt.executeCalls jsonToBean emits action content) :=
  (filterData_tryBody jsonToBean emits action content).tryCatch (.call rfl)

end FilterData

/-! ### `URLDecode_Bolt` -/

section UrlDecode

variable (otherC : Char → Bool) (decodeTo : String → Option MultiMap) (emits : Bool)

theorem getLogBeanCall_quiet (map : MultiMap) (ip timestamp : String) :
    Logged.Quiet CollectorCall.isAnswer
      (UrlDecodeBolt.getLogBeanCall otherC map ip timestamp) := by
  unfold UrlDecodeBolt.getLogBeanCall
  split
  all_goals first
    | exact .pure _
    | exact Logged.Quiet.bind (.ofOption _) fun _ => .pure _

theorem urlDecode_tryBody (ip time data : Option String) :
    Logged.OnceOrThrows CollectorCall.isAnswer
      (UrlDecodeBolt.tryBody otherC decodeTo emits ip time data) := by
  unfold UrlDecodeBolt.tryBody
  split
  · refine Logged.OnceOrThrows.ite (fun _ => ?_) fun _ => ack_once
    refine Logged.OnceOrThrows.bind (.ofOption _) fun multiMap => ?_
    refine Logged.OnceOrThrows.ite (fun _ => ack_once) fun _ => ?_
    refine Logged.OnceOrThrows.bind (getLogBeanCall_quiet _ _ _ _) fun logBean => ?_
    split
    · exact Logged.OnceOrThrows.bind (emit_quiet _ _) fun _ => ack_once
    · exact ack_once
  · exact ack_once

theorem urlDecode_answers_iff (ip time data : Field) :
    AnsweredOnce (UrlDecodeBolt.executeCalls otherC decodeTo emits ip time data) ↔
      ip ≠ .other ∧ time ≠ .other ∧ data ≠ .other := by
  constructor
  · intro answered
    refine ⟨?_, ?_, ?_⟩ <;> rintro rfl <;> refine Logged.Once.not_of_throws ?_ answered
    · rfl
    · exact Logged.result_bind_none fun _ => rfl
    · exact Logged.result_bind_none fun _ => Logged.result_bind_none fun _ => rfl
  · rintro ⟨ip_read, time_read, data_read⟩
    obtain ⟨ip, ip_eq⟩ := getStringByField_eq_pure ip_read
    obtain ⟨time, time_eq⟩ := getStringByField_eq_pure time_read
    obtain ⟨data, data_eq⟩ := getStringByField_eq_pure data_read
    rw [UrlDecodeBolt.executeCalls, ip_eq, time_eq, data_eq]
    exact (urlDecode_tryBody otherC decodeTo emits ip time data).tryCatch (.call rfl)

end UrlDecode

/-! ### `RabbitMQ_Bolt` -/

section RabbitMQ

variable (partnerList : List String) (publishes : Bool)

/-- The try block does not throw: the fields are strings or null, and a device of
a listed partner has an address and is published. -/
def Publishable (mac partner : Field) : Prop :=
  mac ≠ .other ∧ partner ≠ .other ∧
    ∀ value, partner = .text value → value ∈ partnerList → mac ≠ .null ∧ publishes = true

theorem rabbitMQ_tryBody (mac partner : Field) :
    (RabbitMQBolt.tryBody partnerList publishes mac partner).calls = [] ∧
      ((RabbitMQBolt.tryBody partnerList publishes mac partner).result.isSome = true ↔
        Publishable partnerList publishes mac partner) := by
  unfold Publishable
  cases mac with
  | other => exact ⟨rfl, by simp [RabbitMQBolt.tryBody, getStringByField]⟩
  | null =>
    cases partner with
    | other => exact ⟨rfl, by simp [RabbitMQBolt.tryBody, getStringByField]⟩
    | null => exact ⟨rfl, by simp [RabbitMQBolt.tryBody, getStringByField]⟩
    | text partner =>
      by_cases listed : partner ∈ partnerList <;>
        simp [RabbitMQBolt.tryBody, getStringByField, listed]
  | text mac =>
    cases partner with
    | other => exact ⟨rfl, by simp [RabbitMQBolt.tryBody, getStringByField]⟩
    | null => exact ⟨rfl, by simp [RabbitMQBolt.tryBody, getStringByField]⟩
    | text partner =>
      by_cases listed : partner ∈ partnerList <;> cases publishes <;>
        simp [RabbitMQBolt.tryBody, RabbitMQBolt.basicPublish, getStringByField, listed]

theorem rabbitMQ_answers_iff (mac partner : Field) :
    AnsweredOnce (RabbitMQBolt.executeCalls partnerList publishes mac partner) ↔
      Publishable partnerList publishes mac partner := by
  obtain ⟨silent, ends⟩ := rabbitMQ_tryBody partnerList publishes mac partner
  rw [← ends]
  unfold RabbitMQBolt.executeCalls
  generalize RabbitMQBolt.tryBody partnerList publishes mac partner = body at silent
  obtain ⟨calls, result⟩ := body
  cases (silent : calls = [])
  cases result with
  | some _ => exact iff_of_true ⟨rfl, rfl⟩ rfl
  | none =>
    -- the handler's `fail` and the `ack` of the finally block
    refine iff_of_false (fun answered => ?_) nofun
    exact absurd answered.once (by decide)

end RabbitMQ

/-! ### `PartitionBolt` -/

section Partition

variable (parseTimestamp : String → Option Int) (emits : Bool)

/-- The line is one of an action with a case, and its bean does not accept it. -/
def Rejected (topic data : Field) : Prop :=
  ∃ topicText chars decode content, topic = .text topicText ∧
    PartitionBolt.substringFrom PartitionBolt.topicPrefix.length topicText.toList = some chars ∧
      PartitionBolt.decoder (String.ofList chars) = some decode ∧ data = .text content ∧
        (decode content).1 = false

theorem partition_answers_iff (topic data : Field) :
    AnsweredOnce (PartitionBolt.executeCalls parseTimestamp emits topic data) ↔
      Rejected topic data := by
  unfold PartitionBolt.executeCalls
  cases topic with
  | other => exact iff_of_false (Logged.Once.not_of_throws rfl) (by simp [Rejected])
  | null =>
    refine iff_of_false (Logged.Once.not_of_throws ?_) (by simp [Rejected])
    simp only [getStringByField, Logged.pure_bind_eq, Logged.ofOption_none, Logged.throw_bind]
    exact Logged.result_bind_none fun _ => rfl
  | text topicText =>
    have rejected_iff : Rejected (.text topicText) data ↔ ∃ chars decode content,
        PartitionBolt.substringFrom PartitionBolt.topicPrefix.length topicText.toList = some chars ∧
          PartitionBolt.decoder (String.ofList chars) = some decode ∧ data = .text content ∧
            (decode content).1 = false := by
      simp [Rejected]
    rw [rejected_iff]
    simp only [getStringByField, Logged.pure_bind_eq, Logged.ofOption_some]
    cases found : PartitionBolt.substringFrom PartitionBolt.topicPrefix.length topicText.toList with
    | none =>
      refine iff_of_false (Logged.Once.not_of_throws ?_) (by simp)
      exact Logged.result_bind_none fun _ => rfl
    | some chars =>
      simp only [Logged.ofOption_some, Logged.pure_bind_eq]
      cases known : PartitionBolt.decoder (String.ofList chars) with
      | none =>
        refine iff_of_false (Logged.Quiet.not_once ?_) (by simp [known])
        exact Logged.Quiet.bind (getStringByField_quiet data) fun _ => emit_quiet _ _
      | some decode =>
        cases data with
        | other => exact iff_of_false (Logged.Once.not_of_throws rfl) (by simp)
        | null => exact iff_of_false (Logged.Once.not_of_throws rfl) (by simp)
        | text content =>
          simp only [Logged.pure_bind_eq, Logged.ofOption_some]
          cases accepted : (decode content).1 with
          | true =>
            refine iff_of_false (Logged.Quiet.not_once ?_) (by simp [known, accepted])
            exact Logged.Quiet.bind (.ofOption _) fun _ => emit_quiet _ _
          | false =>
            exact iff_of_true ⟨rfl, rfl⟩ ⟨chars, decode, content, rfl, known, rfl, accepted⟩

end Partition

/-! ### The answers and what is emitted -/

section Agreement

/-- The calls behind an outcome of a bolt that answers. -/
def answering {α : Type} : Outcome α → Execution α Unit
  | .emitted values => ⟨[.emit values, .ack], some ()⟩
  | .acked => ⟨[.ack], some ()⟩
  | .failed => ⟨[.fail], some ()⟩
  | .thrown => ⟨[], none⟩

theorem forwardCase_eq (action content : String) (decoded : Bool × LogBean) :
    Logged.tryCatch (FilterDataBolt.forwardCase true action content decoded >>= fun _ => ack) fail =
      answering (FilterDataBolt.forward action content decoded) := by
  unfold FilterDataBolt.forwardCase FilterDataBolt.forward
  split
  · cases decoded.2.fieldsFilter with
    | none => rfl
    | some passes => cases passes <;> rfl
  · rfl

theorem expandCase_eq (jsonToBean : String → Option ApkBean) (action : String)
    (decoded : Bool × LogBean) (apk : Option String) (toStringApk : String → String) :
    Logged.tryCatch
        (FilterDataBolt.expandCase jsonToBean true action decoded apk toStringApk) fail =
      answering (FilterDataBolt.expand jsonToBean action decoded apk toStringApk) := by
  unfold FilterDataBolt.expandCase FilterDataBolt.expand
  split
  · cases decoded.2.fieldsFilter with
    | none => rfl
    | some passes =>
      cases passes with
      | false => cases apk <;> rfl
      | true =>
        cases apk with
        | none => rfl
        | some apk =>
          simp only [Logged.ofOption_some, Logged.pure_bind_eq, if_true]
          split <;> rename_i parsed <;> simp only [parsed] <;> rfl
  · rfl

/-- With strings in the fields and emissions that return, the calls are those of
the outcome. -/
theorem filterData_executeCalls (jsonToBean : String → Option ApkBean) (action content : String) :
    FilterDataBolt.executeCalls jsonToBean true (.text action) (.text content) =
      answering (FilterDataBolt.execute jsonToBean action content) := by
  unfold FilterDataBolt.executeCalls FilterDataBolt.tryBody FilterDataBolt.execute
  simp only [getStringByField, Logged.pure_bind_eq, Logged.ofOption_some]
  split
  · exact forwardCase_eq _ _ _
  · split
    · exact forwardCase_eq _ _ _
    · split
      · exact forwardCase_eq _ _ _
      · split
        · exact expandCase_eq _ _ _ _ _
        · split
          · exact expandCase_eq _ _ _ _ _
          · rfl

/-- `getLogBean` with its two ways of having no bean told apart. -/
theorem getLogBeanCall_cases (otherC : Char → Bool) (map : MultiMap) (ip timestamp : String) :
    (∃ logBean, getLogBean otherC map ip timestamp = some logBean ∧
      UrlDecodeBolt.getLogBeanCall otherC map ip timestamp = pure (some logBean)) ∨
    getLogBean otherC map ip timestamp = none ∧
      (UrlDecodeBolt.getLogBeanCall otherC map ip timestamp = pure none ∨
        UrlDecodeBolt.getLogBeanCall otherC map ip timestamp = Logged.throw) := by
  unfold UrlDecodeBolt.getLogBeanCall
  split
  all_goals first
    | cases bean : getLogBean otherC map ip timestamp with
      | none => exact .inr ⟨rfl, .inr rfl⟩
      | some logBean => exact .inl ⟨logBean, rfl, rfl⟩
    | refine .inr ⟨?_, .inl rfl⟩
      unfold getLogBean
      cases LogBean.setTimestamp { ip := some ip } timestamp with
      | none => rfl
      | some log => simp only [Option.bind_some]

theorem urlDecode_executeCalls (otherC : Char → Bool) (decodeTo : String → Option MultiMap)
    (ip time data : String) :
    UrlDecodeBolt.executeCalls otherC decodeTo true (.text ip) (.text time) (.text data) =
      answering (urlDecode otherC decodeTo (some ip) (some time) (some data)) := by
  unfold UrlDecodeBolt.executeCalls UrlDecodeBolt.tryBody urlDecode
  simp only [getStringByField, Logged.pure_bind_eq]
  split
  · cases decodeTo (urlAnalyze data) with
    | none => rfl
    | some multiMap =>
      simp only [Logged.ofOption_some, Logged.pure_bind_eq]
      cases multiMap.getValue "A" with
      | none => rfl
      | some action =>
        simp only
        split
        · rfl
        · rcases getLogBeanCall_cases otherC multiMap ip time with
            ⟨logBean, bean, called⟩ | ⟨bean, called | called⟩ <;> rw [bean, called] <;> rfl
  · rfl

end Agreement

/-! ### The four bolts -/

/-- Whatever the fields hold and however the calls end, each of the four bolts
answers each tuple exactly once and lets no exception escape. -/
def EveryTupleAnsweredOnce : Prop :=
  (∀ jsonToBean emits action content,
    AnsweredOnce (FilterDataBolt.executeCalls jsonToBean emits action content)) ∧
  (∀ otherC decodeTo emits ip time data,
    AnsweredOnce (UrlDecodeBolt.executeCalls otherC decodeTo emits ip time data)) ∧
  (∀ partnerList publishes mac partner,
    AnsweredOnce (RabbitMQBolt.executeCalls partnerList publishes mac partner)) ∧
  ∀ parseTimestamp emits topic data,
    AnsweredOnce (PartitionBolt.executeCalls parseTimestamp emits topic data)

/-- When each of the four bolts does. -/
theorem answered_once_iff (jsonToBean : String → Option ApkBean) (emits : Bool)
    (action content : Field) (otherC : Char → Bool) (decodeTo : String → Option MultiMap)
    (ip time data : Field) (partnerList : List String) (publishes : Bool) (mac partner : Field)
    (parseTimestamp : String → Option Int) (topic line : Field) :
    AnsweredOnce (FilterDataBolt.executeCalls jsonToBean emits action content) ∧
    (AnsweredOnce (UrlDecodeBolt.executeCalls otherC decodeTo emits ip time data) ↔
      ip ≠ .other ∧ time ≠ .other ∧ data ≠ .other) ∧
    (AnsweredOnce (RabbitMQBolt.executeCalls partnerList publishes mac partner) ↔
      Publishable partnerList publishes mac partner) ∧
    (AnsweredOnce (PartitionBolt.executeCalls parseTimestamp emits topic line) ↔
      Rejected topic line) :=
  ⟨filterData_answers jsonToBean emits action content,
    urlDecode_answers_iff otherC decodeTo emits ip time data,
    rabbitMQ_answers_iff partnerList publishes mac partner,
    partition_answers_iff parseTimestamp emits topic line⟩

/-- A publish that throws is failed and then acked; a line that is passed on is
never answered. -/
theorem not_every_tuple_answered_once : ¬ EveryTupleAnsweredOnce ∧
    (RabbitMQBolt.executeCalls ["AH_CMCC"] false (.text "AABB") (.text "AH_CMCC")).calls =
      [.fail, .ack] ∧
    (PartitionBolt.executeCalls (fun _ => some 0) true (.text "launcher-log-100")
      (.text "100|P|M|V|U|S|T|O|H|G|L|I|T|D")).calls =
        [.emit ⟨"100", some "D", 0, some "100|P|M|V|U|S|T|O|H|G|L|I|T|D"⟩] := by
  refine ⟨fun answered => ?_, rfl, by decide +kernel⟩
  have once := (answered.2.2.1 ["AH_CMCC"] false (.text "AABB") (.text "AH_CMCC")).once
  have twice : (RabbitMQBolt.executeCalls ["AH_CMCC"] false (.text "AABB")
    (.text "AH_CMCC")).calls = [.fail, .ack] := rfl
  rw [twice] at once
  exact absurd once (by decide)

end GitvTime.Guarantees.Launcher
