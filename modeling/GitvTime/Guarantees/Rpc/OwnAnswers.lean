import GitvTime.Guarantees.Rpc.CallAccounts
import GitvTime.Support.Runs

/-!
# Every caller gets its own answer

A request is executed once at most, and a call returns `null` or what its own execution
gave, whatever the threads and the network do. As long as the connection and the queue
hold, no request and no response is lost.
-/
namespace GitvTime.Guarantees.Rpc.OwnAnswers
open GitvTime.Support GitvTime.Source.Rpc MessageFrames CallAccounts

variable {ν : Type} {settings : RpcSettings ν} {w w' : World ν}

structure Inv (settings : RpcSettings ν) (w : World ν) : Prop where
  whole : Whole settings w
  numbered : ∀ number callBack, w.callBacks[number]? = some callBack →
    callBack.request.messageId = settings.randomUUID number
  once : requests settings w ≤ ↑(w.callBacks.map MessageCallBack.request)
  answered : replies settings w ≤ ↑(w.executed.map respond)
  matching : ∀ callBack ∈ w.callBacks, ∀ response, callBack.response = some response →
    response.messageId = callBack.request.messageId
  entries : ∀ id number, (id, number) ∈ w.mapCallBack.entries ↔ ∃ callBack,
    w.callBacks[number]? = some callBack ∧ callBack.request.messageId = id ∧
      callBack.response = none
  returned : ∀ callBack ∈ w.callBacks, ∀ value, callBack.returned = some (some value) →
    ∃ response, callBack.response = some response ∧ response.resultDesc = some value

/-- Nothing is lost, so far. -/
structure Accounted (settings : RpcSettings ν) (w : World ν) : Prop where
  requests : requests settings w = ↑(w.callBacks.map MessageCallBack.request)
  replies : replies settings w = ↑(w.executed.map respond)

theorem counts_init (settings : RpcSettings ν) :
    Whole settings .init ∧ requests settings .init = 0 ∧ replies settings .init = 0 := by
  obtain ⟨no_requests, whole⟩ := Channel.messages_create (waits_nil settings.requests)
  obtain ⟨no_replies, whole'⟩ := Channel.messages_create (waits_nil settings.responses)
  refine ⟨⟨whole, whole'⟩, ?_, ?_⟩
  · simp [requests, pending, World.init, no_requests, inPool]
  · simp [replies, World.init, no_replies]

theorem inv_init (settings : RpcSettings ν) : Inv settings .init := by
  obtain ⟨whole, no_requests, no_replies⟩ := counts_init settings
  refine ⟨whole, fun number callBack found => ?_, ?_, ?_, fun _ member => ?_,
    fun id number => ⟨fun member => ?_, fun found => ?_⟩, fun _ member => ?_⟩
  · cases found
  · exact le_of_eq no_requests
  · exact le_of_eq no_replies
  · cases member
  · cases member
  · obtain ⟨callBack, found, _⟩ := found
    cases found
  · cases member

/-- A turn of the server, the network or a writer. -/
theorem Inv.moves {calm : Prop} (inv : Inv settings w) (moves : Moves settings calm 0 w w') :
    Inv settings w' := by
  obtain ⟨lost, accounted, _⟩ := moves.requests
  obtain ⟨lost', fresh, executed, replied, _⟩ := moves.replies
  refine ⟨moves.whole, ?_, ?_, ?_, ?_, ?_, ?_⟩
  · rw [moves.callBacks]
    exact inv.numbered
  · rw [moves.callBacks]
    rw [add_zero] at accounted
    exact le_trans (accounted ▸ Multiset.le_add_right _ _) inv.once
  · have grown := add_le_add_left inv.answered (↑(fresh.map respond))
    rw [executed, List.map_append, ← Multiset.coe_add]
    exact le_trans (replied ▸ Multiset.le_add_right _ _) grown
  · rw [moves.callBacks]
    exact inv.matching
  · rw [moves.callBacks, moves.mapCallBack]
    exact inv.entries
  · rw [moves.callBacks]
    exact inv.returned

theorem Accounted.moves {calm : Prop} (all : Accounted settings w)
    (moves : Moves settings calm 0 w w') (quiet : calm) : Accounted settings w' := by
  obtain ⟨lost, accounted, none_lost⟩ := moves.requests
  obtain ⟨lost', fresh, executed, replied, none_lost'⟩ := moves.replies
  rw [none_lost quiet, add_zero, add_zero] at accounted
  rw [none_lost' quiet, add_zero] at replied
  constructor
  · rw [accounted, moves.callBacks]
    exact all.requests
  · rw [replied, executed, List.map_append, ← Multiset.coe_add, all.replies]

/-! ### Ids -/

variable (unique : Function.Injective settings.randomUUID)

include unique

theorem Inv.same_call (inv : Inv settings w) {m n : Nat} {first second : MessageCallBack ν}
    (found : w.callBacks[m]? = some first) (found' : w.callBacks[n]? = some second)
    (same : first.request.messageId = second.request.messageId) : m = n := by
  rw [inv.numbered m first found, inv.numbered n second found'] at same
  exact unique same

/-- No two requests have the same id. -/
theorem Inv.ids_nodup (inv : Inv settings w) :
    (w.callBacks.map fun callBack => callBack.request.messageId).Nodup := by
  rw [List.nodup_iff_injective_get]
  intro i j same
  have found : ∀ k : Fin (w.callBacks.map fun cb => cb.request.messageId).length,
      w.callBacks[k.val]? = some (w.callBacks.get ⟨k.val, by simpa using k.isLt⟩) := fun k =>
    List.getElem?_eq_getElem _
  refine Fin.ext (inv.same_call unique (found i) (found j) ?_)
  simpa using same

/-- No two executions are of the same id. -/
theorem Inv.executed_nodup (inv : Inv settings w) :
    (w.executed.map fun execution => execution.1.messageId).Nodup := by
  have counted : ((w.executed.map Prod.fst : List (MessageRequest ν)) : Multiset _) ≤
      requests settings w := Multiset.le_add_left _ _
  have part := le_trans counted inv.once
  have ids := Multiset.map_le_map part (f := MessageRequest.messageId)
  rw [Multiset.map_coe, Multiset.map_coe, List.map_map, List.map_map] at ids
  exact Multiset.coe_nodup.mp (Multiset.nodup_of_le ids (Multiset.coe_nodup.mpr
    (inv.ids_nodup unique)))

theorem Inv.replies_nodup (inv : Inv settings w) :
    ((replies settings w).map MessageResponse.messageId).Nodup := by
  refine Multiset.nodup_of_le (Multiset.map_le_map inv.answered) ?_
  rw [Multiset.map_coe, List.map_map, Multiset.coe_nodup]
  have same : MessageResponse.messageId ∘ respond =
      fun execution : MessageRequest ν × Outcome ν => execution.1.messageId := by
    funext execution
    obtain ⟨request, outcome⟩ := execution
    cases outcome <;> rfl
  rw [same]
  exact inv.executed_nodup unique

omit unique in
/-- A response is that of an execution of a call. -/
theorem Inv.reply_known (inv : Inv settings w) {response : MessageResponse ν}
    (member : response ∈ replies settings w) :
    ∃ execution ∈ w.executed, respond execution = response ∧
      ∃ (number : Nat) (callBack : MessageCallBack ν),
        w.callBacks[number]? = some callBack ∧ callBack.request = execution.1 := by
  obtain ⟨execution, done, rfl⟩ :=
    List.mem_map.mp (Multiset.mem_coe.mp (Multiset.mem_of_le inv.answered member))
  refine ⟨execution, done, rfl, ?_⟩
  have counted : execution.1 ∈ requests settings w :=
    Multiset.mem_add.mpr (.inr (Multiset.mem_coe.mpr (List.mem_map_of_mem done)))
  obtain ⟨callBack, listed, same⟩ :=
    List.mem_map.mp (Multiset.mem_coe.mp (Multiset.mem_of_le inv.once counted))
  obtain ⟨number, found⟩ := List.mem_iff_getElem?.mp listed
  exact ⟨number, callBack, found, same⟩

omit unique in
theorem respond_id (execution : MessageRequest ν × Outcome ν) :
    (respond execution).messageId = execution.1.messageId := by
  obtain ⟨request, outcome⟩ := execution
  cases outcome <;> rfl

/-- The callback of a response that comes still waits for it. -/
theorem Inv.response_expected (inv : Inv settings w) {response : MessageResponse ν}
    {rest : List (MessageResponse ν)} (inbox : w.toClient.inbox = response :: rest) :
    ∃ (number : Nat) (callBack : MessageCallBack ν),
      w.mapCallBack.get? response.messageId = some number ∧
        w.callBacks[number]? = some callBack ∧ callBack.response = none ∧
          callBack.request.messageId = response.messageId := by
  have popped := Channel.messages_pop (d := settings.responses.messageDecoder) inbox
  have coming : response ∈
      (w.toClient.messages settings.responses.messageDecoder : Multiset _) := by
    rw [popped]
    exact List.mem_cons_self
  obtain ⟨execution, done, same, number, callBack, found, own⟩ :=
    inv.reply_known (Multiset.mem_add.mpr (.inl coming))
  have id : callBack.request.messageId = response.messageId := by
    rw [own, ← same, respond_id]
  have open_ : callBack.response = none := by
    cases earlier : callBack.response with
    | none => rfl
    | some old =>
      have old_id := inv.matching callBack (List.mem_of_getElem? found) old earlier
      have listed : old ∈ w.callBacks.filterMap MessageCallBack.response :=
        List.mem_filterMap.mpr ⟨callBack, List.mem_of_getElem? found, earlier⟩
      have nodup := inv.replies_nodup unique
      rw [replies, Multiset.map_add] at nodup
      have apart := Multiset.disjoint_left.mp (Multiset.nodup_add.mp nodup).2.2
        (Multiset.mem_map_of_mem MessageResponse.messageId coming)
      refine absurd (Multiset.mem_map.mpr ⟨old, Multiset.mem_coe.mpr listed, ?_⟩) apart
      exact old_id.trans id
  exact ⟨number, callBack, LinkedMap.get?_eq_some.mpr ((inv.entries _ _).mpr
    ⟨callBack, found, id, open_⟩), found, open_, id⟩

/-! ### The turns of the client -/

omit unique in
/-- A callback is replaced: the responses that are there. -/
theorem responses_set {callBacks : List (MessageCallBack ν)} {number : Nat}
    {callBack : MessageCallBack ν} (found : callBacks[number]? = some callBack)
    (new : MessageCallBack ν) :
    (↑((callBacks.set number new).filterMap MessageCallBack.response) +
        ↑callBack.response.toList : Multiset (MessageResponse ν)) =
      ↑(callBacks.filterMap MessageCallBack.response) + ↑new.response.toList := by
  obtain ⟨front, back, split, _, set⟩ := split_at_index found
  rw [set, split]
  simp only [List.filterMap_append, List.filterMap_cons, ← Multiset.coe_add]
  cases callBack.response <;> cases new.response <;>
    simp only [Option.toList_none, Option.toList_some, ← Multiset.cons_coe,
      ← Multiset.singleton_add, Multiset.coe_nil] <;> abel

omit unique in
/-- A callback is replaced by one of the same request. -/
theorem Inv.replaced (inv : Inv settings w) {number : Nat} {callBack new : MessageCallBack ν}
    {mapCallBack : LinkedMap String Nat} {toClient : Channel UInt8 (MessageResponse ν)}
    (found : w.callBacks[number]? = some callBack) (same : new.request = callBack.request)
    (whole : toClient.Whole settings.responses.messageDecoder)
    (counted : replies settings { w with
        callBacks := w.callBacks.set number new, mapCallBack := mapCallBack,
        toClient := toClient } =
      replies settings w)
    (matching : ∀ response, new.response = some response →
      response.messageId = new.request.messageId)
    (entries : ∀ id n, (id, n) ∈ mapCallBack.entries ↔
      (id, n) ∈ w.mapCallBack.entries ∧ (n = number → new.response = none))
    (waits : new.response = none → callBack.response = none)
    (returned : ∀ value, new.returned = some (some value) →
      ∃ response, new.response = some response ∧ response.resultDesc = some value) :
    Inv settings { w with
        callBacks := w.callBacks.set number new, mapCallBack := mapCallBack,
        toClient := toClient } ∧
      (Accounted settings w → Accounted settings { w with
        callBacks := w.callBacks.set number new, mapCallBack := mapCallBack,
        toClient := toClient }) := by
  have inside := (List.getElem?_eq_some_iff.mp found).1
  have at_number : (w.callBacks.set number new)[number]? = some new :=
    List.getElem?_set_self inside
  have others : ∀ n, n ≠ number → (w.callBacks.set number new)[n]? = w.callBacks[n]? :=
    fun n other => List.getElem?_set_ne (Ne.symm other)
  have same_requests : (w.callBacks.set number new).map MessageCallBack.request =
      w.callBacks.map MessageCallBack.request := map_set_same found same
  have members : ∀ {P : MessageCallBack ν → Prop}, (∀ cb ∈ w.callBacks, P cb) → P new →
      ∀ cb ∈ w.callBacks.set number new, P cb := by
    intro P all new cb member
    rcases List.mem_or_eq_of_mem_set member with member | rfl
    · exact all cb member
    · exact new
  constructor
  · refine ⟨⟨inv.whole.1, whole⟩, fun n cb there => ?_, ?_, ?_, members inv.matching matching,
      fun id n => ?_, members inv.returned returned⟩
    · by_cases here : n = number
      · subst here
        cases at_number.symm.trans there
        rw [same]
        exact inv.numbered n callBack found
      · exact inv.numbered n cb ((others n here).symm.trans there)
    · rw [same_requests]
      exact inv.once
    · rw [counted]
      exact inv.answered
    · rw [entries, inv.entries]
      by_cases here : n = number
      · subst here
        rw [at_number, found]
        constructor
        · rintro ⟨⟨_, ⟨⟩, id, _⟩, waits⟩
          exact ⟨new, rfl, same ▸ id, waits rfl⟩
        · rintro ⟨_, ⟨⟩, id, open_⟩
          exact ⟨⟨callBack, rfl, same ▸ id, waits open_⟩, fun _ => open_⟩
      · rw [others n here]
        exact ⟨fun there => there.1, fun there => ⟨there, fun here' => absurd here' here⟩⟩
  · intro all
    constructor
    · rw [same_requests]
      exact all.requests
    · rw [counted]
      exact all.replies

theorem Inv.handleResponse (inv : Inv settings w) (taken : w.handleResponse = some w') :
    Inv settings w' ∧ (Accounted settings w → Accounted settings w') := by
  unfold World.handleResponse at taken
  split at taken
  · cases taken
  · rename_i response rest inbox
    obtain ⟨number, callBack, mapped, found, open_, id⟩ := inv.response_expected unique inbox
    dsimp only at taken
    rw [mapped] at taken
    dsimp only at taken
    rw [List.modify_eq_set_getElem?, found] at taken
    cases taken
    refine inv.replaced found rfl inv.whole.2 ?_ ?_ ?_ ?_ ?_
    · have popped := Channel.messages_pop (d := settings.responses.messageDecoder) inbox
      have more := responses_set found { callBack with response := some response }
      rw [open_] at more
      simp only [Option.toList_none, Option.toList_some, Multiset.coe_nil, add_zero,
        Multiset.coe_singleton] at more
      simp only [replies, more, popped, ← Multiset.cons_coe, ← Multiset.singleton_add]
      abel
    · rintro _ ⟨⟩
      exact id.symm
    · intro other n
      have removed : (other, n) ∈ (w.mapCallBack.remove response.messageId).entries ↔
          (other, n) ∈ w.mapCallBack.entries ∧ other ≠ response.messageId := by
        simp [LinkedMap.remove]
      rw [removed]
      refine and_congr_right fun listed => ?_
      obtain ⟨cb, there, cb_id, _⟩ := (inv.entries other n).mp listed
      constructor
      · rintro differs rfl
        cases found.symm.trans there
        exact absurd (cb_id.symm.trans id) differs
      · intro elsewhere same
        have here := inv.same_call unique there found (cb_id.trans (same.trans id.symm))
        cases elsewhere here
    · intro nothing
      cases nothing
    · intro value gone
      obtain ⟨earlier, there, _⟩ := inv.returned callBack (List.mem_of_getElem? found) value gone
      cases open_.symm.trans there

omit unique in
theorem Inv.start (inv : Inv settings w) {number : Nat} (taken : w.start number = some w') :
    Inv settings w' ∧ (Accounted settings w → Accounted settings w') := by
  unfold World.start at taken
  split at taken
  · rename_i request response found
    obtain ⟨_, taken⟩ := Option.ite_none_left_eq_some.mp taken
    cases taken
    refine inv.replaced found rfl inv.whole.2 ?_ ?_ ?_ ?_ ?_
    · have same := responses_set found
        ⟨request, response, some (response.bind MessageResponse.resultDesc)⟩
      simp only [replies, add_right_cancel same]
    · have matching := inv.matching _ (List.mem_of_getElem? found)
      exact fun earlier there => matching earlier there
    · refine fun id n => ⟨fun listed => ⟨listed, ?_⟩, And.left⟩
      rintro rfl
      obtain ⟨cb, there, _, open_⟩ := (inv.entries id n).mp listed
      cases found.symm.trans there
      exact open_
    · exact id
    · intro value gone
      exact Option.bind_eq_some_iff.mp (Option.some.inj gone)
  · cases taken

theorem Inv.sendRequest (inv : Inv settings w) (className methodName : String)
    (typeParameters : List String) (args : List (Option ν)) :
    Inv settings (w.sendRequest settings className methodName typeParameters args) ∧
      (Accounted settings w →
        Accounted settings (w.sendRequest settings className methodName typeParameters args)) := by
  have new_id : settings.randomUUID w.callBacks.length ∉ w.mapCallBack.keys := by
    intro listed
    obtain ⟨number, member⟩ := LinkedMap.mem_keys.mp listed
    obtain ⟨callBack, found, id, _⟩ := (inv.entries _ _).mp member
    rw [inv.numbered number callBack found] at id
    have inside := (List.getElem?_eq_some_iff.mp found).1
    have same := unique id
    omega
  have entries : (w.mapCallBack.put (settings.randomUUID w.callBacks.length)
      w.callBacks.length).entries =
        w.mapCallBack.entries ++
          [(settings.randomUUID w.callBacks.length, w.callBacks.length)] := by
    rw [LinkedMap.put, if_neg new_id]
    exact LinkedMap.putLast_entries_of_absent new_id _
  have counted : requests settings (w.sendRequest settings className methodName typeParameters args)
      = requests settings w + {⟨settings.randomUUID w.callBacks.length, className, methodName,
        typeParameters, args⟩} := by
    simp only [requests, pending, World.sendRequest, append_coe]
    abel
  have replied : replies settings (w.sendRequest settings className methodName typeParameters args)
      = replies settings w := by
    simp [replies, World.sendRequest]
  have grown : ((w.sendRequest settings className methodName typeParameters args).callBacks.map
      MessageCallBack.request : Multiset (MessageRequest ν)) =
        ↑(w.callBacks.map MessageCallBack.request) + {⟨settings.randomUUID w.callBacks.length,
          className, methodName, typeParameters, args⟩} := by
    simp only [World.sendRequest, List.map_append, List.map_singleton, append_coe]
  have called : ∀ {n cb}, (w.sendRequest settings className methodName typeParameters
      args).callBacks[n]? = some cb → w.callBacks[n]? = some cb ∨ n = w.callBacks.length ∧
        cb = ⟨⟨settings.randomUUID w.callBacks.length, className, methodName, typeParameters,
          args⟩, none, none⟩ := by
    intro n cb found
    simp only [World.sendRequest] at found
    rcases Nat.lt_or_ge n w.callBacks.length with old | new
    · rw [List.getElem?_append_left old] at found
      exact .inl found
    · rw [List.getElem?_append_right new] at found
      obtain ⟨at_end, same⟩ := List.getElem?_eq_some_iff.mp found
      rw [List.length_singleton] at at_end
      have last : n = w.callBacks.length := by omega
      subst last
      simp only [Nat.sub_self, List.getElem_cons_zero] at same
      exact .inr ⟨rfl, same.symm⟩
  constructor
  · refine ⟨inv.whole, fun n cb found => ?_, ?_, ?_, fun cb member response there => ?_,
      fun id n => ?_, fun cb member value gone => ?_⟩
    · rcases called found with old | ⟨rfl, rfl⟩
      · exact inv.numbered n cb old
      · rfl
    · rw [counted, grown]
      exact add_le_add_left inv.once _
    · rw [replied]
      exact inv.answered
    · rcases List.mem_append.mp member with old | new
      · exact inv.matching cb old response there
      · cases List.mem_singleton.mp new
        cases there
    · have listed : (id, n) ∈ (w.sendRequest settings className methodName typeParameters
          args).mapCallBack.entries ↔ (id, n) ∈ w.mapCallBack.entries ∨
            (id, n) = (settings.randomUUID w.callBacks.length, w.callBacks.length) := by
        simp only [World.sendRequest]
        rw [entries, List.mem_append, List.mem_singleton]
      rw [listed, inv.entries]
      constructor
      · rintro (⟨cb, found, rest⟩ | same)
        · refine ⟨cb, ?_, rest⟩
          exact List.getElem?_append_left (List.getElem?_eq_some_iff.mp found).1 ▸ found
        · cases same
          exact ⟨_, List.getElem?_concat_length, rfl, rfl⟩
      · rintro ⟨cb, found, id, open_⟩
        rcases called found with old | ⟨rfl, rfl⟩
        · exact .inl ⟨cb, old, id, open_⟩
        · exact .inr (by rw [← id])
    · rcases List.mem_append.mp member with old | new
      · exact inv.returned cb old value gone
      · cases List.mem_singleton.mp new
        cases gone
  · intro all
    constructor
    · rw [counted, grown, all.requests]
    · rw [replied]
      exact all.replies

/-! ### Whole runs -/

/-- The connection holds, the server takes what comes, and what is to be written can be. -/
def Calm (settings : RpcSettings ν) (w : World ν) : Turn ν → Prop
  | .closeClient | .closeServer => False
  | .writeRequest _ => Open w ∧ ∀ request ∈ w.unwritten,
      (settings.requests.serialize request).isSome = true
  | .handleRequest outcome => Open w ∧ Takes settings w ∧
      ∀ w', w.handleRequest settings outcome = some w' → Answered settings w w'
  | .otherClient => Open w ∧ Takes settings w
  | .work action outcome => Open w ∧
      ∀ w', w.work settings action outcome = some w' → Answered settings w w'
  | _ => True

omit unique in
/-- What a turn does other than one of a caller. -/
theorem step_moves (lawful : Lawful settings) (whole : Whole settings w) {turn : Turn ν}
    (taken : w.step settings turn = some w') :
    Moves settings (Calm settings w turn) 0 w w' ∨
      (∃ className methodName typeParameters args,
        turn = .sendRequest className methodName typeParameters args) ∨
          turn = .handleResponse ∨ ∃ number, turn = .start number := by
  cases turn with
  | sendRequest className methodName typeParameters args =>
    exact .inr (.inl ⟨className, methodName, typeParameters, args, rfl⟩)
  | writeRequest index =>
    exact .inl (writeRequest_moves lawful whole taken)
  | deliverRequests count =>
    cases taken
    exact .inl (deliverRequests_moves whole count _)
  | handleRequest outcome =>
    exact .inl ((handleRequest_moves lawful whole taken).calmer fun calm =>
      ⟨calm.1, calm.2.1, calm.2.2 w' taken⟩)
  | otherClient =>
    cases taken
    refine .inl ((submit_moves lawful whole none (.ok none)).calmer fun calm =>
      ⟨calm.1, calm.2, fun fresh executed execution new => ?_⟩)
    rw [submit_other, List.self_eq_append_right] at executed
    rw [executed] at new
    cases new
  | work action outcome =>
    exact .inl ((work_moves lawful whole taken).calmer fun calm => ⟨calm.1, calm.2 w' taken⟩)
  | deliverResponses count =>
    cases taken
    exact .inl (deliverResponses_moves whole count _)
  | handleResponse => exact .inr (.inr (.inl rfl))
  | start number => exact .inr (.inr (.inr ⟨number, rfl⟩))
  | closeClient =>
    cases taken
    exact .inl (closeClient_moves whole)
  | closeServer =>
    cases taken
    exact .inl (closeServer_moves whole)

theorem Inv.step (lawful : Lawful settings) (inv : Inv settings w) {turn : Turn ν}
    (taken : w.step settings turn = some w') :
    Inv settings w' ∧ (Calm settings w turn → Accounted settings w → Accounted settings w') := by
  rcases step_moves lawful inv.whole taken with moves | caller
  · exact ⟨inv.moves moves, fun calm all => all.moves moves calm⟩
  · rcases caller with ⟨className, methodName, typeParameters, args, rfl⟩ | rfl | ⟨number, rfl⟩
    · cases taken
      have after := inv.sendRequest unique className methodName typeParameters args
      exact ⟨after.1, fun _ => after.2⟩
    · have after := inv.handleResponse unique taken
      exact ⟨after.1, fun _ => after.2⟩
    · have after := inv.start taken
      exact ⟨after.1, fun _ => after.2⟩

theorem inv_run (lawful : Lawful settings) (turns : List (Turn ν)) :
    AllStates (World.step settings) (Inv settings) .init turns :=
  .of_invariant (fun _ _ _ inv taken => (inv.step unique lawful taken).1) turns
    (inv_init settings)

/-- Two calls of one id are one call. -/
theorem Inv.callBack_unique (inv : Inv settings w) {first second : MessageCallBack ν}
    (listed : first ∈ w.callBacks) (listed' : second ∈ w.callBacks)
    (same : first.request.messageId = second.request.messageId) : first = second := by
  obtain ⟨m, found⟩ := List.mem_iff_getElem?.mp listed
  obtain ⟨n, found'⟩ := List.mem_iff_getElem?.mp listed'
  have here := inv.same_call unique found found' same
  subst here
  exact Option.some.inj (found.symm.trans found')

omit unique in
/-- What is executed was called. -/
theorem Inv.executed_called (inv : Inv settings w) {execution : MessageRequest ν × Outcome ν}
    (done : execution ∈ w.executed) : ∃ callBack ∈ w.callBacks,
      callBack.request = execution.1 := by
  have counted : execution.1 ∈ requests settings w :=
    Multiset.mem_add.mpr (.inr (Multiset.mem_coe.mpr (List.mem_map_of_mem done)))
  exact List.mem_map.mp (Multiset.mem_coe.mp (Multiset.mem_of_le inv.once counted))

omit unique in
/-- Requests are executed as they were called, none of them twice, and what a call returns
is `null` or the result of its execution. -/
theorem own_answer (settings : RpcSettings ν) (lawful : Lawful settings)
    (unique : Function.Injective settings.randomUUID) (turns : List (Turn ν)) :
    AllStates (World.step settings) (fun w =>
      (∀ execution ∈ w.executed, ∃ callBack ∈ w.callBacks, callBack.request = execution.1) ∧
        (w.executed.map fun execution => execution.1.messageId).Nodup ∧
          ∀ callBack ∈ w.callBacks, ∀ value, callBack.returned = some (some value) →
            (callBack.request, .ok (some value)) ∈ w.executed) .init turns := by
  refine (inv_run unique lawful turns).mono fun w inv =>
    ⟨fun _ done => inv.executed_called done, inv.executed_nodup unique, ?_⟩
  intro callBack listed value gone
  obtain ⟨response, there, result⟩ := inv.returned callBack listed value gone
  have counted : response ∈ replies settings w :=
    Multiset.mem_add.mpr (.inr (Multiset.mem_coe.mpr
      (List.mem_filterMap.mpr ⟨callBack, listed, there⟩)))
  obtain ⟨execution, done, same, _⟩ := inv.reply_known counted
  obtain ⟨other, listed', own⟩ := inv.executed_called done
  have id : callBack.request.messageId = other.request.messageId := by
    rw [own, ← respond_id, same, inv.matching callBack listed response there]
  have here := inv.callBack_unique unique listed listed' id
  subst here
  obtain ⟨request, outcome⟩ := execution
  cases outcome with
  | error thrown =>
    rw [← same] at result
    cases result
  | ok answer =>
    rw [← same] at result
    cases (show answer = some value from result)
    rw [own]
    exact done

/-- A serializer of two messages. -/
def pair {μ : Type} [DecidableEq μ] (first second : μ) : MessageCodecUtil μ where
  serialize message :=
    if message = first then some [0] else if message = second then some [1] else none
  decode body :=
    if body = [0] then .message first else if body = [1] then .message second else .throws

omit unique in
theorem pair_roundTrip {μ : Type} [DecidableEq μ] (first second : μ) :
    RoundTrip (pair first second) := by
  intro message body serialized
  simp only [pair] at serialized ⊢
  split at serialized
  · rename_i same
    cases serialized
    exact ⟨by decide, by rw [same]; rfl⟩
  · obtain ⟨same, written⟩ := Option.ite_none_right_eq_some.mp serialized
    cases written
    exact ⟨by decide, by rw [same]; rfl⟩

/-- A method that answers 5 and one that throws. -/
def twoMethods : RpcSettings Nat where
  queueType := .linkedBlockingQueue
  policy := .abortPolicy
  parallel := 2
  requests := pair ⟨"", "C", "f", [], []⟩ ⟨"i", "C", "g", [], []⟩
  responses := pair ⟨"", none, some 5⟩ ⟨"i", some "E", none⟩
  randomUUID number := String.ofList (List.replicate number 'i')

omit unique in
theorem twoMethods_lawful : Lawful twoMethods :=
  ⟨pair_roundTrip _ _, pair_roundTrip _ _⟩

omit unique in
theorem twoMethods_unique : Function.Injective twoMethods.randomUUID := by
  intro m n same
  have lengths := congrArg String.length same
  simpa [twoMethods] using lengths

omit unique in
/-- The second of two calls is answered first. -/
theorem own_answer_two : AllStates (World.step twoMethods) (fun w =>
    (∀ execution ∈ w.executed, ∃ callBack ∈ w.callBacks, callBack.request = execution.1) ∧
      (w.executed.map fun execution => execution.1.messageId).Nodup ∧
        ∀ callBack ∈ w.callBacks, ∀ value, callBack.returned = some (some value) →
          (callBack.request, .ok (some value)) ∈ w.executed) .init
    [.sendRequest "C" "f" [] [], .sendRequest "C" "g" [] [], .writeRequest 1, .writeRequest 0,
      .deliverRequests 7, .handleRequest (.ok none), .deliverRequests 3,
      .handleRequest (.ok none), .work (.finish 0) (.error "E"), .work (.finish 0) (.ok (some 5)),
      .deliverResponses 10, .handleResponse, .start 0, .handleResponse, .start 1] :=
  own_answer twoMethods twoMethods_lawful twoMethods_unique _

/-- No queue, and a policy that drops what no worker waits for. -/
def discarding : RpcSettings Nat :=
  { twoMethods with queueType := .synchronousQueue, policy := .discardedPolicy }

end GitvTime.Guarantees.Rpc.OwnAnswers
