import GitvTime.Guarantees.Rpc.OwnAnswers

/-!
# Calls that are lost

A call of which nothing is on its way, neither its request nor a response to it, has its
entry in `mapCallBack` for ever. A server with the queue `ArrayBlockingQueue` loses all of
its calls.
-/
namespace GitvTime.Guarantees.Rpc.LostCalls
open GitvTime.Support GitvTime.Source.Rpc MessageFrames CallAccounts OwnAnswers

variable {ν : Type} {settings : RpcSettings ν} {w w' : World ν} {number : Nat}
  {request : MessageRequest ν}

/-- No response to the call is on its way, and none will be: its request is not, or the
client does not listen. -/
structure Gone (settings : RpcSettings ν) (number : Nat) (request : MessageRequest ν)
    (w : World ν) : Prop where
  waits : ∃ callBack, w.callBacks[number]? = some callBack ∧ callBack.request = request ∧
    callBack.response = none
  silent : ∀ response ∈ w.toClient.messages settings.responses.messageDecoder,
    response.messageId ≠ request.messageId
  idle : request ∉ pending settings w ∨ w.toClient.kept = none

theorem messages_closed (settings : RpcSettings ν) {c : Channel UInt8 (MessageResponse ν)}
    (closed : c.kept = none) :
    c.messages settings.responses.messageDecoder = c.inbox := by
  simp [Channel.messages, closed, StreamDecoder.feed]

variable (unique : Function.Injective settings.randomUUID)

include unique

theorem requests_nodup (inv : Inv settings w) : (requests settings w).Nodup := by
  have ids : ((w.callBacks.map MessageCallBack.request).map MessageRequest.messageId).Nodup := by
    rw [List.map_map]
    exact inv.ids_nodup unique
  exact Multiset.nodup_of_le inv.once (Multiset.coe_nodup.mpr ids.of_map)

theorem Gone.moves {calm : Prop} (gone : Gone settings number request w) (inv : Inv settings w)
    (inv' : Inv settings w') (moves : Moves settings calm 0 w w') :
    Gone settings number request w' := by
  obtain ⟨callBack, found, own, open_⟩ := gone.waits
  have waits : ∃ callBack, w'.callBacks[number]? = some callBack ∧ callBack.request = request ∧
      callBack.response = none := ⟨callBack, moves.callBacks ▸ found, own, open_⟩
  rcases gone.idle with idle | closed
  case inr =>
    obtain ⟨closed', inbox⟩ := moves.closed closed
    refine ⟨waits, ?_, .inr closed'⟩
    rw [messages_closed settings closed', inbox, ← messages_closed settings closed]
    exact gone.silent
  case inl =>
    obtain ⟨lost, accounted, _⟩ := moves.requests
    obtain ⟨lost', fresh, executed, replied, _⟩ := moves.replies
    rw [add_zero] at accounted
    have fewer : requests settings w' ≤ requests settings w :=
      accounted ▸ Multiset.le_add_right _ _
    have apart : request ∈ pending settings w' →
        request ∉ (w'.executed.map Prod.fst : Multiset (MessageRequest ν)) := fun still =>
      Multiset.disjoint_left.mp (Multiset.nodup_add.mp (requests_nodup unique inv')).2.2 still
    have done_before : request ∈ requests settings w' →
        request ∈ (w.executed.map Prod.fst : Multiset (MessageRequest ν)) := fun counted =>
      (Multiset.mem_add.mp (Multiset.mem_of_le fewer counted)).resolve_left idle
    refine ⟨waits, fun response coming same => ?_, .inl fun still => ?_⟩
    · have counted : response ∈ replies settings w + ↑(fresh.map respond) := by
        rw [← replied]
        exact Multiset.mem_add.mpr (.inl (Multiset.mem_add.mpr (.inl coming)))
      rcases Multiset.mem_add.mp counted with old | new
      · rcases Multiset.mem_add.mp old with coming | there
        · exact gone.silent response coming same
        · obtain ⟨other, listed, there⟩ := List.mem_filterMap.mp (Multiset.mem_coe.mp there)
          have id := inv.matching other listed response there
          have here := inv.callBack_unique unique (List.mem_of_getElem? found) listed
            (by rw [own, ← id, same])
          subst here
          cases open_.symm.trans there
      · obtain ⟨execution, done, rfl⟩ := List.mem_map.mp (Multiset.mem_coe.mp new)
        have done' : execution ∈ w'.executed := by
          rw [executed]
          exact List.mem_append_right _ done
        obtain ⟨other, listed, own'⟩ := inv'.executed_called done'
        rw [respond_id, ← own'] at same
        have here := inv.callBack_unique unique (List.mem_of_getElem? found)
          (moves.callBacks ▸ listed) (by rw [own, same])
        subst here
        have again : execution.1 = request := own'.symm.trans own
        have before := done_before (Multiset.mem_add.mpr (.inr (Multiset.mem_coe.mpr
          (again ▸ List.mem_map_of_mem done'))))
        have nodup := Multiset.coe_nodup.mp
          (Multiset.nodup_add.mp (requests_nodup unique inv')).2.1
        rw [executed, List.map_append] at nodup
        refine (List.nodup_append.mp nodup).2.2 request (Multiset.mem_coe.mp before) request ?_ rfl
        exact again ▸ List.mem_map_of_mem done
    · have before := done_before (Multiset.mem_add.mpr (.inl still))
      refine apart still ?_
      rw [executed, List.map_append, ← Multiset.coe_add]
      exact Multiset.mem_add.mpr (.inl before)

theorem Gone.step (lawful : Lawful settings) (gone : Gone settings number request w)
    (inv : Inv settings w) {turn : Turn ν} (taken : w.step settings turn = some w') :
    Gone settings number request w' := by
  have inv' := (inv.step unique lawful taken).1
  rcases step_moves lawful inv.whole taken with moves | caller
  · exact gone.moves unique inv inv' moves
  obtain ⟨callBack, found, own, open_⟩ := gone.waits
  have inside := (List.getElem?_eq_some_iff.mp found).1
  rcases caller with ⟨className, methodName, typeParameters, args, rfl⟩ | rfl | ⟨n, rfl⟩
  · cases taken
    refine ⟨⟨callBack, ?_, own, open_⟩, gone.silent, gone.idle.imp_left fun idle listed => ?_⟩
    · exact (List.getElem?_append_left inside).trans found
    · have grown : pending settings (w.sendRequest settings className methodName typeParameters
          args) = pending settings w + {⟨settings.randomUUID w.callBacks.length, className,
            methodName, typeParameters, args⟩} := by
        simp only [pending, World.sendRequest, append_coe]
        abel
      rw [grown] at listed
      rcases Multiset.mem_add.mp listed with old | new
      · exact idle old
      · have id := inv.numbered number callBack found
        rw [own, Multiset.mem_singleton.mp new] at id
        have same := unique id
        omega
  · change w.handleResponse = some w' at taken
    unfold World.handleResponse at taken
    split at taken
    · cases taken
    · rename_i response rest inbox
      obtain ⟨n, other, mapped, found', _, id⟩ := inv.response_expected unique inbox
      have popped := Channel.messages_pop (d := settings.responses.messageDecoder) inbox
      dsimp only at taken
      rw [mapped] at taken
      dsimp only at taken
      rw [List.modify_eq_set_getElem?, found'] at taken
      cases taken
      have elsewhere : n ≠ number := by
        intro here
        subst here
        cases found.symm.trans found'
        refine gone.silent response ?_ (own ▸ id.symm)
        rw [popped]
        exact List.mem_cons_self
      refine ⟨⟨callBack, ?_, own, open_⟩, fun response' coming => ?_, gone.idle⟩
      · exact (List.getElem?_set_ne elsewhere).trans found
      · refine gone.silent response' ?_
        rw [popped]
        exact List.mem_cons_of_mem response coming
  · change w.start n = some w' at taken
    unfold World.start at taken
    split at taken
    · rename_i asked response found'
      obtain ⟨_, taken⟩ := Option.ite_none_left_eq_some.mp taken
      cases taken
      refine ⟨?_, gone.silent, gone.idle⟩
      by_cases here : n = number
      · subst here
        cases found.symm.trans found'
        exact ⟨_, List.getElem?_set_self inside, own, open_⟩
      · exact ⟨callBack, (List.getElem?_set_ne here).trans found, own, open_⟩
    · cases taken

omit unique in
/-- A call of which nothing is on its way any more has no answer in any later state, keeps
its entry and returns `null`. -/
theorem gone_for_good (settings : RpcSettings ν) (lawful : Lawful settings)
    (unique : Function.Injective settings.randomUUID) (before after : List (Turn ν))
    (reached : runSteps (World.step settings) .init before = some w)
    (gone : Gone settings number request w) :
    AllStates (World.step settings) (fun w' =>
      (request.messageId, number) ∈ w'.mapCallBack.entries ∧ ∃ callBack,
        w'.callBacks[number]? = some callBack ∧ callBack.request = request ∧
          callBack.response = none ∧ ∀ value, callBack.returned ≠ some (some value)) w after := by
  have start : Inv settings w := (inv_run unique lawful before).last reached
  have run : AllStates (World.step settings) (fun w => Inv settings w ∧
      Gone settings number request w) w after := by
    refine .of_invariant (fun w turn w' held taken => ?_) after ⟨start, gone⟩
    exact ⟨(held.1.step unique lawful taken).1, held.2.step unique lawful held.1 taken⟩
  refine run.mono fun w' held => ?_
  obtain ⟨inv, gone⟩ := held
  obtain ⟨callBack, found, own, open_⟩ := gone.waits
  refine ⟨(inv.entries _ _).mpr ⟨callBack, found, congrArg _ own, open_⟩, callBack, found, own,
    open_, fun value returned => ?_⟩
  obtain ⟨response, there, _⟩ :=
    inv.returned callBack (List.mem_of_getElem? found) value returned
  cases open_.symm.trans there

/-- The workers are busy with the tasks of others, and the request is gone. -/
def dropped : World Nat where
  callBacks := [⟨⟨"", "C", "f", [], []⟩, none, none⟩]
  mapCallBack := ⟨[("", 0)], List.nodup_singleton ""⟩
  unwritten := []
  toServer := .create
  pool := some ⟨List.replicate 16 none, [], 0, 0, []⟩
  toClient := .create
  executed := []

omit unique in
set_option maxRecDepth 2000 in
theorem gone_for_good_dropped : runSteps (World.step discarding) .init
    (List.replicate 16 .otherClient ++ [.sendRequest "C" "f" [] [], .writeRequest 0,
      .deliverRequests 5, .handleRequest (.ok none)]) = some dropped ∧
      AllStates (World.step discarding) (fun w' =>
        ("", 0) ∈ w'.mapCallBack.entries ∧ ∃ callBack,
          w'.callBacks[0]? = some callBack ∧ callBack.request = ⟨"", "C", "f", [], []⟩ ∧
            callBack.response = none ∧ ∀ value, callBack.returned ≠ some (some value)) dropped
        [.start 0, .work (.finish 3) (.ok none), .work .await (.ok none)] := by
  have reached : runSteps (World.step discarding) .init
      (List.replicate 16 .otherClient ++ [.sendRequest "C" "f" [] [], .writeRequest 0,
        .deliverRequests 5, .handleRequest (.ok none)]) = some dropped := rfl
  have gone : Gone discarding 0 ⟨"", "C", "f", [], []⟩ dropped :=
    ⟨⟨_, rfl, rfl, rfl⟩, fun _ coming => absurd coming List.not_mem_nil,
      .inl fun still => Multiset.notMem_zero _ still⟩
  exact ⟨reached, gone_for_good discarding twoMethods_lawful twoMethods_unique _ _ reached gone⟩

/-! ### A queue that cannot be made -/

omit unique in
theorem submit_of_array (array : settings.queueType = .arrayBlockingQueue)
    (task : Option (MessageRequest ν)) (outcome : Outcome ν) (w : World ν) :
    w.submit settings task outcome =
      if task.isSome then { w with toServer := w.toServer.close } else w := by
  have fails : createBlockingQueue settings.queueType settings.parallel queueNums = none := by
    rw [array, createBlockingQueue, queueNums, if_pos (by omega)]
  simp only [World.submit, fails]

/-- Nothing was executed, so no response is on its way or with a callback. -/
structure Unserved (settings : RpcSettings ν) (w : World ν) : Prop where
  executed : w.executed = []
  pool : w.pool = none
  whole : w.toClient.Whole settings.responses.messageDecoder
  silent : w.toClient.messages settings.responses.messageDecoder = []
  open_ : ∀ callBack ∈ w.callBacks,
    callBack.response = none ∧ ∀ value, callBack.returned ≠ some (some value)

omit unique in
theorem Unserved.step (array : settings.queueType = .arrayBlockingQueue)
    (unserved : Unserved settings w) {turn : Turn ν} (taken : w.step settings turn = some w') :
    Unserved settings w' := by
  obtain ⟨executed, pool, whole, silent, open_⟩ := unserved
  cases turn with
  | sendRequest className methodName typeParameters args =>
    cases taken
    refine ⟨executed, pool, whole, silent, fun callBack member => ?_⟩
    rcases List.mem_append.mp member with old | new
    · exact open_ callBack old
    · rw [List.mem_singleton.mp new]
      exact ⟨rfl, fun value returned => by cases returned⟩
  | writeRequest index =>
    obtain ⟨_, _, taken⟩ := Option.map_eq_some_iff.mp taken
    subst taken
    exact ⟨executed, pool, whole, silent, open_⟩
  | handleRequest outcome =>
    obtain ⟨_, taken⟩ := Option.ite_none_right_eq_some.mp taken
    split at taken
    · cases taken
    · cases taken
      rw [submit_of_array array, Option.isSome_some, if_pos rfl]
      exact ⟨executed, pool, whole, silent, open_⟩
  | otherClient =>
    cases taken
    rw [submit_of_array array]
    exact ⟨executed, pool, whole, silent, open_⟩
  | work action outcome =>
    obtain ⟨_, there, _⟩ := Option.bind_eq_some_iff.mp taken
    cases pool.symm.trans there
  | deliverResponses count =>
    cases taken
    refine ⟨executed, pool, Channel.whole_deliver whole, ?_, open_⟩
    rw [Channel.messages_deliver count whole]
    exact silent
  | handleResponse =>
    change w.handleResponse = some w' at taken
    unfold World.handleResponse at taken
    split at taken
    · cases taken
    · rename_i response rest inbox
      have popped := Channel.messages_pop (d := settings.responses.messageDecoder) inbox
      cases silent.symm.trans popped
  | start number =>
    change w.start number = some w' at taken
    unfold World.start at taken
    split at taken
    · rename_i asked response found
      obtain ⟨_, taken⟩ := Option.ite_none_left_eq_some.mp taken
      cases taken
      refine ⟨executed, pool, whole, silent, fun callBack member => ?_⟩
      rcases List.mem_or_eq_of_mem_set member with old | rfl
      · exact open_ callBack old
      · have waits : response = none := (open_ _ (List.mem_of_getElem? found)).1
        subst waits
        exact ⟨rfl, fun value returned => by cases returned⟩
    · cases taken
  | closeClient =>
    cases taken
    obtain ⟨lost, left, whole'⟩ := messages_close settings.responses w.toClient
    refine ⟨executed, pool, whole', ?_, open_⟩
    have quiet := left ▸ Multiset.le_add_right _ lost
    rw [silent, Multiset.coe_nil, Multiset.le_zero, Multiset.coe_eq_zero] at quiet
    exact quiet
  | deliverRequests count | closeServer =>
    cases taken
    exact ⟨executed, pool, whole, silent, open_⟩

omit unique in
/-- With this queue no request is ever executed, and no call returns a result. -/
theorem array_serves_nothing (settings : RpcSettings ν)
    (array : settings.queueType = .arrayBlockingQueue) (turns : List (Turn ν)) :
    AllStates (World.step settings) (fun w => w.executed = [] ∧
      ∀ callBack ∈ w.callBacks, ∀ value, callBack.returned ≠ some (some value)) .init turns := by
  obtain ⟨silent, whole⟩ := Channel.messages_create (waits_nil settings.responses)
  have start : Unserved settings .init := by
    refine ⟨rfl, rfl, whole, silent, fun callBack member => ?_⟩
    cases member
  have run : AllStates (World.step settings) (Unserved settings) .init turns :=
    .of_invariant (fun _ _ _ unserved taken => unserved.step array taken) turns start
  exact run.mono fun w unserved =>
    ⟨unserved.executed, fun callBack listed => (unserved.open_ callBack listed).2⟩

/-- A server whose queue has the size of `queueNums`. -/
def bounded : RpcSettings Nat := { discarding with queueType := .arrayBlockingQueue }

omit unique in
/-- The caller waits for the ten seconds. -/
theorem array_serves_nothing_one : AllStates (World.step bounded) (fun w => w.executed = [] ∧
    ∀ callBack ∈ w.callBacks, ∀ value, callBack.returned ≠ some (some value)) .init
    [.sendRequest "C" "f" [] [], .writeRequest 0, .deliverRequests 5,
      .handleRequest (.ok (some 5)), .start 0] :=
  array_serves_nothing bounded rfl _

end GitvTime.Guarantees.Rpc.LostCalls
