import GitvTime.Guarantees.Rpc.MessageFrames
import GitvTime.Source.Rpc.Calls
import Mathlib.Algebra.Order.Group.Multiset
import Mathlib.Data.Multiset.Filter
import Mathlib.Tactic.Abel

/-!
# Where the calls are

A request waits for its write, is on its way, in the pool or executed, and a response is on
its way or with its callback. A step moves requests and responses from one place to
another, and only some steps lose any.
-/
namespace GitvTime.Guarantees.Rpc.CallAccounts
open GitvTime.Support GitvTime.Source.Rpc MessageFrames

/-! ### The pool -/

section Pool

variable {τ : Type} {settings : PoolSettings} {p p' : Pool τ} {task : τ}

theorem tasks_coe (p : Pool τ) :
    (p.tasks : Multiset τ) = ↑p.running + ↑p.queue + ↑p.putting := by
  simp only [Pool.tasks, Multiset.coe_add]

theorem eraseIdx_coe {l : List τ} {index : Nat} (found : l[index]? = some task) :
    (l : Multiset τ) = ↑(l.eraseIdx index) + {task} := by
  obtain ⟨inside, rfl⟩ := List.getElem?_eq_some_iff.mp found
  have moved := Multiset.coe_eq_coe.mpr (List.getElem_cons_eraseIdx_perm inside)
  rw [← moved, ← Multiset.cons_coe, ← Multiset.singleton_add, add_comm]

theorem append_coe (l : List τ) (task : τ) : ((l ++ [task] : List τ) : Multiset τ) = ↑l + {task} :=
  (Multiset.coe_add l [task]).symm

theorem offer_tasks (offered : p.offer settings task = some p') :
    (p'.tasks : Multiset τ) = ↑p.tasks + {task} := by
  unfold Pool.offer at offered
  split at offered
  · obtain ⟨_, same⟩ := Option.ite_none_right_eq_some.mp offered
    cases same
    simp only [tasks_coe, append_coe]
    abel
  · obtain ⟨_, same⟩ := Option.ite_none_right_eq_some.mp offered
    cases same
    simp only [tasks_coe, append_coe]
    abel

theorem put_tasks (p : Pool τ) (task : τ) :
    ((p.put settings task).tasks : Multiset τ) = ↑p.tasks + {task} := by
  unfold Pool.put
  cases offered : p.offer settings task with
  | some accepted => exact offer_tasks offered
  | none =>
    rw [Option.getD_none]
    simp only [tasks_coe, append_coe]
    abel

theorem discard_tasks (p : Pool τ) :
    (p.discard.tasks : Multiset τ) + ↑(p.queue.take (p.queue.length / 2)) = ↑p.tasks := by
  have split : ((p.queue.take (p.queue.length / 2) : List τ) : Multiset τ) +
      ↑(p.queue.drop (p.queue.length / 2)) = ↑p.queue := by
    rw [Multiset.coe_add, List.take_append_drop]
  simp only [tasks_coe, Pool.discard]
  rw [← split]
  abel

/-- What `execute` takes is in the pool, is lost with others, or comes back. -/
theorem execute_tasks (settings : PoolSettings) (p : Pool τ) (task : τ) :
    (∃ lost, ((p.execute settings task).1.tasks : Multiset τ) + lost = ↑p.tasks + {task} ∧
        (p.execute settings task).2 = .goesOn) ∨
      (p.execute settings task).1 = p ∧ (p.execute settings task).2 ≠ .goesOn := by
  unfold Pool.execute
  split
  · refine .inl ⟨0, ?_, rfl⟩
    simp only [tasks_coe, append_coe]
    abel
  · split
    case h_1 accepted offered => exact .inl ⟨0, by rw [add_zero, offer_tasks offered], rfl⟩
    case h_2 =>
      have discarded := discard_tasks p
      unfold Pool.rejectedExecution
      split
      · exact .inr ⟨rfl, by simp⟩
      · exact .inl ⟨0, by rw [add_zero, put_tasks], rfl⟩
      · exact .inr ⟨rfl, by simp⟩
      · cases offered : p.discard.offer settings task with
        | some accepted =>
          refine .inl ⟨↑(p.queue.take (p.queue.length / 2)), ?_, rfl⟩
          rw [Option.getD_some, offer_tasks offered, ← discarded]
          exact add_right_comm _ _ _
        | none =>
          refine .inl ⟨↑(p.queue.take (p.queue.length / 2)) + {task}, ?_, rfl⟩
          rw [Option.getD_none, ← discarded, add_assoc]
      · refine .inl ⟨↑(p.queue.take (p.queue.length / 2)), ?_, rfl⟩
        rw [put_tasks, ← discarded]
        exact add_right_comm _ _ _

/-- The next task meets no policy: there is a worker to start, or the queue takes it. -/
def Accepts (settings : PoolSettings) (p : Pool τ) : Prop :=
  p.workers < settings.poolSize ∨
    settings.queueType = .synchronousQueue ∧ 0 < p.waiting ∨
      settings.queueType ≠ .synchronousQueue ∧ p.queue.length < settings.capacity

/-- The next task is not dropped: it meets no policy, or one that waits or runs the task
itself, or one that buys a ticket from a queue too short to be cut. -/
def Keeps (settings : PoolSettings) (p : Pool τ) : Prop :=
  Accepts settings p ∨ settings.policy = .wait4Policy ∨ settings.policy = .callerRunsPolicy ∨
    settings.policy = .buyTicketPolicy ∧ p.queue.length < 2

theorem execute_keeps (keeps : Keeps settings p) (task : τ) :
    (p.execute settings task).2 ≠ .throws ∧ ((p.execute settings task).2 = .goesOn →
      ((p.execute settings task).1.tasks : Multiset τ) = ↑p.tasks + {task}) := by
  unfold Pool.execute
  split
  · refine ⟨by simp, fun _ => ?_⟩
    simp only [tasks_coe, append_coe]
    abel
  · rename_i busy
    split
    case h_1 accepted offered => exact ⟨by simp, fun _ => offer_tasks offered⟩
    case h_2 full =>
      unfold Pool.rejectedExecution
      rcases keeps with (free | ⟨direct, idle⟩ | ⟨queued, room⟩) | waits | runs | ⟨buys, short⟩
      · exact absurd free busy
      · rw [Pool.offer, if_pos direct, if_pos idle] at full
        cases full
      · rw [Pool.offer, if_neg queued, if_pos room] at full
        cases full
      · rw [waits]
        exact ⟨by simp, fun _ => put_tasks p task⟩
      · rw [runs]
        exact ⟨by simp, fun goesOn => by cases goesOn⟩
      · rw [buys]
        have uncut : p.discard = p := by
          have nothing : p.queue.length / 2 = 0 := by omega
          rw [Pool.discard, nothing, List.drop_zero]
        refine ⟨by simp, fun _ => ?_⟩
        rw [uncut]
        exact put_tasks p task

/-- A step of the workers loses nothing. -/
theorem work_tasks {action : Work} {done : Option τ}
    (worked : p.work settings action = some (p', done)) :
    (p'.tasks : Multiset τ) + ↑done.toList = ↑p.tasks := by
  cases action with
  | take waiting =>
    simp only [Pool.work] at worked
    split at worked
    · cases worked
    · rename_i task rest queue
      have front : ((task :: rest : List τ) : Multiset τ) = ↑rest + {task} := by
        rw [← Multiset.cons_coe, ← Multiset.singleton_add, add_comm]
      split at worked
      all_goals
        obtain ⟨_, same⟩ := Option.ite_none_right_eq_some.mp worked
        cases same
        simp only [tasks_coe, append_coe, queue, front, Option.toList_none, Multiset.coe_nil]
        abel
  | handOff index =>
    obtain ⟨_, worked⟩ := Option.ite_none_right_eq_some.mp worked
    obtain ⟨task, found, same⟩ := Option.map_eq_some_iff.mp worked
    cases same
    simp only [tasks_coe, append_coe, eraseIdx_coe found, Option.toList_none, Multiset.coe_nil]
    abel
  | await =>
    obtain ⟨_, same⟩ := Option.ite_none_right_eq_some.mp worked
    cases same
    simp [tasks_coe]
  | finish index =>
    obtain ⟨task, found, same⟩ := Option.map_eq_some_iff.mp worked
    cases same
    simp only [tasks_coe, eraseIdx_coe found, Option.toList_some, Multiset.coe_singleton]
    abel
  | enqueue index =>
    obtain ⟨_, worked⟩ := Option.ite_none_right_eq_some.mp worked
    obtain ⟨task, found, same⟩ := Option.map_eq_some_iff.mp worked
    cases same
    simp only [tasks_coe, append_coe, eraseIdx_coe found, Option.toList_none, Multiset.coe_nil]
    abel

end Pool

/-! ### Both sides -/

variable {ν : Type}

/-- The requests of this client in the pool. -/
def inPool : Option (Pool (Option (MessageRequest ν))) → Multiset (MessageRequest ν)
  | none => 0
  | some pool => (pool.tasks : Multiset _).filterMap id

/-- The requests that were not executed yet. -/
def pending (settings : RpcSettings ν) (w : World ν) : Multiset (MessageRequest ν) :=
  ↑w.unwritten + ↑(w.toServer.messages settings.requests.messageDecoder) + inPool w.pool

def requests (settings : RpcSettings ν) (w : World ν) : Multiset (MessageRequest ν) :=
  pending settings w + ↑(w.executed.map Prod.fst)

/-- The responses on their way and those with their callbacks. -/
def replies (settings : RpcSettings ν) (w : World ν) : Multiset (MessageResponse ν) :=
  ↑(w.toClient.messages settings.responses.messageDecoder) +
    ↑(w.callBacks.filterMap MessageCallBack.response)

/-- The response of an execution. -/
def respond (execution : MessageRequest ν × Outcome ν) : MessageResponse ν :=
  execution.1.call execution.2

/-- The serializers of both sides read what they wrote. -/
def Lawful (settings : RpcSettings ν) : Prop :=
  RoundTrip settings.requests ∧ RoundTrip settings.responses

/-- The streams end in whole frames. -/
def Whole (settings : RpcSettings ν) (w : World ν) : Prop :=
  w.toServer.Whole settings.requests.messageDecoder ∧
    w.toClient.Whole settings.responses.messageDecoder

def Open (w : World ν) : Prop := w.toServer.kept.isSome = true ∧ w.toClient.kept.isSome = true

/-- The responses of what was executed in between can be serialized. -/
def Answered (settings : RpcSettings ν) (w w' : World ν) : Prop :=
  ∀ fresh, w'.executed = w.executed ++ fresh →
    ∀ execution ∈ fresh, (settings.responses.serialize (respond execution)).isSome = true

/-- A step of the server with some requests in hand: where it loses none it is calm. -/
structure Moves (settings : RpcSettings ν) (calm : Prop) (hand : Multiset (MessageRequest ν))
    (w w' : World ν) : Prop where
  callBacks : w'.callBacks = w.callBacks
  mapCallBack : w'.mapCallBack = w.mapCallBack
  whole : Whole settings w'
  closed : w.toClient.kept = none →
    w'.toClient.kept = none ∧ w'.toClient.inbox = w.toClient.inbox
  requests : ∃ lost, requests settings w' + lost = requests settings w + hand ∧
    (calm → lost = 0)
  replies : ∃ lost fresh, w'.executed = w.executed ++ fresh ∧
    replies settings w' + lost = replies settings w + ↑(fresh.map respond) ∧ (calm → lost = 0)

section Channel

variable {μ : Type} {util : MessageCodecUtil μ} {c : Channel UInt8 μ}

/-- A message is written, if it can be. -/
theorem messages_written (message : μ) (roundTrip : RoundTrip util)
    (whole : c.Whole util.messageDecoder) :
    (writeAndFlush util message c).Whole util.messageDecoder ∧
      (((writeAndFlush util message c).messages util.messageDecoder : Multiset μ) =
          ↑(c.messages util.messageDecoder) + {message} ∨
        (writeAndFlush util message c).messages util.messageDecoder =
            c.messages util.messageDecoder ∧
          (c.kept = none ∨ util.serialize message = none)) := by
  unfold writeAndFlush
  cases serialized : util.serialize message with
  | none =>
    rw [MessageCodecUtil.encode, serialized]
    exact ⟨whole, .inr ⟨rfl, .inr rfl⟩⟩
  | some body =>
    have known : (util.serialize message).isSome = true := by rw [serialized, Option.isSome_some]
    obtain ⟨body', encoded, readable, back⟩ := encode_cases known roundTrip
    have reads : util.messageDecoder.decode (frame body') = .reads (some message) [] := by
      have read := read_frame readable []
      rw [List.append_nil, back] at read
      exact read
    obtain ⟨grown, whole'⟩ := Channel.messages_write reads whole (waits_nil util)
    rw [encoded]
    refine ⟨whole', ?_⟩
    dsimp only
    rw [grown]
    by_cases closed : c.kept = none
    · rw [if_pos closed]
      exact .inr ⟨rfl, .inl closed⟩
    · rw [if_neg closed]
      exact .inl (append_coe _ _)

theorem kept_writeAndFlush (message : μ) : (writeAndFlush util message c).kept = c.kept := by
  unfold writeAndFlush
  split <;> rfl

theorem inbox_writeAndFlush (message : μ) : (writeAndFlush util message c).inbox = c.inbox := by
  unfold writeAndFlush
  split <;> rfl

theorem messages_close (util : MessageCodecUtil μ) (c : Channel UInt8 μ) :
    ∃ lost, (c.close.messages util.messageDecoder : Multiset μ) + lost =
      ↑(c.messages util.messageDecoder) ∧ c.close.Whole util.messageDecoder := by
  refine ⟨↑(util.messageDecoder.feed c.kept c.inFlight).1, ?_, .inl rfl⟩
  simp [Channel.messages, Channel.close, StreamDecoder.feed]

end Channel

variable {settings : RpcSettings ν} {w : World ν}

theorem inPool_getD (pool : Option (Pool (Option (MessageRequest ν)))) :
    inPool (some (pool.getD .create)) = inPool pool := by
  cases pool <;> rfl

theorem Moves.refl (whole : Whole settings w) (calm : Prop) : Moves settings calm 0 w w := by
  refine ⟨rfl, rfl, whole, fun closed => ⟨closed, rfl⟩, ⟨0, rfl, fun _ => rfl⟩, 0, [],
    (List.append_nil _).symm, ?_,
    fun _ => rfl⟩
  simp

theorem run_moves (lawful : Lawful settings) (whole : Whole settings w)
    (task : Option (MessageRequest ν)) (outcome : Outcome ν) :
    Moves settings (Open w ∧ Answered settings w (w.run settings task outcome)) ↑task.toList w
      (w.run settings task outcome) := by
  cases task with
  | none => exact .refl whole _
  | some request =>
    simp only [World.run]
    have counted : ∀ toClient, requests settings { w with
        executed := w.executed ++ [(request, outcome)], toClient := toClient } =
          requests settings w + {request} := by
      intro toClient
      simp only [requests, pending, List.map_append, List.map_singleton, append_coe]
      abel
    by_cases listens : w.toServer.kept.isSome = true
    · rw [if_pos listens]
      obtain ⟨whole', grown⟩ := messages_written (request.call outcome) lawful.2 whole.2
      refine ⟨rfl, rfl, ⟨whole.1, whole'⟩, fun closed => ?_, ⟨0, ?_, fun _ => rfl⟩, ?_⟩
      · rw [kept_writeAndFlush, inbox_writeAndFlush]
        exact ⟨closed, rfl⟩
      · rw [add_zero, counted]
        rfl
      · rcases grown with grown | ⟨still, why⟩
        · refine ⟨0, [(request, outcome)], rfl, ?_, fun _ => rfl⟩
          simp only [replies, grown, add_zero, List.map_singleton, Multiset.coe_singleton, respond]
          abel
        · refine ⟨{request.call outcome}, [(request, outcome)], rfl, ?_, fun calm => ?_⟩
          · simp only [replies, still, List.map_singleton, Multiset.coe_singleton, respond]
          · rcases why with closed | unknown
            · have listening := calm.1.2
              rw [closed] at listening
              cases listening
            · have known := calm.2 [(request, outcome)] rfl _ List.mem_cons_self
              rw [respond, unknown] at known
              cases known
    · rw [if_neg listens]
      refine ⟨rfl, rfl, whole, fun closed => ⟨closed, rfl⟩, ⟨0, ?_, fun _ => rfl⟩,
        {request.call outcome}, [(request, outcome)], rfl, rfl, fun calm => ?_⟩
      · rw [add_zero, counted]
        rfl
      · exact absurd calm.1.1 listens

/-- The pool takes a task; the requests of other clients do not count. -/
theorem pool_moves (whole : Whole settings w) (task : Option (MessageRequest ν))
    {pool : Pool (Option (MessageRequest ν))} {lost : Multiset (Option (MessageRequest ν))}
    {calm : Prop} (taken : (pool.tasks : Multiset (Option (MessageRequest ν))) + lost =
      ↑(w.pool.getD .create).tasks + {task}) (none_lost : calm → lost = 0) :
    Moves settings calm ↑task.toList w { w with pool := some pool } := by
  have counted : inPool (some pool) + lost.filterMap id = inPool w.pool + ↑task.toList := by
    have own := congrArg (Multiset.filterMap id) taken
    rw [Multiset.filterMap_add, Multiset.filterMap_add] at own
    rw [← inPool_getD w.pool]
    refine own.trans (congrArg (inPool (some (w.pool.getD .create)) + ·) ?_)
    cases task <;> rfl
  refine ⟨rfl, rfl, whole, fun closed => ⟨closed, rfl⟩, ⟨lost.filterMap id, ?_, fun calm => ?_⟩,
    ⟨0, [], (List.append_nil _).symm, by simp [replies], fun _ => rfl⟩⟩
  · simp only [requests, pending]
    calc _ = ↑w.unwritten + ↑(w.toServer.messages settings.requests.messageDecoder) +
        (inPool (some pool) + lost.filterMap id) + ↑(w.executed.map Prod.fst) := by abel
      _ = _ := by
        rw [counted]
        abel
  · rw [none_lost calm]
    rfl

/-- What is thrown closes the channel of the request. -/
theorem closes_moves (whole : Whole settings w) (task : Option (MessageRequest ν)) :
    Moves settings False ↑task.toList w
      (if task.isSome then { w with toServer := w.toServer.close } else w) := by
  cases task with
  | none => exact .refl whole _
  | some request =>
    obtain ⟨lost, left, whole'⟩ := messages_close settings.requests w.toServer
    refine ⟨rfl, rfl, ⟨whole', whole.2⟩, fun closed => ⟨closed, rfl⟩,
      ⟨lost + {request}, ?_, False.elim⟩,
      ⟨0, [], (List.append_nil _).symm, by simp [replies], fun _ => rfl⟩⟩
    simp only [requests, pending, ← left, Option.isSome_some, if_true, Option.toList_some,
      Multiset.coe_singleton]
    abel

theorem Moves.calmer {calm calmer : Prop} {hand : Multiset (MessageRequest ν)} {w' : World ν}
    (moves : Moves settings calm hand w w') (more : calmer → calm) :
    Moves settings calmer hand w w' := by
  obtain ⟨lost, requests, none_lost⟩ := moves.requests
  obtain ⟨lost', fresh, executed, replies, none_lost'⟩ := moves.replies
  exact ⟨moves.callBacks, moves.mapCallBack, moves.whole, moves.closed,
    ⟨lost, requests, fun calm => none_lost (more calm)⟩,
    lost', fresh, executed, replies, fun calm => none_lost' (more calm)⟩

/-- To create the pool moves nothing. -/
theorem Moves.of_created {calm : Prop} {hand : Multiset (MessageRequest ν)} {w' : World ν}
    (moves : Moves settings calm hand { w with pool := some (w.pool.getD .create) } w') :
    Moves settings calm hand w w' := by
  obtain ⟨lost, accounted, none_lost⟩ := moves.requests
  refine ⟨moves.callBacks, moves.mapCallBack, moves.whole, moves.closed,
    ⟨lost, accounted.trans ?_, none_lost⟩,
    moves.replies⟩
  simp only [CallAccounts.requests, pending, inPool_getD]

/-- The server takes the next request: its pool is there or can be created, and does not
drop the task. -/
def Takes (settings : RpcSettings ν) (w : World ν) : Prop :=
  ∃ capacity,
    createBlockingQueue settings.queueType settings.parallel queueNums = some capacity ∧
      Keeps ⟨threadNums, settings.queueType, capacity, settings.policy⟩ (w.pool.getD .create)

theorem submit_moves (lawful : Lawful settings) (whole : Whole settings w)
    (task : Option (MessageRequest ν)) (outcome : Outcome ν) :
    Moves settings (Open w ∧ Takes settings w ∧
        Answered settings w (w.submit settings task outcome))
      ↑task.toList w (w.submit settings task outcome) := by
  unfold World.submit
  dsimp only
  split
  case h_1 fails =>
    refine (closes_moves whole task).calmer fun calm => ?_
    obtain ⟨capacity, made, _⟩ := calm.2.1
    cases fails.symm.trans made
  case h_2 capacity made =>
    have keeps : Takes settings w →
        Keeps ⟨threadNums, settings.queueType, capacity, settings.policy⟩
          (w.pool.getD .create) := by
      rintro ⟨capacity', made', keeps⟩
      cases made.symm.trans made'
      exact keeps
    have executed := execute_tasks ⟨threadNums, settings.queueType, capacity, settings.policy⟩
      (w.pool.getD .create) task
    have kept := fun takes => execute_keeps (keeps takes) task
    have created : Whole settings { w with pool := some (w.pool.getD .create) } := whole
    split
    case h_1 pool result =>
      rw [result] at executed kept
      obtain ⟨lost, taken, _⟩ := executed.resolve_right fun stops => stops.2 rfl
      refine pool_moves whole task taken fun calm => ?_
      have all := (kept calm.2.1).2 rfl
      rw [← all] at taken
      exact add_eq_left.mp taken
    case h_2 pool result =>
      rw [result] at executed kept
      obtain ⟨same, _⟩ := executed.resolve_left fun taken => by
        obtain ⟨_, _, goesOn⟩ := taken
        cases goesOn
      subst same
      refine Moves.of_created ((closes_moves created task).calmer fun calm => ?_)
      exact (kept calm.2.1).1 rfl
    case h_3 pool result =>
      rw [result] at executed
      obtain ⟨same, _⟩ := executed.resolve_left fun taken => by
        obtain ⟨_, _, goesOn⟩ := taken
        cases goesOn
      subst same
      exact Moves.of_created ((run_moves lawful created task outcome).calmer fun calm =>
        ⟨calm.1, calm.2.2⟩)

/-- The task of another client is no execution of this one. -/
theorem submit_other (outcome : Outcome ν) :
    (w.submit settings none outcome).executed = w.executed := by
  unfold World.submit
  dsimp only
  split
  · rfl
  · split <;> rfl

/-! ### The turns of the server -/

theorem handleRequest_moves (lawful : Lawful settings) (whole : Whole settings w)
    {outcome : Outcome ν} {w' : World ν} (taken : w.handleRequest settings outcome = some w') :
    Moves settings (Open w ∧ Takes settings w ∧ Answered settings w w') 0 w w' := by
  obtain ⟨_, taken⟩ := Option.ite_none_right_eq_some.mp taken
  split at taken
  · cases taken
  · rename_i request rest inbox
    cases taken
    have popped := Channel.messages_pop (d := settings.requests.messageDecoder) inbox
    have asked : pending settings w = pending settings
        { w with toServer := { w.toServer with inbox := rest } } + {request} := by
      simp only [pending, popped, ← Multiset.cons_coe, ← Multiset.singleton_add]
      abel
    have moves := submit_moves lawful
      (w := { w with toServer := { w.toServer with inbox := rest } }) whole (some request) outcome
    obtain ⟨lost, accounted, none_lost⟩ := moves.requests
    refine ⟨moves.callBacks, moves.mapCallBack, moves.whole, moves.closed,
      ⟨lost, accounted.trans ?_, none_lost⟩, moves.replies⟩
    simp only [requests, asked, Option.toList_some, Multiset.coe_singleton]
    abel

theorem work_moves (lawful : Lawful settings) (whole : Whole settings w) {action : Work}
    {outcome : Outcome ν} {w' : World ν} (taken : w.work settings action outcome = some w') :
    Moves settings (Open w ∧ Answered settings w w') 0 w w' := by
  obtain ⟨pool, there, taken⟩ := Option.bind_eq_some_iff.mp taken
  obtain ⟨capacity, made, taken⟩ := Option.bind_eq_some_iff.mp taken
  obtain ⟨⟨pool', finished⟩, worked, taken⟩ := Option.bind_eq_some_iff.mp taken
  cases taken
  have kept := work_tasks worked
  have counted : inPool (some pool') + ↑finished.join.toList = inPool w.pool := by
    have own := congrArg (Multiset.filterMap id) kept
    rw [Multiset.filterMap_add] at own
    rw [there]
    refine Eq.trans ?_ own
    refine congrArg (inPool (some pool') + ·) ?_
    cases finished with
    | none => rfl
    | some task => cases task <;> rfl
  have asked : pending settings w =
      pending settings { w with pool := some pool' } + ↑finished.join.toList := by
    simp only [pending, ← counted]
    abel
  have moves := run_moves lawful (w := { w with pool := some pool' }) whole finished.join outcome
  obtain ⟨lost, accounted, none_lost⟩ := moves.requests
  refine ⟨moves.callBacks, moves.mapCallBack, moves.whole, moves.closed,
    ⟨lost, accounted.trans ?_, none_lost⟩, moves.replies⟩
  simp only [requests, asked]
  abel

theorem writeRequest_moves (lawful : Lawful settings) (whole : Whole settings w) {index : Nat}
    {w' : World ν} (taken : w.writeRequest settings index = some w') :
    Moves settings (Open w ∧ ∀ request ∈ w.unwritten,
      (settings.requests.serialize request).isSome = true) 0 w w' := by
  obtain ⟨request, found, taken⟩ := Option.map_eq_some_iff.mp taken
  subst taken
  have erased := eraseIdx_coe found
  by_cases listens : w.toClient.kept.isSome = true
  · rw [if_pos listens]
    obtain ⟨whole', grown⟩ := messages_written request lawful.1 whole.1
    rcases grown with grown | ⟨still, why⟩
    · refine ⟨rfl, rfl, ⟨whole', whole.2⟩, fun closed => ⟨closed, rfl⟩, ⟨0, ?_, fun _ => rfl⟩,
        ⟨0, [], (List.append_nil _).symm, by simp [replies], fun _ => rfl⟩⟩
      simp only [requests, pending, grown, erased]
      abel
    · refine ⟨rfl, rfl, ⟨whole', whole.2⟩, fun closed => ⟨closed, rfl⟩,
        ⟨{request}, ?_, fun calm => ?_⟩,
        ⟨0, [], (List.append_nil _).symm, by simp [replies], fun _ => rfl⟩⟩
      · simp only [requests, pending, still, erased]
        abel
      · rcases why with closed | unknown
        · have listening := calm.1.1
          rw [closed] at listening
          cases listening
        · have known := calm.2 request (List.mem_of_getElem? found)
          rw [unknown] at known
          cases known
  · rw [if_neg listens]
    refine ⟨rfl, rfl, whole, fun closed => ⟨closed, rfl⟩,
      ⟨{request}, ?_, fun calm => absurd calm.1.2 listens⟩,
      ⟨0, [], (List.append_nil _).symm, by simp [replies], fun _ => rfl⟩⟩
    simp only [requests, pending, erased]
    abel

theorem deliverRequests_moves (whole : Whole settings w) (count : Nat) (calm : Prop) :
    Moves settings calm 0 w
      { w with toServer := w.toServer.deliver settings.requests.messageDecoder count } := by
  refine ⟨rfl, rfl, ⟨Channel.whole_deliver whole.1, whole.2⟩, fun closed => ⟨closed, rfl⟩,
    ⟨0, ?_, fun _ => rfl⟩,
    ⟨0, [], (List.append_nil _).symm, by simp [replies], fun _ => rfl⟩⟩
  simp only [requests, pending, Channel.messages_deliver count whole.1]

theorem deliverResponses_moves (whole : Whole settings w) (count : Nat) (calm : Prop) :
    Moves settings calm 0 w
      { w with toClient := w.toClient.deliver settings.responses.messageDecoder count } := by
  refine ⟨rfl, rfl, ⟨whole.1, Channel.whole_deliver whole.2⟩, fun closed => ?_,
    ⟨0, rfl, fun _ => rfl⟩,
    ⟨0, [], (List.append_nil _).symm, ?_, fun _ => rfl⟩⟩
  · simp [Channel.deliver, closed, StreamDecoder.feed]
  · simp [replies, Channel.messages_deliver count whole.2]

theorem closeServer_moves (whole : Whole settings w) :
    Moves settings False 0 w { w with toServer := w.toServer.close } := by
  obtain ⟨lost, left, whole'⟩ := messages_close settings.requests w.toServer
  refine ⟨rfl, rfl, ⟨whole', whole.2⟩, fun closed => ⟨closed, rfl⟩, ⟨lost, ?_, False.elim⟩,
    ⟨0, [], (List.append_nil _).symm, by simp [replies], fun _ => rfl⟩⟩
  simp only [requests, pending, ← left]
  abel

theorem closeClient_moves (whole : Whole settings w) :
    Moves settings False 0 w { w with toClient := w.toClient.close } := by
  obtain ⟨lost, left, whole'⟩ := messages_close settings.responses w.toClient
  refine ⟨rfl, rfl, ⟨whole.1, whole'⟩, fun _ => ⟨rfl, rfl⟩, ⟨0, rfl, fun _ => rfl⟩, ⟨lost, [],
    (List.append_nil _).symm, ?_, False.elim⟩⟩
  simp only [replies, ← left, List.map_nil, Multiset.coe_nil]
  abel

end GitvTime.Guarantees.Rpc.CallAccounts
