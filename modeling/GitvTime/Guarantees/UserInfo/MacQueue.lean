import GitvTime.Source.UserInfo.MacQueue
import Mathlib.Tactic.Abel

/-!
# The mac queue loses and invents nothing

At every moment what was taken from RabbitMQ is with the consumer, in the queue or
in the hand of a timer thread, and what was published is still in RabbitMQ or was
taken. Each step moves one mac from one of these places to the next.
-/
namespace GitvTime.Guarantees.UserInfo.MacQueue
open GitvTime.Support GitvTime.Source.UserInfo.MacQueue

/-- At most one mac. -/
def held (thread : Thread) : Multiset String := Multiset.ofList thread.inHand.toList

/-- The macs in the hands of the two timer threads, at most one each. -/
def inHands (s : State) : Multiset String := held s.timeThread + held s.numThread

structure Conserved (s : State) : Prop where
  taken : Multiset.ofList s.taken =
    Multiset.ofList s.handed + Multiset.ofList s.syncQueue.items + inHands s
  published : Multiset.ofList s.published = Multiset.ofList s.rabbit + Multiset.ofList s.taken
  bounded : s.syncQueue.items.length ≤ CAPACITY

theorem conserved_start (messages : List String) : Conserved (.start messages) where
  taken := rfl
  published := (add_zero _).symm
  bounded := Nat.zero_le _

@[simp] theorem held_idle : held .idle = 0 := rfl

@[simp] theorem held_loop (i num : Int) : held (.loop i num) = 0 := rfl

@[simp] theorem held_offering (mac : String) (i num : Int) : held (.offering mac i num) = {mac} :=
  rfl

@[simp] theorem held_putting (mac : String) : held (.putting mac) = {mac} := rfl

/-- Replacing one thread changes the hands by what the two threads hold. -/
theorem inHands_setThread (s : State) (task : Task) (thread : Thread) :
    inHands (s.setThread thread task) + held (s.thread task) = inHands s + held thread := by
  cases task with
  | timeCondition =>
    simp only [inHands, State.setThread, State.thread]
    abel
  | numCondition =>
    simp only [inHands, State.setThread, State.thread]
    abel

@[simp] theorem setThread_rabbit (s : State) (task : Task) (thread : Thread) :
    (s.setThread thread task).rabbit = s.rabbit := by cases task <;> rfl

@[simp] theorem setThread_syncQueue (s : State) (task : Task) (thread : Thread) :
    (s.setThread thread task).syncQueue = s.syncQueue := by cases task <;> rfl

@[simp] theorem setThread_published (s : State) (task : Task) (thread : Thread) :
    (s.setThread thread task).published = s.published := by cases task <;> rfl

@[simp] theorem setThread_taken (s : State) (task : Task) (thread : Thread) :
    (s.setThread thread task).taken = s.taken := by cases task <;> rfl

@[simp] theorem setThread_handed (s : State) (task : Task) (thread : Thread) :
    (s.setThread thread task).handed = s.handed := by cases task <;> rfl

/-- A thread goes on with the same hand. -/
theorem Conserved.moves {s : State} (conserved : Conserved s) {task : Task} {thread : Thread}
    (same_hand : held thread = held (s.thread task)) : Conserved (s.setThread thread task) where
  taken := by
    have hands := inHands_setThread s task thread
    rw [same_hand] at hands
    simp only [setThread_taken, setThread_handed, setThread_syncQueue, add_right_cancel hands]
    exact conserved.taken
  published := by
    simp only [setThread_published, setThread_rabbit, setThread_taken]
    exact conserved.published
  bounded := (s.setThread thread task).syncQueue.bounded

/-- An empty hand takes the first message of RabbitMQ. -/
theorem Conserved.takes {s : State} (conserved : Conserved s) {task : Task} {content : String}
    {rest : List String} {thread : Thread} (first : s.rabbit = content :: rest)
    (empty_hand : held (s.thread task) = 0) (full_hand : held thread = {content}) :
    Conserved ({ s with rabbit := rest, taken := s.taken ++ [content] }.setThread thread task) := by
  obtain ⟨rabbit, syncQueue, timeThread, numThread, consuming, published, taken, handed⟩ := s
  cases first
  have hands := inHands_setThread
    ⟨rest, syncQueue, timeThread, numThread, consuming, published, taken ++ [content], handed⟩
    task thread
  have hand_before : held (State.thread ⟨rest, syncQueue, timeThread, numThread, consuming,
      published, taken ++ [content], handed⟩ task) = 0 := by
    cases task <;> exact empty_hand
  rw [hand_before, add_zero, full_hand] at hands
  refine ⟨?_, ?_, BoundedQueue.bounded _⟩
  · simp only [setThread_taken, setThread_handed, setThread_syncQueue, hands]
    rw [← Multiset.coe_add, conserved.taken, Multiset.coe_singleton]
    simp only [inHands]
    abel
  · have counted := conserved.published
    simp only [setThread_published, setThread_rabbit, setThread_taken] at counted ⊢
    rw [counted, ← Multiset.coe_add, ← Multiset.cons_coe, ← Multiset.singleton_add,
      Multiset.coe_singleton]
    abel

/-- A hand puts its mac into the queue. -/
theorem Conserved.puts {s : State} (conserved : Conserved s) {task : Task} {content : String}
    {syncQueue : BoundedQueue String CAPACITY} {thread : Thread}
    (offered : s.syncQueue.offer content = some syncQueue)
    (full_hand : held (s.thread task) = {content}) (empty_hand : held thread = 0) :
    Conserved ({ s with syncQueue := syncQueue }.setThread thread task) := by
  have queued := BoundedQueue.contents_offer offered
  have hands := inHands_setThread { s with syncQueue := syncQueue } task thread
  have hand_before : held (State.thread { s with syncQueue := syncQueue } task) = {content} := by
    cases task <;> exact full_hand
  rw [hand_before, empty_hand, add_zero] at hands
  refine ⟨?_, ?_, BoundedQueue.bounded _⟩
  · simp only [setThread_taken, setThread_handed, setThread_syncQueue]
    exact calc Multiset.ofList s.taken
        = Multiset.ofList s.handed + s.syncQueue.contents + inHands s := conserved.taken
      _ = Multiset.ofList s.handed + (s.syncQueue.contents + {content})
            + inHands (State.setThread { s with syncQueue := syncQueue } thread task) := by
          rw [show inHands s = inHands { s with syncQueue := syncQueue } from rfl, ← hands]
          abel
      _ = Multiset.ofList s.handed + syncQueue.contents
            + inHands (State.setThread { s with syncQueue := syncQueue } thread task) := by
          rw [queued]
  · simp only [setThread_published, setThread_rabbit, setThread_taken]
    exact conserved.published

/-- The consumer gets the first mac of the queue. -/
theorem Conserved.polls {s : State} (conserved : Conserved s) {mac : String}
    {syncQueue : BoundedQueue String CAPACITY} (polled : s.syncQueue.poll = some (mac, syncQueue))
    (consuming : Option String) :
    Conserved { s with
      syncQueue := syncQueue, consuming := consuming, handed := s.handed ++ [mac] } where
  taken := by
    exact calc Multiset.ofList s.taken
        = Multiset.ofList s.handed + s.syncQueue.contents + inHands s := conserved.taken
      _ = Multiset.ofList (s.handed ++ [mac]) + syncQueue.contents + inHands s := by
          rw [BoundedQueue.contents_poll polled, ← Multiset.coe_add, Multiset.coe_singleton,
            add_assoc (Multiset.ofList s.handed) {mac}]
  published := conserved.published
  bounded := syncQueue.bounded

theorem Conserved.published_one {s : State} (conserved : Conserved s) (mac : String) :
    Conserved { s with rabbit := s.rabbit ++ [mac], published := s.published ++ [mac] } where
  taken := conserved.taken
  published := by
    simp only
    rw [← Multiset.coe_add, ← Multiset.coe_add, conserved.published]
    abel
  bounded := conserved.bounded

/-- Each step moves at most one mac from one place to the next. -/
theorem Conserved.step {s next : State} {action : Action} (conserved : Conserved s)
    (taken : s.step action = some next) : Conserved next := by
  cases action with
  | publish mac =>
    cases Option.some.inj taken
    exact conserved.published_one mac
  | messageCount task num =>
    simp only [State.step] at taken
    split at taken
    · rename_i located
      cases Option.some.inj taken
      refine conserved.moves ?_
      rw [located]
      split <;> rfl
    · cases taken
  | basicGet task =>
    simp only [State.step] at taken
    split at taken
    · rename_i i num located
      split at taken
      · split at taken
        · cases Option.some.inj taken
          exact conserved.moves (by rw [located]; rfl)
        · rename_i content rest first
          cases Option.some.inj taken
          exact conserved.takes first (by rw [located]; rfl) rfl
      · cases Option.some.inj taken
        exact conserved.moves (by rw [located]; rfl)
    · cases taken
  | basicGetThrows task =>
    simp only [State.step] at taken
    split at taken
    · rename_i located
      cases Option.some.inj taken
      exact conserved.moves (by rw [located]; rfl)
    · cases taken
  | offer task =>
    simp only [State.step] at taken
    split at taken
    · rename_i content i num located
      split at taken
      · rename_i offered
        cases Option.some.inj taken
        exact conserved.puts offered (by rw [located]; rfl) rfl
      · cases Option.some.inj taken
        exact conserved.moves (by rw [located]; rfl)
    · cases taken
  | put task =>
    simp only [State.step] at taken
    split at taken
    · rename_i content located
      obtain ⟨syncQueue, offered, rfl⟩ := Option.map_eq_some_iff.mp taken
      exact conserved.puts offered (by rw [located]; rfl) rfl
    · cases taken
  | poll =>
    simp only [State.step] at taken
    split at taken
    · cases taken
    · split at taken
      · rename_i polled
        cases Option.some.inj taken
        exact conserved.polls polled _
      · cases Option.some.inj taken
        exact conserved
  | consumed =>
    obtain ⟨_, _, rfl⟩ := Option.map_eq_some_iff.mp taken
    exact ⟨conserved.taken, conserved.published, conserved.bounded⟩

/-- Over every run of the timers and the consumer, whatever arrives meanwhile. -/
theorem mac_queue_conserves (messages : List String) (actions : List Action) :
    AllStates State.step Conserved (.start messages) actions :=
  .of_invariant (fun _ _ _ conserved taken => conserved.step taken) actions
    (conserved_start messages)

end GitvTime.Guarantees.UserInfo.MacQueue
