import Mathlib.Algebra.Order.Group.Multiset

/-!
# A bounded first-in first-out queue

The bound is a field, so a queue over its capacity does not exist.
-/
namespace GitvTime.Support

structure BoundedQueue (α : Type) (capacity : Nat) where
  items : List α
  bounded : items.length ≤ capacity

namespace BoundedQueue

variable {α : Type} {capacity : Nat}

def empty : BoundedQueue α capacity := ⟨[], Nat.zero_le _⟩

/-- Append an item, `none` when the queue is full. -/
def offer (queue : BoundedQueue α capacity) (item : α) : Option (BoundedQueue α capacity) :=
  if room : queue.items.length < capacity then
    some ⟨queue.items ++ [item], by
      rw [List.length_append]
      exact room⟩
  else none

/-- Take the first item, `none` when there is none. -/
def poll (queue : BoundedQueue α capacity) : Option (α × BoundedQueue α capacity) :=
  match queue with
  | ⟨[], _⟩ => none
  | ⟨item :: rest, bounded⟩ => some (item, ⟨rest, Nat.le_of_succ_le bounded⟩)

/-- The items, whatever their order. -/
def contents (queue : BoundedQueue α capacity) : Multiset α := Multiset.ofList queue.items

theorem contents_offer {queue queue' : BoundedQueue α capacity} {item : α}
    (offered : queue.offer item = some queue') :
    queue'.contents = queue.contents + {item} := by
  unfold offer at offered
  split at offered
  · cases offered
    rfl
  · cases offered

theorem contents_poll {queue queue' : BoundedQueue α capacity} {item : α}
    (polled : queue.poll = some (item, queue')) :
    queue.contents = {item} + queue'.contents := by
  obtain ⟨items, bounded⟩ := queue
  cases items with
  | nil => cases polled
  | cons first rest =>
    cases polled
    rfl

end BoundedQueue

end GitvTime.Support
