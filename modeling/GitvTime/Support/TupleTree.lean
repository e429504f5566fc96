import GitvTime.Support.Runs

/-!
# Tuple trees

A spout emits a root; a tuple emitted with an anchor belongs to the tree of its
anchor, one emitted without belongs to none. A root is complete when all tuples of
its tree are acked, and it has failed when one of them is failed first, or when it
times out. Once it is complete or failed, nothing changes that.
-/
namespace GitvTime.Support

inductive RootStatus where
  | pending
  | complete
  | failed
deriving DecidableEq

/-- A tuple that is neither acked nor failed, with the root of its tree. -/
structure Tracked (τ : Type) where
  root : Option Nat
  content : τ

/-- What a task does with its input. -/
inductive Verdict (τ : Type) where
  | ack
  | fail
  /-- it keeps the input for a callback -/
  | hold (content : τ)

/-- What stays of the input when it is held. -/
def Verdict.kept {τ : Type} (root : Option Nat) : Verdict τ → List (Tracked τ)
  | .hold content => [⟨root, content⟩]
  | _ => []

/-- A tuple that a task emits. -/
structure Emission (τ : Type) where
  anchored : Bool
  content : τ

/-- The roots by number, and all live tuples. -/
structure Forest (τ : Type) where
  status : List RootStatus
  live : List (Tracked τ)

namespace Forest
variable {τ : Type}

/-- The spout emits a tuple under a new root. -/
def spoutEmit (forest : Forest τ) (content : τ) : Forest τ :=
  ⟨forest.status ++ [.pending], forest.live ++ [⟨some forest.status.length, content⟩]⟩

/-- A pending root gets this status. -/
def settle (status : List RootStatus) (root : Nat) (outcome : RootStatus) : List RootStatus :=
  if status[root]? = some .pending then status.set root outcome else status

def timeout (forest : Forest τ) (root : Nat) : Forest τ :=
  { forest with status := settle forest.status root .failed }

/-- A live tuple belongs to the tree of this root. -/
def Grows (live : List (Tracked τ)) (root : Nat) : Prop := ∃ t ∈ live, t.root = some root

instance (live : List (Tracked τ)) (root : Nat) : Decidable (Grows live root) := by
  unfold Grows
  infer_instance

/-- The tuples that a task emits on its input. -/
def children (root : Option Nat) (emissions : List (Emission τ)) : List (Tracked τ) :=
  emissions.map fun emission => ⟨if emission.anchored then root else none, emission.content⟩

/-- The status of the roots when a tuple of this root is acked and `live` remain. -/
def acked (status : List RootStatus) (live : List (Tracked τ)) : Option Nat → List RootStatus
  | some root => if Grows live root then status else settle status root .complete
  | none => status

def failed (status : List RootStatus) : Option Nat → List RootStatus
  | some root => settle status root .failed
  | none => status

/-- A task handles the tuple at this index: it emits, then acks, fails or holds. -/
def handle (forest : Forest τ) (index : Nat) (emissions : List (Emission τ))
    (verdict : Verdict τ) : Option (Forest τ) :=
  match forest.live[index]? with
  | none => none
  | some input =>
    let emitted := children input.root emissions
    let live := forest.live.eraseIdx index ++ emitted
    match verdict with
    | .ack => some ⟨acked forest.status live input.root, live⟩
    | .fail => some ⟨failed forest.status input.root, live⟩
    | .hold content => some ⟨forest.status, forest.live.set index ⟨input.root, content⟩ ++ emitted⟩

variable {forest next : Forest τ} {index root : Nat} {emissions : List (Emission τ)}
  {verdict : Verdict τ} {input : Tracked τ}

/-- The roots after a verdict on a tuple, when `live` remain. -/
def judged (status : List RootStatus) (live : List (Tracked τ)) (root : Option Nat) :
    Verdict τ → List RootStatus
  | .ack => acked status live root
  | .fail => failed status root
  | .hold _ => status

theorem settle_self {status : List RootStatus} (outcome : RootStatus)
    (pending : status[root]? = some .pending) :
    (settle status root outcome)[root]? = some outcome := by
  obtain ⟨bound, _⟩ := List.getElem?_eq_some_iff.mp pending
  rw [settle, if_pos pending, List.getElem?_set_self bound]

theorem settle_ne {status : List RootStatus} {other : Nat} (outcome : RootStatus)
    (different : root ≠ other) : (settle status root outcome)[other]? = status[other]? := by
  unfold settle
  split
  · exact List.getElem?_set_ne different
  · rfl

theorem length_settle (status : List RootStatus) (root : Nat) (outcome : RootStatus) :
    (settle status root outcome).length = status.length := by
  unfold settle
  split
  · exact List.length_set
  · rfl

/-- A tuple outside all trees decides nothing. -/
theorem judged_unrooted (status : List RootStatus) (live : List (Tracked τ)) (verdict : Verdict τ) :
    judged status live none verdict = status := by
  cases verdict <;> rfl

theorem judged_ne {status : List RootStatus} {live : List (Tracked τ)} {other : Nat}
    (different : root ≠ other) (verdict : Verdict τ) :
    (judged status live (some root) verdict)[other]? = status[other]? := by
  cases verdict with
  | ack =>
    rw [judged, acked]
    split
    · rfl
    · exact settle_ne _ different
  | fail => exact settle_ne _ different
  | hold _ => rfl

/-- The ack of the last tuple of a tree completes its root. -/
theorem judged_last {status : List RootStatus} {live : List (Tracked τ)}
    (pending : status[root]? = some .pending) (last : ¬ Grows live root) :
    (judged status live (some root) .ack)[root]? = some .complete := by
  rw [judged, acked, if_neg last]
  exact settle_self _ pending

theorem length_judged (status : List RootStatus) (live : List (Tracked τ)) (root : Option Nat)
    (verdict : Verdict τ) : (judged status live root verdict).length = status.length := by
  cases root with
  | none => rw [judged_unrooted]
  | some root =>
    cases verdict with
    | ack =>
      rw [judged, acked]
      split
      · rfl
      · exact length_settle _ _ _
    | fail => exact length_settle _ _ _
    | hold _ => rfl

/-- Handling a tuple replaces it by what is kept of it and what is emitted on it. -/
theorem handle_eq_some (handled : forest.handle index emissions verdict = some next) :
    ∃ front input back, forest.live = front ++ input :: back ∧
      forest.live[index]? = some input ∧
      next.live.Perm (verdict.kept input.root ++ children input.root emissions ++ (front ++ back)) ∧
      next.status = judged forest.status next.live input.root verdict := by
  unfold handle at handled
  split at handled
  · cases handled
  · rename_i input found
    obtain ⟨front, back, split, erased, replaced⟩ := split_at_index found
    refine ⟨front, input, back, split, found, ?_⟩
    cases verdict with
    | ack =>
      cases handled
      exact ⟨by rw [erased]; exact List.perm_append_comm, rfl⟩
    | fail =>
      cases handled
      exact ⟨by rw [erased]; exact List.perm_append_comm, rfl⟩
    | hold content =>
      cases handled
      refine ⟨?_, rfl⟩
      rw [replaced]
      refine (List.perm_middle.append_right _).trans ?_
      exact List.perm_append_comm.cons _

end Forest

end GitvTime.Support
