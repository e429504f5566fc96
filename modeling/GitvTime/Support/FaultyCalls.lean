import Mathlib.Data.List.Basic

/-!
# Programs whose calls can fail

A program in a state monad with exceptions makes calls that return or throw.
`EndsWith` says how it ends when the calls of a list return, and that it throws
otherwise; `Leaves` says the same of the state it leaves, where a later call may
throw. Both follow the program, bind by bind, and collect the calls.
-/
namespace GitvTime.Support

variable {ε σ α β C : Type}

/-- The state in which a program stops, in either way. -/
def finalState : EStateM.Result ε σ α → σ
  | .ok _ state => state
  | .error _ state => state

def Throws (x : EStateM ε σ α) (state : σ) : Prop :=
  ∃ e last, x.run state = .error e last

/-- The program returns `a` in `state'` when these calls return, and throws when
one of them does not. -/
structure EndsWith (returns : C → Prop) (calls : List C) (x : EStateM ε σ α) (state : σ) (a : α)
    (state' : σ) : Prop where
  ends : (∀ c ∈ calls, returns c) → x.run state = .ok a state'
  throws : ∀ c ∈ calls, ¬ returns c → Throws x state

/-- The program stops in `state'` when these calls return, and throws when one of
them does not. -/
structure Leaves (returns : C → Prop) (calls : List C) (x : EStateM ε σ α) (state state' : σ) :
    Prop where
  leaves : (∀ c ∈ calls, returns c) → finalState (x.run state) = state'
  throws : ∀ c ∈ calls, ¬ returns c → Throws x state

variable {returns : C → Prop} {state state' state'' : σ}

theorem Throws.bind {x : EStateM ε σ α} {f : α → EStateM ε σ β} (throws : Throws x state) :
    Throws (x >>= f) state := by
  obtain ⟨e, last, stopped⟩ := throws
  exact ⟨e, last, by rw [EStateM.run_bind, stopped]⟩

theorem Throws.after {x : EStateM ε σ α} {f : α → EStateM ε σ β} {a : α}
    (first : x.run state = .ok a state') (throws : Throws (f a) state') :
    Throws (x >>= f) state := by
  obtain ⟨e, last, stopped⟩ := throws
  exact ⟨e, last, by rw [EStateM.run_bind, first]; exact stopped⟩

/-- A program that returned did not throw. -/
theorem Leaves.all_returned {calls : List C} {x : EStateM ε σ α} {a : α} {last : σ}
    (left : Leaves returns calls x state state') (ended : x.run state = .ok a last) :
    ∀ c ∈ calls, returns c := by
  intro c member
  by_contra failed
  obtain ⟨e, other, stopped⟩ := left.throws c member failed
  cases stopped.symm.trans ended

/-- A failing call of the first part or of the rest ends the whole. -/
theorem EndsWith.throws_bind {calls later : List C} {x : EStateM ε σ α} {f : α → EStateM ε σ β}
    {a : α} (first : EndsWith returns calls x state a state')
    (second : ∀ c ∈ later, ¬ returns c → Throws (f a) state') :
    ∀ c ∈ calls ++ later, ¬ returns c → Throws (x >>= f) state := by
  intro c member failed
  by_cases all : ∀ d ∈ calls, returns d
  · rcases List.mem_append.mp member with early | late
    · exact absurd (all c early) failed
    · exact (second c late failed).after (first.ends all)
  · push Not at all
    obtain ⟨d, early, failed'⟩ := all
    exact (first.throws d early failed').bind

theorem EndsWith.of_throws {calls : List C} {c : C} {x : EStateM ε σ α} {a : α}
    (member : c ∈ calls) (failed : ¬ returns c) (throws : Throws x state) :
    EndsWith returns calls x state a state' where
  ends returned := absurd (returned c member) failed
  throws _ _ _ := throws

theorem Leaves.of_throws {calls : List C} {c : C} {x : EStateM ε σ α}
    (member : c ∈ calls) (failed : ¬ returns c) (throws : Throws x state) :
    Leaves returns calls x state state' where
  leaves returned := absurd (returned c member) failed
  throws _ _ _ := throws

theorem EndsWith.pure (a : α) :
    EndsWith returns [] (Pure.pure a : EStateM ε σ α) state a state where
  ends _ := rfl
  throws _ member := absurd member List.not_mem_nil

theorem EndsWith.get : EndsWith returns [] (get : EStateM ε σ σ) state state state where
  ends _ := rfl
  throws _ member := absurd member List.not_mem_nil

theorem EndsWith.modify (f : σ → σ) :
    EndsWith returns [] (MonadState.modifyGet fun state => (⟨⟩, f state) : EStateM ε σ PUnit) state
      ⟨⟩ (f state) where
  ends _ := rfl
  throws _ member := absurd member List.not_mem_nil

theorem EndsWith.bind {calls later : List C} {x : EStateM ε σ α} {f : α → EStateM ε σ β} {a : α}
    {b : β} (first : EndsWith returns calls x state a state')
    (second : EndsWith returns later (f a) state' b state'') :
    EndsWith returns (calls ++ later) (x >>= f) state b state'' where
  ends returned := by
    rw [EStateM.run_bind, first.ends fun c member => returned c (List.mem_append_left _ member)]
    exact second.ends fun c member => returned c (List.mem_append_right _ member)
  throws := first.throws_bind second.throws

/-- A step without calls. -/
theorem EndsWith.quiet {later : List C} {x : EStateM ε σ α} {f : α → EStateM ε σ β} {a : α}
    {b : β} (first : EndsWith returns [] x state a state')
    (second : EndsWith returns later (f a) state' b state'') :
    EndsWith returns later (x >>= f) state b state'' :=
  first.bind second

theorem EndsWith.leaves {calls : List C} {x : EStateM ε σ α} {a : α}
    (ended : EndsWith returns calls x state a state') : Leaves returns calls x state state' where
  leaves returned := by
    rw [ended.ends returned]
    rfl
  throws := ended.throws

theorem Leaves.after {calls later : List C} {x : EStateM ε σ α} {f : α → EStateM ε σ β} {a : α}
    (first : EndsWith returns calls x state a state')
    (second : Leaves returns later (f a) state' state'') :
    Leaves returns (calls ++ later) (x >>= f) state state'' where
  leaves returned := by
    rw [EStateM.run_bind, first.ends fun c member => returned c (List.mem_append_left _ member)]
    exact second.leaves fun c member => returned c (List.mem_append_right _ member)
  throws := first.throws_bind second.throws

theorem Leaves.quiet {later : List C} {x : EStateM ε σ α} {f : α → EStateM ε σ β} {a : α}
    (first : EndsWith returns [] x state a state')
    (second : Leaves returns later (f a) state' state'') :
    Leaves returns later (x >>= f) state state'' :=
  Leaves.after first second

/-- Whatever comes last changes no state. -/
theorem EndsWith.finally {calls : List C} {x : EStateM ε σ α} {f : α → EStateM ε σ β} {a : α}
    (first : EndsWith returns calls x state a state')
    (last : Leaves returns [] (f a) state' state') :
    Leaves returns calls (x >>= f) state state' :=
  List.append_nil calls ▸ Leaves.after first last

end GitvTime.Support
