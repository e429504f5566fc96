import Mathlib.Data.List.Count

/-!
# Programs that log their calls

A program makes calls, which are logged, and ends with a result or by an
exception. `Once p` says that it ends with a result having made exactly one call
of the kind `p`; `OnceOrThrows p` is what the body of a try block has to satisfy
for that: one such call if it ends, none if it throws.
-/
namespace GitvTime.Support

/-- The calls made, the first one first, and the result; `none` is an exception. -/
structure Logged (κ α : Type) where
  calls : List κ
  result : Option α

namespace Logged

variable {κ α β : Type}

instance : Monad (Logged κ) where
  pure a := ⟨[], some a⟩
  bind x f :=
    match x.result with
    | some a => ⟨x.calls ++ (f a).calls, (f a).result⟩
    | none => ⟨x.calls, none⟩

def call (c : κ) : Logged κ Unit := ⟨[c], some ()⟩

def throw : Logged κ α := ⟨[], none⟩

/-- An expression that throws where it has no value. -/
def ofOption : Option α → Logged κ α
  | some a => pure a
  | none => throw

/-- `try body catch handler`. -/
def tryCatch (body handler : Logged κ α) : Logged κ α :=
  match body.result with
  | some _ => body
  | none => ⟨body.calls ++ handler.calls, handler.result⟩

/-- `try body finally last`: `last` runs however the body ends. -/
def tryFinally (body : Logged κ α) (last : Logged κ Unit) : Logged κ α :=
  ⟨body.calls ++ last.calls, last.result.bind fun _ => body.result⟩

@[simp] theorem pure_bind_eq (a : α) (f : α → Logged κ β) : (pure a >>= f) = f a := rfl

@[simp] theorem throw_bind (f : α → Logged κ β) : (throw >>= f) = throw := rfl

@[simp] theorem ofOption_some (a : α) : (ofOption (some a) : Logged κ α) = pure a := rfl

@[simp] theorem ofOption_none : (ofOption none : Logged κ α) = throw := rfl

@[simp] theorem call_bind (c : κ) (f : Unit → Logged κ β) :
    (call c >>= f) = ⟨c :: (f ()).calls, (f ()).result⟩ := rfl

@[simp] theorem calls_pure (a : α) : (pure a : Logged κ α).calls = [] := rfl

@[simp] theorem calls_throw : (throw : Logged κ α).calls = [] := rfl

@[simp] theorem calls_call (c : κ) : (call c).calls = [c] := rfl

@[simp] theorem result_pure (a : α) : (pure a : Logged κ α).result = some a := rfl

@[simp] theorem result_throw : (throw : Logged κ α).result = none := rfl

@[simp] theorem result_call (c : κ) : (call c).result = some () := rfl

/-- What always throws throws after anything. -/
theorem result_bind_none {x : Logged κ α} {f : α → Logged κ β}
    (throws : ∀ a, (f a).result = none) : (x >>= f).result = none := by
  obtain ⟨calls, result⟩ := x
  cases result with
  | none => rfl
  | some a => exact throws a

/-! ### Exactly one call of a kind -/

variable (p : κ → Bool)

/-- The program makes no call of the kind. -/
def Quiet (x : Logged κ α) : Prop := x.calls.countP p = 0

/-- The program ends with a result and one call of the kind. -/
structure Once (x : Logged κ α) : Prop where
  ends : x.result.isSome = true
  once : x.calls.countP p = 1

/-- One call of the kind if the program ends, none if it throws. -/
def OnceOrThrows (x : Logged κ α) : Prop :=
  x.calls.countP p = if x.result.isSome = true then 1 else 0

variable {p}

theorem Quiet.pure (a : α) : Quiet p (Pure.pure a : Logged κ α) := rfl

theorem Quiet.throw : Quiet p (Logged.throw : Logged κ α) := rfl

theorem Quiet.ofOption (a : Option α) : Quiet p (Logged.ofOption a : Logged κ α) := by
  cases a <;> rfl

theorem Quiet.call {c : κ} (other : p c = false) : Quiet p (Logged.call c) := by
  simp [Quiet, other]

theorem Quiet.bind {x : Logged κ α} {f : α → Logged κ β} (first : Quiet p x)
    (second : ∀ a, Quiet p (f a)) : Quiet p (x >>= f) := by
  obtain ⟨calls, result⟩ := x
  cases result with
  | none => exact first
  | some a =>
    have whole : (calls ++ (f a).calls).countP p = 0 := by
      rw [List.countP_append]
      have none_first : calls.countP p = 0 := first
      have none_second : (f a).calls.countP p = 0 := second a
      omega
    exact whole

theorem OnceOrThrows.throw : OnceOrThrows p (Logged.throw : Logged κ α) := rfl

theorem OnceOrThrows.call {c : κ} (kind : p c = true) : OnceOrThrows p (Logged.call c) := by
  simp [OnceOrThrows, kind]

theorem OnceOrThrows.bind {x : Logged κ α} {f : α → Logged κ β} (quiet : Quiet p x)
    (rest : ∀ a, OnceOrThrows p (f a)) : OnceOrThrows p (x >>= f) := by
  obtain ⟨calls, result⟩ := x
  cases result with
  | none => exact quiet
  | some a =>
    have whole : (calls ++ (f a).calls).countP p = (f a).calls.countP p := by
      rw [List.countP_append]
      have none_first : calls.countP p = 0 := quiet
      omega
    exact whole.trans (rest a)

theorem OnceOrThrows.ite {c : Prop} [Decidable c] {x y : Logged κ α}
    (yes : c → OnceOrThrows p x) (no : ¬ c → OnceOrThrows p y) :
    OnceOrThrows p (if c then x else y) := by
  split
  · exact yes ‹_›
  · exact no ‹_›

theorem Once.not_of_throws {x : Logged κ α} (throws : x.result = none) : ¬ Once p x := by
  intro once
  have ends := once.ends
  rw [throws] at ends
  cases ends

theorem Quiet.not_once {x : Logged κ α} (quiet : Quiet p x) : ¬ Once p x := by
  intro once
  have none_made : x.calls.countP p = 0 := quiet
  have one_made := once.once
  omega

/-- A handler that makes the call itself completes the body. -/
theorem OnceOrThrows.tryCatch {body handler : Logged κ α} (tried : OnceOrThrows p body)
    (handled : Once p handler) : Once p (tryCatch body handler) := by
  obtain ⟨calls, result⟩ := body
  cases result with
  | some a => exact ⟨rfl, tried⟩
  | none =>
    refine ⟨handled.ends, ?_⟩
    have none_tried : calls.countP p = 0 := tried
    simp only [Logged.tryCatch, List.countP_append, none_tried, handled.once]

theorem Once.call {c : κ} (kind : p c = true) : Once p (Logged.call c) :=
  ⟨rfl, OnceOrThrows.call kind⟩

end Logged

end GitvTime.Support
