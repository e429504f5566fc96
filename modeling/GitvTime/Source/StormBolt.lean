import GitvTime.Support.LoggedCalls

/-!
# A bolt's tuple and collector

What `execute` reads of its tuple and what it tells the collector. `ack` and
`fail` return; `emit` may throw.
-/
namespace GitvTime.Source.StormBolt
open GitvTime.Support

/-- The value of a field of the tuple; `other` is an object that is no string, or
a field that the tuple does not have. -/
inductive Field where
  | null
  | text (value : String)
  | other
  deriving DecidableEq, Repr

/-- A call of the collector with the input, or an emission anchored to it. -/
inductive CollectorCall (α : Type) where
  | emit (values : α)
  | ack
  | fail
  deriving DecidableEq, Repr

/-- `collector.ack(input)` or `collector.fail(input)`. -/
def CollectorCall.isAnswer {α : Type} : CollectorCall α → Bool
  | .emit _ => false
  | .ack | .fail => true

/-- A part of `execute` of a bolt that emits values of the first type. -/
abbrev Execution (α β : Type) := Logged (CollectorCall α) β

variable {α : Type}

/-- `input.getStringByField(name)`; `none` is null. -/
def getStringByField : Field → Execution α (Option String)
  | .null => pure none
  | .text value => pure (some value)
  | .other => Logged.throw

/-- `collector.emit`, which returns or throws. -/
def emit (returns : Bool) (values : α) : Execution α Unit :=
  if returns then Logged.call (.emit values) else Logged.throw

def ack : Execution α Unit := Logged.call .ack

def fail : Execution α Unit := Logged.call .fail

/-- The tuple is answered exactly once and no exception escapes. -/
abbrev AnsweredOnce (execution : Execution α Unit) : Prop :=
  Logged.Once CollectorCall.isAnswer execution

theorem getStringByField_quiet (field : Field) :
    Logged.Quiet CollectorCall.isAnswer
      (getStringByField field : Execution α (Option String)) := by
  cases field <;> rfl

theorem getStringByField_eq_pure {field : Field} (readable : field ≠ .other) :
    ∃ value, (getStringByField field : Execution α (Option String)) = pure value := by
  cases field with
  | null => exact ⟨none, rfl⟩
  | text value => exact ⟨some value, rfl⟩
  | other => exact absurd rfl readable

theorem emit_quiet (returns : Bool) (values : α) :
    Logged.Quiet CollectorCall.isAnswer (emit returns values) := by
  cases returns <;> rfl

theorem ack_once : Logged.OnceOrThrows CollectorCall.isAnswer (ack : Execution α Unit) :=
  .call rfl

end GitvTime.Source.StormBolt
