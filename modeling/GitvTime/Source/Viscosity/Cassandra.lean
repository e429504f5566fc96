import Mathlib.Data.BitVec

/-!
# Counter tables of Cassandra

A row of counters is addressed by its full primary key. It exists from the first
increment on, an update that finds no row creates it, and a null among the bound
key columns is refused.
-/
namespace GitvTime.Source.Viscosity

/-- `long` and the counter columns. -/
abbrev Long := BitVec 64

/-- What a `?` of a prepared statement is bound to. -/
inductive Value where
  | null
  | text (value : String)
  | timestamp (date : Int)
  | bigint (value : Long)
  deriving DecidableEq, Repr

def Value.ofText : Option String → Value
  | some value => .text value
  | none => .null

def Value.ofDate : Option Int → Value
  | some date => .timestamp date
  | none => .null

structure Key where
  table : String
  columns : List (String × Value)
  deriving DecidableEq, Repr

/-- The counters of a row by column; `none` was never incremented. -/
abbrev Row := String → Option Long

abbrev Rows := Key → Option Row

def Row.increment (row : Row) (column : String) (delta : Long) : Row := fun other =>
  if other = column then some ((row column).getD 0 + delta) else row other

/-- The key of `where c₁ = ? and c₂ = ? …`. -/
def bindKey (table : String) (columns : List String) (values : List Value) : Option Key :=
  if values.length = columns.length ∧ .null ∉ values then some ⟨table, columns.zip values⟩ else none

/-- `select count(*) from table where …`. -/
structure CountStatement where
  table : String
  whereColumns : List String

def CountStatement.key (statement : CountStatement) (values : List Value) : Option Key :=
  bindKey statement.table statement.whereColumns values

/-- The count of the rows under a full primary key. -/
def CountStatement.execute (statement : CountStatement) (rows : Rows) (values : List Value) :
    Option Nat :=
  (statement.key values).map fun key => if (rows key).isSome = true then 1 else 0

/-- The summand of `c = c + …`. -/
inductive Delta where
  | literal (value : Long)
  | bound
  deriving DecidableEq, Repr

/-- `update table set c = c + …, … where …`. -/
structure UpdateStatement where
  table : String
  set : List (String × Delta)
  whereColumns : List String

/-- The increments of a `set` clause and the values left for the `where` clause. -/
def bindSet : List (String × Delta) → List Value → Option (List (String × Long) × List Value)
  | [], values => some ([], values)
  | (column, .literal delta) :: rest, values =>
    (bindSet rest values).map fun bound => ((column, delta) :: bound.1, bound.2)
  | (column, .bound) :: rest, .bigint delta :: values =>
    (bindSet rest values).map fun bound => ((column, delta) :: bound.1, bound.2)
  | (_, .bound) :: _, _ => none

def UpdateStatement.bind (statement : UpdateStatement) (values : List Value) :
    Option (Key × List (String × Long)) :=
  match bindSet statement.set values with
  | some (increments, values) =>
    (bindKey statement.table statement.whereColumns values).map fun key => (key, increments)
  | none => none

def incrementRow (rows : Rows) (key : Key) (increments : List (String × Long)) : Rows := fun other =>
  if other = key then
    some (increments.foldl (fun row entry => row.increment entry.1 entry.2)
      ((rows key).getD fun _ => none))
  else rows other

/-- The rows after the update, `none` when it is refused. -/
def UpdateStatement.execute (statement : UpdateStatement) (rows : Rows) (values : List Value) :
    Option Rows :=
  (statement.bind values).map fun bound => incrementRow rows bound.1 bound.2

@[simp] theorem incrementRow_self (rows : Rows) (key : Key) (increments : List (String × Long)) :
    incrementRow rows key increments key =
      some (increments.foldl (fun row entry => row.increment entry.1 entry.2)
        ((rows key).getD fun _ => none)) :=
  if_pos rfl

end GitvTime.Source.Viscosity
