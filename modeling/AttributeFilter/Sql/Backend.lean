/-
**Backends.**

Conditions are compiled once, with `?` for every value. Each backend has its own way of marking a
value: SQLite keeps the mark, PostgreSQL numbers the values.
-/

namespace AttributeFilter

/-- A database whose SQL is written. -/
inductive Backend
  | sqlite
  | postgres
deriving Repr, DecidableEq

namespace Backend

/-- The name of a backend. -/
def name : Backend → String
  | .sqlite => "sqlite"
  | .postgres => "postgres"

/-- The backend of a name. -/
def ofName? : String → Option Backend
  | "sqlite" => some .sqlite
  | "postgres" => some .postgres
  | _ => none

/-- The mark of the value with the given number. -/
def placeholder : Backend → Nat → String
  | .sqlite, _ => "?"
  | .postgres, index => "$" ++ toString index

end Backend

end AttributeFilter
