/-
**Handing a scope to a query.**

A query under construction is its text so far and the values bound so far. Binding a value writes a
mark for it, which is the matter of the query builder: it writes question marks for SQLite, and
numbers the values that it has bound for PostgreSQL. `Query.restrict` appends a scope in this way, as
an alternative to rendering the scope and binding its values separately.
-/

import AttributeFilter.Sql.Scope

namespace AttributeFilter

/-- A query under construction. -/
structure Query where
  text : String
  bound : List String
deriving Repr, DecidableEq

namespace Query

/-- A query that begins with a text and binds nothing yet. -/
def start (text : String) : Query := ⟨text, []⟩

/-- Append text. -/
def append (query : Query) (text : String) : Query := { query with text := query.text ++ text }

/-- The mark that the query builder writes for the latest of the values that it has bound. -/
def bindMark (bound : List String) : Backend → String
  | .sqlite => "?"
  | .postgres => "$" ++ toString bound.length

/-- Bind a value and write its mark. -/
def bind (query : Query) (backend : Backend) (value : String) : Query :=
  let bound := query.bound ++ [value]
  ⟨query.text ++ bindMark bound backend, bound⟩

/-- Append a clause, binding the next value at every `?`. A `?` for which no value is left is
dropped. -/
def fill (backend : Backend) (query : Query) : List Char → List String → Query
  | [], _ => query
  | c :: rest, values =>
    if c = '?' then
      match values with
      | [] => fill backend query rest []
      | value :: others => fill backend (query.bind backend value) rest others
    else fill backend { query with text := query.text.push c } rest values

/-- Restrict the query by a scope. -/
def restrict (query : Query) (backend : Backend) (scope : Scope) : Query :=
  match scope.whereClause? with
  | none => query
  | some clause => fill backend (query.append " WHERE ") clause.toList scope.boundValues

end Query

end AttributeFilter
