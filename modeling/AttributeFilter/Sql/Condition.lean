/-
**Conditions.**

A condition is a piece of SQL with a `?` for every value, and the values in the order of their
marks.

* `Condition.compile` — a table operator: one clause per value, joined by OR, with both sides in
  lower case.
* `Condition.compileAllOf` — every token has to occur: one clause per token, joined by AND, in the
  case in which it was given.

An operand without values is refused, or holds for no record at all; `CompileOptions` says which.
-/

import AttributeFilter.Criteria.Basic
import AttributeFilter.Error
import AttributeFilter.Sql.Operator
import AttributeFilter.Sql.Text
import AttributeFilter.Text.Blank
import AttributeFilter.Text.Lowercase

namespace AttributeFilter

/-- What becomes of a criterion that has nothing to compare with. -/
inductive EmptyPolicy
  | reject
  | matchNone
deriving Repr, DecidableEq

/-- The word for a policy. -/
def EmptyPolicy.name : EmptyPolicy → String
  | .reject => "reject"
  | .matchNone => "match_none"

/-- How conditions are compiled. -/
structure CompileOptions where
  emptyPolicy : EmptyPolicy
  escapeLike : Bool
deriving Repr, DecidableEq

/-- A piece of SQL with a `?` for every value, and the values in the order of their marks. -/
structure Condition where
  expression : String
  boundValues : List String
deriving Repr, DecidableEq

namespace Condition

/-! ### Reading a condition -/

/-- The number of marks in the expression. -/
def placeholderCount (condition : Condition) : Nat := condition.expression.toList.count '?'

/-- Whether the expression joins several clauses. -/
def isCompound (condition : Condition) : Bool :=
  occursIn " OR ".toList condition.expression.toList ||
    occursIn " AND ".toList condition.expression.toList

/-! ### Compiling -/

/-- What follows a pattern clause whose value is escaped. -/
def escapeClause : String := " ESCAPE '\\'"

/-- Refuse a column that is not a plain identifier. -/
def requireIdentifier (column : String) : Except FilterError Unit :=
  if isIdentifier column then .ok () else .error (.invalidColumn column)

/-- The condition of a criterion without values. -/
def ofNoValues (column : String) (options : CompileOptions) : Except FilterError Condition :=
  match options.emptyPolicy with
  | .reject => .error (.emptyValues column)
  | .matchNone => .ok ⟨"1=0", []⟩

/-- The condition of a table operator whose clause is compared with every value. -/
def ofClauses (clause separator : String) (values : List String) : Condition :=
  ⟨joinWith separator (List.replicate values.length clause), values⟩

/-- The clause of a table operator. -/
def clause (column : String) (operator : Operator) (escaped : Bool) : String :=
  "lower(" ++ column ++ ") " ++ operator.comparison ++ " ?" ++
    if escaped then escapeClause else ""

/-- A value as part of a pattern. -/
def patternText (escaped : Bool) (value : String) : List Char :=
  if escaped then escapeLike value.toList else value.toList

/-- The form in which a value is bound: escaped where the pattern asks for it, put into the form of
the operator, and in lower case as a whole. -/
def boundValue (operator : Operator) (escaped : Bool) (value : String) : String :=
  String.ofList (toLowercase (operator.format (patternText escaped value)))

/-- Compile a table operator: the column compares with any of the values. -/
def compile (column : String) (operator : Operator) (operand : Operand) (options : CompileOptions) :
    Except FilterError Condition := do
  requireIdentifier column
  match operand.texts with
  | [] => ofNoValues column options
  | values =>
    let escaped := options.escapeLike && operator.isPattern
    return ofClauses (clause column operator escaped) " OR "
      (values.map (boundValue operator escaped))

/-! ### Compiling a list of tokens -/

/-- The tokens of an operand: the words of a single text, otherwise its values one by one. -/
def tokens (operand : Operand) : List String :=
  match operand.text? with
  | some text => (words text.toList).map String.ofList
  | none => operand.texts

/-- The clause for one token. -/
def tokenClause (column : String) (escaped : Bool) : String :=
  column ++ " LIKE ?" ++ if escaped then escapeClause else ""

/-- The pattern that asks for a token anywhere. -/
def tokenPattern (escaped : Bool) (token : String) : String :=
  String.ofList ('%' :: patternText escaped token ++ ['%'])

/-- Compile a list of tokens: the column contains all of them. -/
def compileAllOf (column : String) (operand : Operand) (options : CompileOptions) :
    Except FilterError Condition := do
  requireIdentifier column
  match tokens operand with
  | [] => ofNoValues column options
  | found =>
    return ofClauses (tokenClause column options.escapeLike) " AND "
      (found.map (tokenPattern options.escapeLike))

end Condition

end AttributeFilter
