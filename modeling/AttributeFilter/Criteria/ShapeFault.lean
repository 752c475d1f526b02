/-
**What is wrong with the shape of criteria.**

Criteria come as JSON in a few shapes. A `ShapeFault` says how a value fails to be of one of them,
and `ShapeFault.message` words it.
-/

import AttributeFilter.Decimal.Layout
import AttributeFilter.Json.Basic
import AttributeFilter.Text.Quoted

namespace AttributeFilter

/-- What a message calls a value that was found where a text was expected. -/
def Json.described : Json → String
  | .null => "null"
  | .boolean true => "boolean `true`"
  | .boolean false => "boolean `false`"
  | .number (.integer value) => "integer `" ++ toString value ++ "`"
  | .number (.float value) => "floating point `" ++ describedNumber value ++ "`"
  | .text value => "string " ++ quoted value
  | .array _ => "sequence"
  | .object _ => "map"

/-- How a JSON value fails to be criteria. -/
inductive ShapeFault
  /-- The whole is neither null nor a list nor an object, but of the given kind. -/
  | notCriteria (kind : String)
  /-- A list begins with a value of the given kind. -/
  | badStart (kind : String)
  /-- An entry of a list of criteria is a value of the given kind. -/
  | flatEntry (index : Nat) (kind : String)
  /-- A criterion written as a list has another number of elements than three. -/
  | wrongLength (count : Nat)
  | columnNotText
  | operatorNotText
  | operandNotScalars
  /-- The column or operator of a criterion written as an object is the described value. -/
  | memberNotText (found : String)
  | memberNotScalars
  | missingMember (key : String)
  | repeatedMember (key : String)
deriving Repr, DecidableEq

/-- The wording of a fault. -/
def ShapeFault.message : ShapeFault → String
  | .notCriteria kind => "criteria must be an array, object or null, got " ++ kind
  | .badStart kind => "criteria must start with a column name or a nested criterion, got " ++ kind
  | .flatEntry index kind =>
    "entry " ++ toString index ++ " mixes a flat " ++ kind ++ " into a list of criteria"
  | .wrongLength count =>
    "a criterion needs (column, operator, value), got " ++ toString count ++ " elements"
  | .columnNotText => "column must be a string"
  | .operatorNotText => "operator must be a string"
  | .operandNotScalars => "value must be a scalar or a list of scalars"
  | .memberNotText found => "invalid type: " ++ found ++ ", expected a string"
  | .memberNotScalars => "data did not match any variant of untagged enum FilterValue"
  | .missingMember key => "missing field `" ++ key ++ "`"
  | .repeatedMember key => "duplicate field `" ++ key ++ "`"

end AttributeFilter
