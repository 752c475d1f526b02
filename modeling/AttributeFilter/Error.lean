/-
**Failures of filtering.**

Every failure of declaring, reading and composing filters is a `FilterError`, a cause with the data
that its message shows. `FilterError.message` words it.
-/

import AttributeFilter.Criteria.ShapeFault

namespace AttributeFilter

/-- Why a filter was refused. -/
inductive FilterError
  /-- A real column was to be filtered by without being on the whitelist. -/
  | illegalAttributeAccess (name : String)
  | unknownOperator (operator : String)
  | invalidCriteriaShape (fault : ShapeFault)
  /-- A criterion has nothing to compare with. -/
  | emptyValues (column : String)
  /-- A column is not a plain identifier. -/
  | invalidColumn (column : String)
  | unknownRecordType (name : String)
  | tooManyCriteria (count max : Nat)
  /-- The text of the criteria is longer than the given number of bytes. -/
  | criteriaTooLarge (max : Nat)
  | invalidJson
deriving Repr, DecidableEq

namespace FilterError

/-- The wording of a failure. -/
def message : FilterError → String
  | .illegalAttributeAccess name =>
    "Tried to filter by " ++ quoted name ++
      " although this attribute has not been whitelisted for filtering."
  | .unknownOperator operator => "Unknown filter operator: " ++ quoted operator
  | .invalidCriteriaShape fault => "Invalid criteria shape: " ++ fault.message
  | .emptyValues column => "Filter on " ++ quoted column ++ " has no values"
  | .invalidColumn column => "Invalid filter column: " ++ quoted column
  | .unknownRecordType name => "Unknown record type: " ++ quoted name
  | .tooManyCriteria count max =>
    "Too many criteria: " ++ toString count ++ " given, maximum is " ++ toString max
  | .criteriaTooLarge max =>
    "Criteria JSON exceeds maximum size of " ++ toString max ++ " bytes"
  | .invalidJson => "Invalid criteria JSON"

/-- The attribute that was refused by the whitelist. -/
def attribute? : FilterError → Option String
  | .illegalAttributeAccess name => some name
  | _ => none

/-- Whether the whitelist refused the filter. -/
def isAccessViolation (error : FilterError) : Bool := error.attribute?.isSome

end FilterError

end AttributeFilter
