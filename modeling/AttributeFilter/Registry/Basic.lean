/-
**The registry.**

The registry knows the schema of every record type and, for some of them, which attributes they may
be filtered by.

* `Registry.register` — add a record type. Its parent must be known, and a name is given only once.
* `Registry.declare` — declare what a record type may be filtered by. The first declaration on a
  type or one of its ancestors stays.
* `Registry.lineage` — a record type followed by its ancestors.
* `Registry.filterable?` — the nearest declaration in the lineage.

Record types are kept with the latest first. A parent is older than its child, so a lineage is found
in one pass from the latest to the oldest.
-/

import AttributeFilter.Config.Settings
import AttributeFilter.Registry.AttributeSet

namespace AttributeFilter

/-- The schema of a record type: its own columns, in lower case, and the record type it inherits
from. -/
structure RecordType where
  name : String
  columns : List String
  parent : Option String
deriving Repr, DecidableEq

/-- The record type with the given columns, whatever their case. -/
def RecordType.ofColumns (name : String) (columns : List String) (parent : Option String) :
    RecordType := ⟨name, columns.map foldCase, parent⟩

/-- Schemas and declarations. -/
structure Registry where
  settings : Settings
  /-- The record types, latest first. -/
  records : List RecordType
  /-- The declared attributes of record types, latest first. -/
  declarations : List (String × AttributeSet)
deriving Repr, DecidableEq

namespace Registry

/-- The registry that knows no record type. -/
def empty (settings : Settings) : Registry := ⟨settings, [], []⟩

/-! ### Looking up record types -/

/-- The record type of a name among the given ones. -/
def findRecord? (name : String) : List RecordType → Option RecordType
  | [] => none
  | record :: older => if record.name = name then some record else findRecord? name older

/-- The record type of a name, followed by its ancestors among the older ones. -/
def lineageIn (name : String) : List RecordType → List RecordType
  | [] => []
  | record :: older =>
    if record.name = name then
      record ::
        match record.parent with
        | none => []
        | some parent => lineageIn parent older
    else lineageIn name older

/-- The record type of a name. -/
def record? (registry : Registry) (name : String) : Option RecordType :=
  findRecord? name registry.records

/-- Whether a name is that of a record type. -/
def knows (registry : Registry) (name : String) : Bool := (registry.record? name).isSome

/-- A record type followed by its ancestors, nearest first. -/
def lineage (registry : Registry) (name : String) : List RecordType :=
  lineageIn name registry.records

/-! ### Looking up attributes -/

/-- The attributes declared on a record type itself. -/
def declared? (registry : Registry) (name : String) : Option AttributeSet :=
  registry.declarations.lookup name

/-- The attributes that a record type may be filtered by: its own declaration, else that of its
nearest ancestor with one. -/
def filterable? (registry : Registry) (name : String) : Option AttributeSet :=
  (registry.lineage name).findSome? fun record => registry.declared? record.name

/-- Whether a record type or one of its ancestors has a declaration. -/
def hasFilter (registry : Registry) (name : String) : Bool := (registry.filterable? name).isSome

/-- Whether an attribute is a column of a record type, its own or inherited, in whatever case. -/
def hasColumn (registry : Registry) (name column : String) : Bool :=
  (registry.lineage name).any fun record => record.columns.contains (foldCase column)

/-! ### Changing the registry -/

/-- Whether a record type has a parent that is not known. -/
def unknownParent? (registry : Registry) (record : RecordType) : Option String :=
  record.parent.filter fun parent => !registry.knows parent

/-- Add a record type. The answer is whether it was added: a name that is taken keeps its schema. -/
def register (registry : Registry) (record : RecordType) : Except FilterError Bool × Registry :=
  match registry.unknownParent? record with
  | some parent => (.error (.unknownRecordType parent), registry)
  | none =>
    if registry.knows record.name then (.ok false, registry)
    else (.ok true, { registry with records := record :: registry.records })

/-- Declare what a record type may be filtered by. The answer is whether the declaration is in
force: it is not where the record type or an ancestor has one already. -/
def declare (registry : Registry) (name : String) (attributes : List String) :
    Except FilterError Bool × Registry :=
  if registry.knows name then
    if registry.hasFilter name then (.ok false, registry)
    else
      (.ok true,
        { registry with
          declarations := (name, AttributeSet.ofList attributes) :: registry.declarations })
  else (.error (.unknownRecordType name), registry)

end Registry

end AttributeFilter
