/-
**Inheritance is well founded.**

A look-up goes from a record type to its parent by name, through the table of record types. It does
not remember where it has been, and the table alone sets no limit to it: a circle of parents would
keep it going for ever. Here the look-ups are told in just this way, with a limit on the record
types that one of them visits, beyond which there is no answer at all.

* `Registry.Coherent.wellFounded_isParent` — going from parent to parent comes to an end.
* `Registry.IsLineage` — what a walk to the end goes through.
* `Registry.Coherent.searchUp_eq` — a look-up by name is over within the lineage, with the answer
  that the lineage gives.
* `Registry.AnswersWithin` — every call that looks along a lineage has its answer within a limit.
* **`Registry.inheritance_ends`** — both hold in every registry that comes about by calls; no search
  visits more record types than there are.
-/

import AttributeFilter.Proofs.Registry.Lineage
import AttributeFilter.Registry.Filter
import Mathlib.Data.List.Chain
import Mathlib.Data.List.Nodup

namespace AttributeFilter

namespace Registry

/-! ### The table of record types -/

theorem findRecord?_eq_none_iff {name : String} {records : List RecordType} :
    findRecord? name records = none ↔ name ∉ records.map RecordType.name := by
  induction records with
  | nil => simp [findRecord?]
  | cons latest older ih =>
    rw [findRecord?, List.map_cons, List.mem_cons, not_or, ← ih]
    by_cases same : latest.name = name
    · simp [same]
    · simp [same, Ne.symm same]

/-- **No name is given twice.** -/
theorem nodup_names {records : List RecordType} (ordered : Ordered records) :
    (records.map RecordType.name).Nodup := by
  induction records with
  | nil => exact List.nodup_nil
  | cons latest older ih =>
    obtain ⟨fresh, -, rest⟩ := ordered
    exact List.nodup_cons.mpr ⟨findRecord?_eq_none_iff.mp fresh, ih rest⟩

/-- A record type of the table is found under its name. -/
theorem findRecord?_of_mem {records : List RecordType} {record : RecordType}
    (ordered : Ordered records) (member : record ∈ records) :
    findRecord? record.name records = some record := by
  induction records with
  | nil => cases member
  | cons latest older ih =>
    obtain ⟨fresh, -, rest⟩ := ordered
    rcases List.mem_cons.mp member with rfl | older
    · rw [findRecord?, if_pos rfl]
    · have found := ih rest older
      rw [findRecord?, if_neg (ne_of_findRecord? fresh (by simp [found])), found]

/-- A lineage leaves record types out of the table and changes nothing in their order. -/
theorem lineageIn_sublist (name : String) (records : List RecordType) :
    (lineageIn name records).Sublist records := by
  induction records generalizing name with
  | nil => exact .slnil
  | cons latest older ih =>
    rw [lineageIn]
    split
    · cases latest.parent with
      | none => exact (List.nil_sublist older).cons_cons latest
      | some parent => exact (ih parent).cons_cons latest
    · exact (ih name).cons latest

theorem knows_iff_mem_names {registry : Registry} {name : String} :
    registry.knows name = true ↔ name ∈ registry.records.map RecordType.name := by
  rw [knows, record?, Option.isSome_iff_ne_none, ne_eq, findRecord?_eq_none_iff, not_not]

/-! ### From parent to parent -/

/-- The first name is that of the parent of the record type with the second name. -/
def IsParent (registry : Registry) (parent name : String) : Prop :=
  ∃ record, registry.record? name = some record ∧ record.parent = some parent

/-- What a walk from a name to its parents goes through: registered record types without
repetition, no more than there are, each of them followed by its parent, until there is none. -/
structure IsLineage (registry : Registry) (name : String) (walked : List RecordType) : Prop where
  begins : walked.head? = registry.record? name
  follows : walked.IsChain fun child above => child.parent = some above.name
  ends : ∀ last ∈ walked.getLast?, last.parent = none
  registered : ∀ record ∈ walked, registry.record? record.name = some record
  nodup : (walked.map RecordType.name).Nodup
  length_le : walked.length ≤ registry.records.length

namespace Coherent

variable {registry : Registry} (coherent : registry.Coherent)

include coherent

/-- **Going from parent to parent comes to an end.** -/
theorem wellFounded_isParent : WellFounded registry.IsParent := by
  refine ⟨fun name => ?_⟩
  induction name using coherent.walk with
  | unknown name unknown =>
    refine ⟨_, ?_⟩
    rintro parent ⟨record, found, -⟩
    rw [unknown] at found
    cases found
  | known name record found ih =>
    refine ⟨_, ?_⟩
    rintro parent ⟨other, foundOther, above⟩
    obtain rfl := Option.some.inj (found.symm.trans foundOther)
    exact ih parent above

theorem head?_lineage (name : String) : (registry.lineage name).head? = registry.record? name := by
  cases found : registry.record? name with
  | none => rw [lineage_of_unknown found, List.head?_nil]
  | some record => rw [coherent.lineage_eq found, List.head?_cons]

theorem isChain_lineage (name : String) :
    (registry.lineage name).IsChain fun child above => child.parent = some above.name := by
  induction name using coherent.walk with
  | unknown name unknown =>
    rw [lineage_of_unknown unknown]
    exact .nil
  | known name record found ih =>
    rw [coherent.lineage_eq found]
    cases above : record.parent with
    | none => exact .singleton record
    | some parent =>
      refine (ih parent above).cons fun next first => ?_
      rw [coherent.head?_lineage] at first
      rw [above, name_of_findRecord? first]

/-- The last record type of a lineage has no parent. -/
theorem parent_of_getLast?_lineage (name : String) :
    ∀ last ∈ (registry.lineage name).getLast?, last.parent = none := by
  induction name using coherent.walk with
  | unknown name unknown => simp [lineage_of_unknown unknown]
  | known name record found ih =>
    rw [coherent.lineage_eq found]
    cases above : record.parent with
    | none => simpa using above
    | some parent =>
      obtain ⟨next, known⟩ := Option.isSome_iff_exists.mp (coherent.knows_parent found above)
      have onward := ih parent above
      rw [coherent.lineage_eq known] at onward
      rw [Option.map_some, Option.getD_some, coherent.lineage_eq known, List.getLast?_cons_cons]
      exact onward

/-- **A lineage is a walk to the end.** -/
theorem isLineage (name : String) : registry.IsLineage name (registry.lineage name) := by
  -- A part of the table has no more entries than the table, and no name twice.
  have inTable : (registry.lineage name).Sublist registry.records := lineageIn_sublist name _
  exact ⟨coherent.head?_lineage name, coherent.isChain_lineage name,
    coherent.parent_of_getLast?_lineage name,
    fun record member => findRecord?_of_mem coherent.ordered (inTable.subset member),
    (nodup_names coherent.ordered).sublist (inTable.map RecordType.name), inTable.length_le⟩

/-- Only registered names are keys of declarations. -/
theorem knows_of_mem_declarations {name : String}
    (key : name ∈ registry.declarations.map Prod.fst) : registry.knows name = true := by
  cases found : registry.declared? name with
  | some set => exact coherent.knows_of_declared? found
  | none =>
    obtain ⟨entry, member, same⟩ := List.mem_map.mp key
    have absent := List.lookup_eq_none_iff.mp found entry member
    simp [same] at absent

end Coherent

/-! ### Looking up by name, with a limit -/

/-- The record type that a record type inherits from, looked up by its name. -/
def parent? (registry : Registry) (record : RecordType) : Option RecordType :=
  record.parent.bind registry.record?

/-- Look for an answer from a record type upwards. The search is given up, without saying whether
there is an answer, when it is not over after the given number of record types. -/
def searchUp {α : Type} (registry : Registry) (answer : RecordType → Option α) :
    Nat → Option RecordType → Option (Option α)
  | _, none => some none
  | 0, some _ => none
  | limit + 1, some record =>
    match answer record with
    | some found => some (some found)
    | none => registry.searchUp answer limit (registry.parent? record)

/-- **A search is over within the lineage**, and finds what there is to find in it. -/
theorem Coherent.searchUp_eq {α : Type} {registry : Registry} (coherent : registry.Coherent)
    (answer : RecordType → Option α) (name : String) {limit : Nat}
    (enough : (registry.lineage name).length ≤ limit) :
    registry.searchUp answer limit (registry.record? name) =
      some ((registry.lineage name).findSome? answer) := by
  -- The limit goes down by one with every parent, as the rest of the lineage does.
  induction name using coherent.walk generalizing limit with
  | unknown name unknown =>
    rw [unknown, lineage_of_unknown unknown, searchUp]
    rfl
  | known name record found ih =>
    rw [coherent.lineage_eq found] at enough ⊢
    cases limit with
    | zero => exact absurd enough (Nat.not_succ_le_zero _)
    | succ limit =>
      rw [found, searchUp, List.findSome?_cons]
      cases here : answer record with
      | some value => rfl
      | none =>
        cases above : record.parent with
        | none => simp [parent?, above, searchUp]
        | some parent =>
          rw [above] at enough
          rw [parent?, above]
          exact ih parent above (Nat.le_of_succ_le_succ enough)

/-! ### Calls with a limit -/

/-- A call of which every search has a limit. It fails or succeeds, or it is given up and has no
answer at all. -/
abbrev Limited := ExceptT FilterError Option

/-- A call with this answer. -/
def Limited.given {α : Type} (answer : Except FilterError α) : Limited α := ExceptT.mk (some answer)

theorem Limited.given_bind {α β : Type} (answer : Except FilterError α)
    (next : α → Except FilterError β) :
    (given answer >>= fun value => given (next value)) = given (answer >>= next) := by
  cases answer <;> rfl

section

variable (registry : Registry) (limit : Nat) (name : String)

/-- The attributes that a record type may be filtered by. -/
def filterableWithin? : Option (Option AttributeSet) :=
  registry.searchUp (fun record => registry.declared? record.name) limit (registry.record? name)

/-- Whether a record type or one of its ancestors has a declaration. -/
def hasFilterWithin : Option Bool := (registry.filterableWithin? limit name).map Option.isSome

/-- Whether an attribute is a column of a record type, its own or inherited. -/
def hasColumnWithin (column : String) : Option Bool :=
  let own record := if record.columns.contains (foldCase column) then some () else none
  (registry.searchUp own limit (registry.record? name)).map Option.isSome

/-- Declare what a record type may be filtered by. -/
def declareWithin (attributes : List String) : Option (Except FilterError Bool × Registry) :=
  if registry.knows name then do
    if ← registry.hasFilterWithin limit name then return (.ok false, registry)
    else return (.ok true, registry.withDeclaration name attributes)
  else return (.error (.unknownRecordType name), registry)

/-- Whether an attribute is on the whitelist in force for a record type. -/
def isWhitelistedWithin (column : String) : Option Bool :=
  (registry.filterableWithin? limit name).map fun inForce => inForce.any (·.contains column)

/-- Refuse to filter a record type by a column outside its whitelist. -/
def guardAccessWithin (column : String) : Limited Unit :=
  if !isIdentifier column then throw (.invalidColumn column)
  else do
    if !(← registry.hasColumnWithin limit name column) then return ()
    else if ← registry.isWhitelistedWithin limit name column then return ()
    else throw (.illegalAttributeAccess column)

/-- The scope of one criterion. -/
def scopeOfWithin (criterion : Criterion) : Limited Scope := do
  registry.guardAccessWithin limit name criterion.column
  match NamedScope.find? criterion.operator with
  | none => throw (.unknownOperator criterion.operator)
  | some scope =>
    .given (scope.build criterion.column criterion.operand registry.settings.compileOptions)

/-- Restrict a scope further by the criteria of a list, one after the other. -/
def restrictByWithin (scope : Scope) : List (Option Criterion) → Limited Scope
  | [] => return scope
  | none :: rest => restrictByWithin scope rest
  | some criterion :: rest => do
    let next ← registry.scopeOfWithin limit name criterion
    restrictByWithin (scope.compose next) rest

/-- The scope that restricts a record type by criteria. -/
def filterByWithin (criteria : Criteria) : Limited Scope :=
  if registry.knows name then do
    Limited.given (Criteria.requireCount registry.settings criteria)
    match criteria with
    | .unrestricted => return Scope.unrestricted
    | .one criterion => registry.scopeOfWithin limit name criterion
    | .many list => registry.restrictByWithin limit name Scope.unrestricted list
  else throw (.unknownRecordType name)

end

/-- Within the limit, every call has its answer: no search is given up. -/
structure AnswersWithin (registry : Registry) (limit : Nat) : Prop where
  filterable? : ∀ name, registry.filterableWithin? limit name = some (registry.filterable? name)
  hasFilter : ∀ name, registry.hasFilterWithin limit name = some (registry.hasFilter name)
  hasColumn : ∀ name column,
    registry.hasColumnWithin limit name column = some (registry.hasColumn name column)
  declare : ∀ name attributes,
    registry.declareWithin limit name attributes = some (registry.declare name attributes)
  guardAccess : ∀ name column,
    registry.guardAccessWithin limit name column = .given (registry.guardAccess name column)
  filterBy : ∀ name criteria,
    registry.filterByWithin limit name criteria = .given (registry.filterBy name criteria)

section

variable {registry : Registry} {limit : Nat} {name : String}

theorem declareWithin_eq
    (answered : registry.hasFilterWithin limit name = some (registry.hasFilter name))
    (attributes : List String) :
    registry.declareWithin limit name attributes = some (registry.declare name attributes) := by
  rw [declareWithin, declare, answered]
  cases registry.knows name with
  | false => rfl
  | true => cases registry.hasFilter name <;> rfl

theorem guardAccessWithin_eq {column : String}
    (real : registry.hasColumnWithin limit name column = some (registry.hasColumn name column))
    (inForce : registry.filterableWithin? limit name = some (registry.filterable? name)) :
    registry.guardAccessWithin limit name column = .given (registry.guardAccess name column) := by
  have listed : registry.isWhitelistedWithin limit name column =
      some (registry.isWhitelisted name column) := by
    rw [isWhitelistedWithin, inForce, isWhitelisted]
    cases registry.filterable? name <;> rfl
  rw [guardAccessWithin, guardAccess, real, listed]
  cases isIdentifier column <;> cases registry.hasColumn name column <;>
    cases registry.isWhitelisted name column <;> rfl

variable (guards : ∀ column,
  registry.guardAccessWithin limit name column = .given (registry.guardAccess name column))

include guards

theorem scopeOfWithin_eq (criterion : Criterion) :
    registry.scopeOfWithin limit name criterion = .given (registry.scopeOf name criterion) := by
  rw [scopeOfWithin, scopeOf, guards, ← Limited.given_bind]
  cases NamedScope.find? criterion.operator <;> rfl

theorem restrictByWithin_eq (list : List (Option Criterion)) (scope : Scope) :
    registry.restrictByWithin limit name scope list =
      .given (registry.restrictBy name scope list) := by
  induction list generalizing scope with
  | nil => rfl
  | cons entry rest ih =>
    cases entry with
    | none => exact ih scope
    | some criterion =>
      rw [restrictByWithin, restrictBy, scopeOfWithin_eq guards, ← Limited.given_bind]
      exact congrArg _ (funext fun next => ih (scope.compose next))

theorem filterByWithin_eq (criteria : Criteria) :
    registry.filterByWithin limit name criteria = .given (registry.filterBy name criteria) := by
  unfold filterByWithin filterBy
  split
  · rw [← Limited.given_bind]
    refine congrArg _ (funext fun _ => ?_)
    cases criteria with
    | unrestricted => rfl
    | one criterion => exact scopeOfWithin_eq guards criterion
    | many list => exact restrictByWithin_eq guards list _
  · rfl

end

/-- **Every call has its answer within the number of record types.** -/
theorem Coherent.answersWithin {registry : Registry} (coherent : registry.Coherent) {limit : Nat}
    (enough : registry.records.length ≤ limit) : registry.AnswersWithin limit := by
  have within (name : String) : (registry.lineage name).length ≤ limit :=
    (coherent.isLineage name).length_le.trans enough
  have inForce (name : String) :
      registry.filterableWithin? limit name = some (registry.filterable? name) :=
    coherent.searchUp_eq _ name (within name)
  have declared (name : String) :
      registry.hasFilterWithin limit name = some (registry.hasFilter name) := by
    rw [hasFilterWithin, inForce]
    rfl
  have real (name column : String) :
      registry.hasColumnWithin limit name column = some (registry.hasColumn name column) := by
    rw [hasColumnWithin, coherent.searchUp_eq _ name (within name), Option.map_some, hasColumn,
      Option.some.injEq, Bool.eq_iff_iff, List.findSome?_isSome_iff, List.any_eq_true]
    simp
  have guards (name column : String) := guardAccessWithin_eq (real name column) (inForce name)
  exact ⟨inForce, declared, real, fun name => declareWithin_eq (declared name), guards,
    fun name => filterByWithin_eq (guards name)⟩

/-- **Inheritance ends**, in every registry that comes about by calls. Going from parent to parent
is well founded, and the lineage of every name is a walk to the end. The table holds each known name
once, and only known names have declarations. Every call that follows the names of parents has its
answer within as many visits as there are record types. -/
theorem inheritance_ends (settings : Settings) (calls : List Call) :
    let registry := (empty settings).run calls
    WellFounded registry.IsParent ∧
    (∀ name, registry.IsLineage name (registry.lineage name)) ∧
    (registry.records.map RecordType.name).Nodup ∧
    (∀ name, registry.knows name = true ↔ name ∈ registry.records.map RecordType.name) ∧
    (∀ name ∈ registry.declarations.map Prod.fst, registry.knows name = true) ∧
    ∀ limit, registry.records.length ≤ limit → registry.AnswersWithin limit := by
  intro registry
  have coherent : registry.Coherent := coherent_run settings calls
  exact ⟨coherent.wellFounded_isParent, coherent.isLineage, nodup_names coherent.ordered,
    fun _ => knows_iff_mem_names, fun _ => coherent.knows_of_mem_declarations,
    fun _ => coherent.answersWithin⟩

/-- Record types are offered as their own parent, in front of their parent, and a second time below
their own child. -/
def contested : List Call := [
  .register "Person" ["name"] (some "Person"),
  .register "Employee" ["salary"] (some "Person"),
  .register "Person" ["name"] none,
  .register "Employee" ["salary"] (some "Person"),
  .register "Person" ["name"] (some "Employee"),
  .register "Manager" ["bonus"] (some "Employee"),
  .declare "Employee" ["salary"],
  .declare "Manager" ["bonus"]]

theorem inheritance_ends_contested :
    let registry := (empty .default).run contested
    WellFounded registry.IsParent ∧
    registry.IsLineage "Manager" [.ofColumns "Manager" ["bonus"] (some "Employee"),
      .ofColumns "Employee" ["salary"] (some "Person"), .ofColumns "Person" ["name"] none] ∧
    ("Employee" ∈ registry.declarations.map Prod.fst ∧ registry.knows "Employee" = true) ∧
    registry.records.length ≤ 3 ∧ registry.AnswersWithin 3 := by
  intro registry
  obtain ⟨ends, lineages, -, -, keys, answers⟩ := inheritance_ends .default contested
  have walked : registry.lineage "Manager" = [.ofColumns "Manager" ["bonus"] (some "Employee"),
      .ofColumns "Employee" ["salary"] (some "Person"), .ofColumns "Person" ["name"] none] := by
    decide +kernel
  have key : "Employee" ∈ registry.declarations.map Prod.fst := by decide +kernel
  have few : registry.records.length ≤ 3 := by decide +kernel
  exact ⟨ends, walked ▸ lineages "Manager", ⟨key, keys "Employee" key⟩, few, answers 3 few⟩

end Registry

end AttributeFilter
