/-
**When filtering is refused, and why.**

Every criterion is put to four tests: whether its column can be a column at all, whether the record
type may be filtered by it, whether its operator is known, and whether there is anything to compare
with. They are told here by the calls that were accepted and by the criterion alone. The answer goes
criterion by criterion and not test by test, so an early criterion that fails the last test is
reported in front of a later one that fails the first.

* `FirstIn` — the first member of a list with a property.
* `CriterionTest` — the tests, their order, and when a criterion fails them.
* `Criteria.Reports` — an error reports the first failed test of the first criterion that fails one.
* `Recorded.scopeOf_eq_error_iff` — one criterion is refused for the first test that it fails.
* `Recorded.scopeOfAll_eq_error_iff` — several are refused for the first one that fails a test.
* **`Registry.filterBy_refusals`** — the answers of a registry, for every name and all criteria.
-/

import AttributeFilter.Proofs.Registry.CriteriaLists
import AttributeFilter.Proofs.Registry.Noninterference
import AttributeFilter.Proofs.Registry.Whitelist

namespace AttributeFilter

/-! ### The first of a list -/

/-- The first member of a list that has the property. -/
def FirstIn {α : Type} (property : α → Prop) (list : List α) (member : α) : Prop :=
  ∃ before after, list = before ++ member :: after ∧ (∀ other ∈ before, ¬ property other) ∧
    property member

section

variable {α : Type} {property : α → Prop} {first member : α} {rest : List α}

theorem not_firstIn_nil : ¬ FirstIn property [] member := by
  rintro ⟨before, after, split, -⟩
  exact List.append_ne_nil_of_right_ne_nil before (List.cons_ne_nil member after) split.symm

/-- The first with the property is the head, or else the first of the rest. -/
theorem firstIn_cons_iff :
    FirstIn property (first :: rest) member ↔
      property first ∧ member = first ∨ ¬ property first ∧ FirstIn property rest member := by
  constructor
  · rintro ⟨before, after, split, none, here⟩
    cases before with
    | nil =>
      obtain ⟨rfl, rfl⟩ := List.cons_eq_cons.mp split
      exact .inl ⟨here, rfl⟩
    | cons other before =>
      obtain ⟨rfl, rfl⟩ := List.cons_eq_cons.mp split
      obtain ⟨skipped, others⟩ := List.forall_mem_cons.mp none
      exact .inr ⟨skipped, before, after, rfl, others, here⟩
  · rintro (⟨here, rfl⟩ | ⟨skipped, before, after, rfl, none, here⟩)
    · exact ⟨[], rest, rfl, fun _ inside => absurd inside List.not_mem_nil, here⟩
    · exact ⟨first :: before, after, rfl, List.forall_mem_cons.mpr ⟨skipped, none⟩, here⟩

theorem exists_firstIn_cons_iff {also : α → Prop} :
    (∃ member, FirstIn property (first :: rest) member ∧ also member) ↔
      property first ∧ also first ∨
        ¬ property first ∧ ∃ member, FirstIn property rest member ∧ also member := by
  simp only [firstIn_cons_iff, or_and_right, exists_or, and_assoc, exists_and_left,
    exists_eq_left]

/-- There is a first one wherever there is one. -/
theorem exists_firstIn_iff {list : List α} :
    (∃ member, FirstIn property list member) ↔ ∃ member ∈ list, property member := by
  induction list with
  | nil => simp [not_firstIn_nil]
  | cons first rest ih =>
    simp only [firstIn_cons_iff, exists_or, exists_and_left, exists_eq, and_true, ih,
      List.exists_mem_cons_iff]
    by_cases here : property first <;> simp [here]

end

/-! ### The tests of a criterion -/

/-- There is nothing to compare with: no value, or a single text without a word where the words are
asked for. -/
def Criterion.Valueless (criterion : Criterion) : Prop :=
  criterion.operand = .list [] ∨
    criterion.operator = Operator.containsAllOf ∧
      ∃ text, criterion.operand = .single (.text text) ∧ ∀ c ∈ text.toList, isBlank c = true

/-- What a criterion is tested for. -/
inductive CriterionTest
  | column
  | access
  | operator
  | values
deriving Repr, DecidableEq

namespace CriterionTest

/-- The tests in the order in which they are made. -/
def order : List CriterionTest := [.column, .access, .operator, .values]

/-- When a criterion fails a test, under the policy for criteria without values and after the
accepted calls. -/
def Fails (policy : EmptyPolicy) (log : List Call) (name : String) (criterion : Criterion) :
    CriterionTest → Prop
  | .column => ¬ PlainIdentifier criterion.column
  | .access => RealColumn log name criterion.column ∧ ¬ Listed log name criterion.column
  | .operator => criterion.operator ∉ NamedScope.names
  | .values => policy = .reject ∧ criterion.Valueless

/-- The error that reports a failed test. -/
def error (criterion : Criterion) : CriterionTest → FilterError
  | .column => .invalidColumn criterion.column
  | .access => .illegalAttributeAccess criterion.column
  | .operator => .unknownOperator criterion.operator
  | .values => .emptyValues criterion.column

end CriterionTest

/-- A criterion that fails a test. -/
def Criterion.Faulty (policy : EmptyPolicy) (log : List Call) (name : String)
    (criterion : Criterion) : Prop :=
  ∃ test : CriterionTest, test.Fails policy log name criterion

/-- The error reports the first criterion that fails a test, with the first test that it fails. -/
def Criteria.Reports (policy : EmptyPolicy) (log : List Call) (name : String) (criteria : Criteria)
    (error : FilterError) : Prop :=
  ∃ criterion test, FirstIn (Criterion.Faulty policy log name) criteria.entries criterion ∧
    FirstIn (CriterionTest.Fails policy log name criterion) CriterionTest.order test ∧
      error = test.error criterion

/-! ### The tests are made -/

/-- A criterion has nothing to compare with where it binds nothing. -/
theorem Criterion.boundCount_eq_zero_iff {criterion : Criterion} :
    criterion.boundCount = 0 ↔ criterion.Valueless := by
  rw [boundCount, Valueless]
  cases criterion.operand with
  | list values => simp
  | single value =>
    cases value with
    | text text =>
      by_cases all : criterion.operator = Operator.containsAllOf
      · simp [all, words_eq_nil_iff]
      · simp [all]
    | integer value => simp
    | float value => simp
    | boolean value => simp

namespace NamedScope

/-- The operator names are those of the table and the one beside it. -/
theorem find?_eq_none_iff {name : String} : find? name = none ↔ name ∉ names := by
  rw [find?, names, List.mem_append, List.mem_singleton, not_or]
  cases found : Operator.find? name with
  | some operator =>
    have named : operator.name = name := by simpa using List.find?_some found
    have listed : name ∈ Operator.table.map Operator.name :=
      named ▸ List.mem_map_of_mem (List.mem_of_find?_eq_some found)
    simp [listed]
  | none =>
    have absent : name ∉ Operator.table.map Operator.name := by
      intro listed
      obtain ⟨operator, member, named⟩ := List.mem_map.mp listed
      exact List.find?_eq_none.mp found operator member (by simp [named])
    simp [absent]

/-- A recipe is refused where there is nothing to compare with and the policy does not allow it. -/
theorem condition_eq_error_iff {scope : NamedScope} {column : String} {operand : Operand}
    {options : CompileOptions} {error : FilterError} :
    scope.condition column operand options = .error error ↔
      scope.texts operand = [] ∧ options.emptyPolicy = .reject ∧ error = .emptyValues column := by
  rw [condition]
  cases scope.texts operand with
  | cons text rest => simp
  | nil =>
    cases policy : options.emptyPolicy <;> simp [Condition.ofNoValues, policy, eq_comm]

end NamedScope

namespace Registry

variable {registry : Registry} {name : String}

/-- **The guard refuses** what is no plain identifier, and real columns off the whitelist. -/
theorem guardAccess_eq_error_iff {column : String} {error : FilterError} :
    registry.guardAccess name column = .error error ↔
      isIdentifier column = false ∧ error = .invalidColumn column ∨
        isIdentifier column = true ∧
          (registry.hasColumn name column = true ∧ registry.isWhitelisted name column = false) ∧
            error = .illegalAttributeAccess column := by
  rw [guardAccess]
  cases isIdentifier column <;> cases registry.hasColumn name column <;>
    cases registry.isWhitelisted name column <;> simp [eq_comm]

/-- Past the guard, a criterion is refused for its operator or for want of values. -/
theorem scopeOf_eq_error_iff {criterion : Criterion} {error : FilterError} :
    registry.scopeOf name criterion = .error error ↔
      registry.guardAccess name criterion.column = .error error ∨
        registry.guardAccess name criterion.column = .ok () ∧
          (NamedScope.find? criterion.operator = none ∧
              error = .unknownOperator criterion.operator ∨
            NamedScope.find? criterion.operator ≠ none ∧
              (registry.settings.emptyPolicy = .reject ∧ criterion.boundCount = 0) ∧
                error = .emptyValues criterion.column) := by
  cases guarded : registry.guardAccess name criterion.column with
  | error refusal => simp [scopeOf_of_refused guarded]
  | ok passed =>
    rw [scopeOf_of_guardAccess guarded]
    cases found : NamedScope.find? criterion.operator with
    | none => simp [eq_comm]
    | some scope =>
      have nothing : scope.texts criterion.operand = [] ↔ criterion.boundCount = 0 := by
        rw [← Criterion.length_texts found, List.length_eq_zero_iff]
      have mapped (result : Except FilterError Condition) :
          result.map Scope.ofCondition = .error error ↔ result = .error error := by
        cases result <;> simp [Except.map]
      have policy : registry.settings.compileOptions.emptyPolicy = registry.settings.emptyPolicy :=
        rfl
      simp [mapped, NamedScope.condition_eq_error_iff, nothing, policy, and_left_comm, and_assoc]

end Registry

namespace CriterionTest

/-- Which test is the first that fails, written out. -/
theorem exists_firstIn_order_iff {fails : CriterionTest → Prop} {property : CriterionTest → Prop} :
    (∃ test, FirstIn fails order test ∧ property test) ↔
      fails .column ∧ property .column ∨
        ¬ fails .column ∧ (fails .access ∧ property .access ∨
          ¬ fails .access ∧ (fails .operator ∧ property .operator ∨
            ¬ fails .operator ∧ fails .values ∧ property .values)) := by
  simp only [order, exists_firstIn_cons_iff, not_firstIn_nil, false_and, exists_false, and_false,
    or_false]

end CriterionTest

namespace Recorded

variable {log : List Call} {registry : Registry} {name : String} (recorded : Recorded log registry)

include recorded

/-- **One criterion is refused for the first test that it fails.** -/
theorem scopeOf_eq_error_iff {criterion : Criterion} {error : FilterError} :
    registry.scopeOf name criterion = .error error ↔
      ∃ test, FirstIn (CriterionTest.Fails registry.settings.emptyPolicy log name criterion)
        CriterionTest.order test ∧ error = test.error criterion := by
  rw [CriterionTest.exists_firstIn_order_iff, Registry.scopeOf_eq_error_iff,
    Registry.guardAccess_eq_error_iff, Registry.guardAccess_eq_ok_iff]
  simp only [CriterionTest.Fails, CriterionTest.error, ← isIdentifier_iff, ← recorded.hasColumn_iff,
    ← recorded.isWhitelisted_iff, ← NamedScope.find?_eq_none_iff,
    ← Criterion.boundCount_eq_zero_iff]
  -- Both sides now ask the same questions, three of them of the guard.
  cases isIdentifier criterion.column <;> cases registry.hasColumn name criterion.column <;>
    cases registry.isWhitelisted name criterion.column <;> simp

/-- A criterion is refused where it fails a test. -/
theorem exists_scopeOf_eq_error_iff {criterion : Criterion} :
    (∃ error, registry.scopeOf name criterion = .error error) ↔
      criterion.Faulty registry.settings.emptyPolicy log name := by
  have every (test : CriterionTest) : test ∈ CriterionTest.order := by cases test <;> decide
  simp only [recorded.scopeOf_eq_error_iff, Criterion.Faulty]
  rw [exists_comm]
  simp only [exists_and_left, exists_eq, and_true, exists_firstIn_iff, every, true_and]

/-- **Several criteria are refused for the first one that fails a test.** -/
theorem scopeOfAll_eq_error_iff {criteria : List Criterion} {error : FilterError} :
    registry.scopeOfAll name criteria = .error error ↔
      ∃ criterion,
        FirstIn (Criterion.Faulty registry.settings.emptyPolicy log name) criteria criterion ∧
          registry.scopeOf name criterion = .error error := by
  induction criteria with
  | nil => simp [Registry.scopeOfAll, not_firstIn_nil]
  | cons criterion rest ih =>
    rw [exists_firstIn_cons_iff, ← recorded.exists_scopeOf_eq_error_iff, ← ih,
      Registry.scopeOfAll_cons]
    cases first : registry.scopeOf name criterion with
    | error refusal => simp [composeAnswers]
    | ok scope => cases registry.scopeOfAll name rest <;> simp [composeAnswers]

/-- They are answered where none of them fails a test. -/
theorem exists_scopeOfAll_eq_ok_iff {criteria : List Criterion} :
    (∃ scope, registry.scopeOfAll name criteria = .ok scope) ↔
      ∀ criterion ∈ criteria, ¬ criterion.Faulty registry.settings.emptyPolicy log name := by
  induction criteria with
  | nil => simp [Registry.scopeOfAll]
  | cons criterion rest ih =>
    rw [List.forall_mem_cons, ← recorded.exists_scopeOf_eq_error_iff, ← ih,
      Registry.scopeOfAll_cons]
    cases first : registry.scopeOf name criterion with
    | error refusal => simp [composeAnswers]
    | ok scope => cases registry.scopeOfAll name rest <;> simp [composeAnswers]

/-! ### All criteria of a request -/

section

variable {criteria : Criteria} (registered : Registered log name)
  (within : criteria.size ≤ registry.settings.maxCriteria)

include registered within

/-- **Within the limit, the first failed test of the first faulty criterion is reported**, -/
theorem filterBy_eq_error_iff {error : FilterError} :
    registry.filterBy name criteria = .error error ↔
      criteria.Reports registry.settings.emptyPolicy log name error := by
  rw [Registry.filterBy_of_size_le (recorded.knows_iff.mpr registered) within]
  simp only [recorded.scopeOfAll_eq_error_iff, recorded.scopeOf_eq_error_iff, Criteria.Reports,
    exists_and_left]

/-- and there is an answer where no criterion fails a test. -/
theorem exists_filterBy_eq_ok_iff :
    (∃ scope, registry.filterBy name criteria = .ok scope) ↔
      ∀ criterion ∈ criteria.entries, ∀ test : CriterionTest,
        ¬ test.Fails registry.settings.emptyPolicy log name criterion := by
  rw [Registry.filterBy_of_size_le (recorded.knows_iff.mpr registered) within,
    recorded.exists_scopeOfAll_eq_ok_iff]
  simp only [Criterion.Faulty, not_exists]

end

end Recorded

/-- No test speaks of the name of the record type, -/
theorem Criteria.not_reports_unknownRecordType {policy : EmptyPolicy} {log : List Call}
    {name other : String} {criteria : Criteria} :
    ¬ criteria.Reports policy log name (.unknownRecordType other) := by
  rintro ⟨criterion, test, -, -, reported⟩
  cases test <;> cases reported

/-- and none of the number of criteria. -/
theorem Criteria.not_reports_tooManyCriteria {policy : EmptyPolicy} {log : List Call}
    {name : String} {criteria : Criteria} {count max : Nat} :
    ¬ criteria.Reports policy log name (.tooManyCriteria count max) := by
  rintro ⟨criterion, test, -, -, reported⟩
  cases test <;> cases reported

/-- **Why filtering is refused.** A name that was not registered is refused as such, and only such a
name. Otherwise too many criteria are refused as such, and only they, with their number and the
maximum. Otherwise an error reports the first criterion that fails a test, with the first test that
it fails, and if none fails any there is an answer. -/
theorem Registry.filterBy_refusals (settings : Settings) (calls : List Call) (name : String)
    (criteria : Criteria) :
    let registry := (empty settings).run calls
    let log := (empty settings).accepted calls
    (∀ other, registry.filterBy name criteria = .error (.unknownRecordType other) ↔
      ¬ Registered log name ∧ other = name) ∧
    (Registered log name →
      (∀ count max, registry.filterBy name criteria = .error (.tooManyCriteria count max) ↔
        settings.maxCriteria < criteria.size ∧ count = criteria.size ∧
          max = settings.maxCriteria) ∧
      (criteria.size ≤ settings.maxCriteria →
        (∀ error, registry.filterBy name criteria = .error error ↔
          criteria.Reports settings.emptyPolicy log name error) ∧
        ((∃ scope, registry.filterBy name criteria = .ok scope) ↔
          ∀ criterion ∈ criteria.entries, ∀ test : CriterionTest,
            ¬ test.Fails settings.emptyPolicy log name criterion))) := by
  intro registry log
  have recorded : Recorded log registry := recorded_run settings calls
  have same : registry.settings = settings := settings_run settings calls
  by_cases registered : Registered log name
  · by_cases many : settings.maxCriteria < criteria.size
    · have known := recorded.knows_iff.mpr registered
      rw [filterBy_of_lt_size known (same.symm ▸ many), same]
      refine ⟨by simp [registered], fun _ => ⟨by simp [many, eq_comm], fun within => ?_⟩⟩
      exact absurd many (Nat.not_lt_of_le within)
    · have within : criteria.size ≤ registry.settings.maxCriteria :=
        same.symm ▸ Nat.le_of_not_lt many
      have refused (error : FilterError) : registry.filterBy name criteria = .error error ↔
          criteria.Reports settings.emptyPolicy log name error :=
        same ▸ recorded.filterBy_eq_error_iff registered within
      have answered := recorded.exists_filterBy_eq_ok_iff registered within
      rw [same] at answered
      refine ⟨fun other => ?_, fun _ => ⟨fun count max => ?_, fun _ => ⟨refused, answered⟩⟩⟩
      · simp [refused, Criteria.not_reports_unknownRecordType, registered]
      · simp [refused, Criteria.not_reports_tooManyCriteria, many]
  · have unknown := Bool.eq_false_iff.mpr (mt recorded.knows_iff.mp registered)
    rw [filterBy_of_unknown unknown]
    simp [registered, eq_comm]

/-- A criterion that passes, one that fails the third test, and one that fails the second. -/
def probing : Criteria := .many [
  some ⟨"first_Name", "starts_with", .single (.text "Jo")⟩,
  none,
  some ⟨"badge", "LIKE", .list []⟩,
  some ⟨"SSN", "is", .single (.integer 1)⟩]

/-- A criterion by itself, which fails the second test and the last. -/
def prying : Criteria := .one ⟨"SSN", "contains_all_of", .single (.text " ")⟩

theorem Registry.filterBy_refusals_probing :
    Registered ((empty .default).accepted staffing) "Employee" ∧
    probing.size ≤ Settings.default.maxCriteria ∧
    ((empty .default).run staffing).filterBy "Employee" probing = .error (.unknownOperator "LIKE") ∧
    probing.Reports .reject ((empty .default).accepted staffing) "Employee"
      (.unknownOperator "LIKE") ∧
    prying.size ≤ Settings.default.maxCriteria ∧
    ((empty .default).run staffing).filterBy "Employee" prying =
      .error (.illegalAttributeAccess "SSN") ∧
    prying.Reports .reject ((empty .default).accepted staffing) "Employee"
      (.illegalAttributeAccess "SSN") ∧
    ¬ Registered ((empty .default).accepted staffing) "Manager" := by
  have registered : Registered ((empty .default).accepted staffing) "Employee" :=
    ⟨["Salary"], some "Person", by decide +kernel⟩
  have few : probing.size ≤ Settings.default.maxCriteria := by decide +kernel
  have refused : ((empty .default).run staffing).filterBy "Employee" probing =
      .error (.unknownOperator "LIKE") := by decide +kernel
  have few' : prying.size ≤ Settings.default.maxCriteria := by decide +kernel
  have refused' : ((empty .default).run staffing).filterBy "Employee" prying =
      .error (.illegalAttributeAccess "SSN") := by decide +kernel
  have unknown : ((empty .default).run staffing).filterBy "Manager" .unrestricted =
      .error (.unknownRecordType "Manager") := by decide +kernel
  have list := filterBy_refusals .default staffing "Employee" probing
  have alone := filterBy_refusals .default staffing "Employee" prying
  have manager := filterBy_refusals .default staffing "Manager" .unrestricted
  exact ⟨registered, few, refused, (((list.2 registered).2 few).1 _).mp refused,
    few', refused', (((alone.2 registered).2 few').1 _).mp refused',
    ((manager.1 _).mp unknown).1⟩

end AttributeFilter
