/-
**The marks of a composed scope.**

A scope that is composed from the answers of registries has one mark for every value that it binds,
condition by condition. Written for a backend that numbers its values, it has the numbers from the
first index on in the order of the values, and nothing else in its text looks like one.

* `Answers.placeholderCount_eq` — a condition has as many marks as values.
* `Answers.numberable_whereClause` — so has the whole text, and it can be numbered.
* **`Answers.numbering`** — the numbered text, and what it has to do with the text that is not.
-/

import AttributeFilter.Proofs.Registry.Grouping
import AttributeFilter.Proofs.Sql.Composition
import AttributeFilter.Proofs.Sql.Numbering

namespace AttributeFilter

/-- Parentheses around a condition are no marks. -/
theorem Scope.count_conjunct (condition : Condition) :
    (Scope.conjunct condition).toList.count '?' = condition.placeholderCount := by
  rw [Scope.conjunct, Condition.placeholderCount]
  split
  · simp
  · rfl

/-- A backend that keeps the marks writes the text as it is. -/
theorem Scope.toSqlFrom?_sqlite (scope : Scope) (index : Nat) :
    scope.toSqlFrom? .sqlite index = scope.whereClause? := by
  have same : (fun clause : String => String.ofList (numberMarks .sqlite index clause.toList)) =
      id := by
    funext clause
    rw [numberMarks_sqlite, String.ofList_toList]
    rfl
  rw [toSqlFrom?, same, Option.map_id, id]

/-- **A condition has a mark for every value that it binds.** -/
theorem Criterion.Compiles.placeholderCount_eq {request : Request} {condition : Condition}
    (compiles : request.criterion.Compiles request.options condition) :
    condition.placeholderCount = condition.boundValues.length := by
  obtain ⟨factor, text, marks, -⟩ := Request.exists_factor compiles
  rw [← Scope.count_conjunct, ← text, factor.count_text, marks]

namespace Answers

section

variable {scope : Scope} {requests : List Request} (answers : Answers scope requests)

include answers

/-- **Every condition has as many marks as values.** -/
theorem placeholderCount_eq :
    ∀ condition ∈ scope.conditions, condition.placeholderCount = condition.boundValues.length := by
  have compiles := answers.compiles
  clear answers
  generalize scope.conditions = conditions at compiles
  induction compiles with
  | nil => exact fun condition listed => absurd listed List.not_mem_nil
  | cons here _ ih => exact List.forall_mem_cons.mpr ⟨here.placeholderCount_eq, ih⟩

/-- **The text of a restricted scope has a mark for every bound value**, and can be numbered. -/
theorem numberable_whereClause {clause : String} (written : scope.whereClause? = some clause) :
    isNumberable clause.toList = true ∧
      clause.toList.count '?' = scope.boundValues.length := by
  obtain ⟨restricted, rfl⟩ := scope.whereClause?_eq_some_iff.mp written
  obtain ⟨conjunction, text, marks, -⟩ := exists_conjunction answers.compiles restricted
  rw [← text]
  have nothing : isNumberable [] = true := rfl
  have numberable := Conjunction.isNumberable_append nothing rfl conjunction
  rw [List.append_nil] at numberable
  exact ⟨numberable, conjunction.count_text.trans marks⟩

/-- **The marks of a composed scope.** Every condition has as many marks as values. A backend that
keeps the marks has the text itself; for one that numbers them the dollar signs of the text carry
the numbers from the given index on, one for every bound value, no mark is left, and without the
numbers the text is the other one. There is no text exactly where there is no condition. -/
theorem numbering :
    (∀ condition ∈ scope.conditions,
      condition.placeholderCount = condition.boundValues.length) ∧
    (∀ index sql, scope.toSqlFrom? .postgres index = some sql →
      dollarMarks sql.toList = (List.range' index scope.boundValues.length).map
        (fun number => ("$" ++ toString number).toList) ∧
      '?' ∉ sql.toList ∧
      scope.whereClause? = some (String.ofList (eraseNumbers false sql.toList))) ∧
    (∀ index, scope.toSqlFrom? .sqlite index = scope.whereClause?) ∧
    (scope.whereClause? = none ↔ scope.conditions = []) ∧
    (∀ backend index, scope.toSqlFrom? backend index = none ↔ scope.conditions = []) := by
  refine ⟨answers.placeholderCount_eq, ?_, scope.toSqlFrom?_sqlite,
    scope.whereClause?_eq_none_iff, scope.toSqlFrom?_eq_none_iff⟩
  intro index sql rendered
  obtain ⟨clause, written, rfl⟩ := Option.map_eq_some_iff.mp rendered
  obtain ⟨numberable, count⟩ := answers.numberable_whereClause written
  rw [String.toList_ofList]
  refine ⟨?_, Scope.not_mem_numberMarks index _, ?_⟩
  · rw [Scope.dollarMarks_numberMarks numberable, count]
    exact List.map_congr_left fun number _ => (toList_placeholder_postgres number).symm
  · rw [Scope.eraseNumbers_numberMarks numberable, String.ofList_toList, written]

end

/-- Tags and alternatives that people were asked for, one after the other. -/
def peopleScope : Scope := taggedScope.compose alternativeScope

theorem answers_peopleScope :
    Answers peopleScope (people.requests taggedPeople ++ people.requests alternativePeople) := by
  have tagged : people.filterBy "Person" taggedPeople = .ok taggedScope := by decide +kernel
  have alternative : people.filterBy "Person" alternativePeople = .ok alternativeScope := by
    decide +kernel
  exact .compose (.filtered tagged) (.filtered alternative)

/-- Their text behind two values that are bound already. -/
def peopleSql : String :=
  "(tags LIKE $3 ESCAPE '\\' AND tags LIKE $4 ESCAPE '\\') AND 1=0 AND " ++
    "(lower(OR) = $5 OR lower(OR) = $6)"

theorem numbering_people :
    peopleScope.toSqlFrom? .postgres 3 = some peopleSql ∧
      dollarMarks peopleSql.toList = ["$3", "$4", "$5", "$6"].map String.toList ∧
      '?' ∉ peopleSql.toList ∧
      peopleScope.whereClause? = some (String.ofList (eraseNumbers false peopleSql.toList)) ∧
      (∀ index, peopleScope.toSqlFrom? .sqlite index = peopleScope.whereClause?) ∧
      ∀ condition ∈ peopleScope.conditions,
        condition.placeholderCount = condition.boundValues.length := by
  have rendered : peopleScope.toSqlFrom? .postgres 3 = some peopleSql := by decide +kernel
  obtain ⟨counts, numbered, kept, -⟩ := Answers.numbering answers_peopleScope
  obtain ⟨marks, unmarked, erased⟩ := numbered 3 peopleSql rendered
  exact ⟨rendered, marks, unmarked, erased, kept, counts⟩

end Answers

end AttributeFilter
