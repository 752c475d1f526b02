/-
**The grouping of a composed scope.**

A scope that is composed from the answers of registries is written as one SQL text. Read with AND
binding tighter than OR, the text says what the criteria ask for, in order: under a table operator
that one of the clauses of the criterion holds, under the operator for all tokens that each of them
does, and nothing holds for a criterion without texts.

Every clause has one mark, and the marks are paired with the bound values from left to right. What
holds of a clause may depend on the place of its mark, on the clause and on the value bound there.

* `Request.exists_factor` — the conjunct of one criterion is a factor that says what it asks for.
* **`Answers.grouping`** — the text of a composed scope has one reading, and it says what all its
  criteria ask for.
-/

import AttributeFilter.Proofs.Registry.Answer
import AttributeFilter.Proofs.Sql.Conjunct

namespace AttributeFilter

/-! ### What criteria ask for -/

/-- Which clauses hold, by the place of the mark, the clause, and the value bound at the mark. -/
abbrev Assignment := Nat → Clause → Option String → Bool

/-- The number of texts that a request binds. -/
def Request.count (request : Request) : Nat :=
  match NamedScope.find? request.criterion.operator with
  | none => 0
  | some scope => (scope.texts request.criterion.operand).length

/-- What a request asks for, when the first of its marks has the given index: any of its clauses
under a table operator; all of them, and at least one, under the operator for all tokens. -/
def Request.holds (truth : Assignment) (index : Nat) (request : Request) : Bool :=
  match NamedScope.find? request.criterion.operator with
  | none => false
  | some scope =>
    let clause := scope.clause request.criterion.column request.options
    let occurrences := (scope.texts request.criterion.operand).zipIdx index
    let clauseHolds := fun occurrence : String × Nat =>
      truth occurrence.2 clause (some (scope.bound request.options occurrence.1))
    match scope with
    | .comparing _ => occurrences.any clauseHolds
    | .containingAll => !occurrences.isEmpty && occurrences.all clauseHolds

/-- What requests ask for together, their marks numbered on from the given index. -/
def holdAll (truth : Assignment) (index : Nat) : List Request → Bool
  | [] => true
  | request :: rest => request.holds truth index && holdAll truth (index + request.count) rest

/-! ### Repeated clauses -/

theorem NamedScope.marks_clause (scope : NamedScope) (column : String) (options : CompileOptions) :
    (scope.clause column options).marks = 1 := by
  cases scope <;> rfl

theorem Clause.eval_of_marks {clause : Clause} (marked : clause.marks = 1)
    (truth : Nat → Clause → Bool) (index : Nat) : clause.eval truth index = truth index clause := by
  cases clause with
  | compares => rfl
  | contains => rfl
  | never => simp [Clause.marks] at marked

section

variable {clause : Clause} (valid : clause.Valid) (marked : clause.marks = 1)
  (truth : Nat → Clause → Bool)

include marked

theorem Disjunction.marks_any_replicate (others : Nat) :
    (Disjunction.any (.last (.clause clause valid))
      (List.replicate others (.last (.clause clause valid)))).marks = others + 1 := by
  induction others with
  | zero => exact marked
  | succ others ih =>
    rw [List.replicate_succ, any, marks, ih]
    simp [Conjunction.marks, Factor.marks, marked, Nat.add_comm]

theorem Conjunction.marks_all_replicate (others : Nat) :
    (Conjunction.all (.clause clause valid)
      (List.replicate others (.clause clause valid))).marks = others + 1 := by
  induction others with
  | zero => exact marked
  | succ others ih =>
    rw [List.replicate_succ, all, marks, ih]
    simp [Factor.marks, marked, Nat.add_comm]

/-- A clause repeated with OR holds where one of its occurrences does. -/
theorem Disjunction.eval_any_replicate (others index : Nat) :
    (Disjunction.any (.last (.clause clause valid))
      (List.replicate others (.last (.clause clause valid)))).eval truth index =
      (List.range' index (others + 1)).any fun place => truth place clause := by
  induction others generalizing index with
  | zero =>
    simp [any, eval, Conjunction.eval, Factor.eval, Clause.eval_of_marks marked]
  | succ others ih =>
    rw [List.replicate_succ, any, eval, ih]
    simp only [Conjunction.eval, Factor.eval, Clause.eval_of_marks marked, Conjunction.marks,
      Factor.marks, marked]
    rfl

/-- A clause repeated with AND holds where all its occurrences do. -/
theorem Conjunction.eval_all_replicate (others index : Nat) :
    (Conjunction.all (.clause clause valid)
      (List.replicate others (.clause clause valid))).eval truth index =
      (List.range' index (others + 1)).all fun place => truth place clause := by
  induction others generalizing index with
  | zero => simp [all, eval, Factor.eval, Clause.eval_of_marks marked]
  | succ others ih =>
    rw [List.replicate_succ, all, eval, ih]
    simp only [Factor.eval, Clause.eval_of_marks marked, Factor.marks, marked]
    rfl

/-- The factor of a repeated clause has a mark for every occurrence. -/
theorem NamedScope.marks_factor (scope : NamedScope) (others : Nat) :
    (scope.factor (.clause clause valid) others).marks = others + 1 := by
  cases others with
  | zero => exact marked
  | succ others =>
    rw [factor, if_neg (Nat.succ_ne_zero others), Factor.marks]
    cases scope with
    | comparing operator => exact Disjunction.marks_any_replicate valid marked _
    | containingAll => exact Conjunction.marks_all_replicate valid marked _

/-- Grouping a repeated clause does not change what it says. -/
theorem NamedScope.eval_factor (scope : NamedScope) (others index : Nat) :
    (scope.factor (.clause clause valid) others).eval truth index =
      match scope with
      | .comparing _ => (List.range' index (others + 1)).any fun place => truth place clause
      | .containingAll => (List.range' index (others + 1)).all fun place => truth place clause := by
  have grouped : (scope.factor (.clause clause valid) others).eval truth index =
      (scope.reading (.clause clause valid) others).eval truth index := by
    cases others with
    | zero => cases scope <;> rfl
    | succ others => rfl
  rw [grouped]
  cases scope with
  | comparing operator => exact Disjunction.eval_any_replicate valid marked truth _ _
  | containingAll => exact Conjunction.eval_all_replicate valid marked truth _ _

end

/-! ### One criterion -/

/-- The marks of texts, with what is bound at them among values that come before and after. -/
theorem range'_map_getElem? (bound : String → String) (texts before after : List String) :
    (List.range' before.length texts.length).map
        (fun place => (place, (before ++ (texts.map bound ++ after))[place]?)) =
      (texts.zipIdx before.length).map fun occurrence =>
        (occurrence.2, some (bound occurrence.1)) := by
  induction texts generalizing before with
  | nil => rfl
  | cons text rest ih =>
    have later := ih (before ++ [bound text])
    rw [List.length_append, List.append_assoc] at later
    rw [List.length_cons, List.range'_succ, List.map_cons, List.zipIdx_cons, List.map_cons]
    exact congrArg₂ List.cons (by simp) later

/-- **The conjunct of a request is a factor that says what the request asks for.** -/
theorem Request.exists_factor {request : Request} {condition : Condition}
    (compiles : request.criterion.Compiles request.options condition) :
    ∃ factor : Factor, factor.text = (Scope.conjunct condition).toList ∧
      factor.marks = condition.boundValues.length ∧
      request.count = condition.boundValues.length ∧
      ∀ (truth : Assignment) (before after : List String),
        factor.eval (fun place clause =>
          truth place clause (before ++ (condition.boundValues ++ after))[place]?) before.length =
            request.holds truth before.length := by
  obtain ⟨scope, found, plain, compiled⟩ := compiles
  cases compiled with
  | without none =>
    refine ⟨.clause .never trivial, rfl, rfl, by simp [count, found, none], ?_⟩
    intro truth before after
    cases scope <;> simp [holds, found, none, Factor.eval, Clause.eval]
  | @comparing first rest shape =>
    have valid := NamedScope.clause_valid found plain request.options
    have marked := scope.marks_clause request.criterion.column request.options
    refine ⟨scope.factor (.clause _ valid) rest.length, ?_, ?_, ?_, ?_⟩
    · rw [List.map_cons, ← List.length_map (scope.bound request.options)]
      exact NamedScope.text_factor scope valid _ _
    · rw [NamedScope.marks_factor valid marked]
      simp [Condition.ofClauses]
    · simp [count, found, shape, Condition.ofClauses]
    · intro truth before after
      let clause := scope.clause request.criterion.column request.options
      have places := range'_map_getElem? (scope.bound request.options) (first :: rest) before after
      have someHolds := congrArg (List.any · fun place => truth place.1 clause place.2) places
      have allHold := congrArg (List.all · fun place => truth place.1 clause place.2) places
      rw [NamedScope.eval_factor valid marked, holds, found]
      cases scope with
      | comparing operator =>
        simpa [shape, clause, Condition.ofClauses, List.any_map, Function.comp_def] using someHolds
      | containingAll =>
        simpa [shape, clause, Condition.ofClauses, List.all_map, Function.comp_def] using allHold

/-! ### All criteria -/

/-- **The conjunction of conditions is read as what their requests ask for together.** The marks go
on from those of the conditions before it. -/
theorem exists_conjunction {requests : List Request} {conditions : List Condition}
    (compiles : List.Forall₂
      (fun request condition => request.criterion.Compiles request.options condition)
      requests conditions)
    (restricted : conditions ≠ []) :
    ∃ conjunction : Conjunction, conjunction.text = (Scope.conjunction conditions).toList ∧
      conjunction.marks = (conditions.flatMap Condition.boundValues).length ∧
      ∀ (truth : Assignment) (before : List String),
        conjunction.eval (fun place clause =>
          truth place clause (before ++ conditions.flatMap Condition.boundValues)[place]?)
            before.length = holdAll truth before.length requests := by
  induction compiles with
  | nil => exact absurd rfl restricted
  | @cons request condition requests conditions first others ih =>
    obtain ⟨factor, text, marks, count, meaning⟩ := Request.exists_factor first
    -- No AND follows the last condition, and a conjunction has at least one factor.
    cases others with
    | nil =>
      refine ⟨.last factor, ?_, by simpa [Conjunction.marks] using marks, ?_⟩
      · simpa [Conjunction.text, Scope.conjunction, joinWith] using text
      · intro truth before
        simpa [Conjunction.eval, holdAll] using meaning truth before []
    | @cons next condition' requests conditions second others =>
      obtain ⟨rest, text', marks', meaning'⟩ := ih (List.cons_ne_nil _ _)
      refine ⟨.and factor rest, ?_, ?_, ?_⟩
      · rw [Conjunction.text, text, text']
        simp [Scope.conjunction, joinWith]
      · simp only [Conjunction.marks, marks, marks', List.flatMap_cons, List.length_append]
      · intro truth before
        have here := meaning truth before
          ((condition' :: conditions).flatMap Condition.boundValues)
        have later := meaning' truth (before ++ condition.boundValues)
        rw [List.length_append, List.append_assoc, ← marks] at later
        rw [Conjunction.eval, holdAll, List.flatMap_cons, here, later, count, marks]

/-- **The text of a composed scope has exactly one reading, which says what its criteria ask
for.** The reading has one mark for every bound value, in their order. -/
theorem Answers.grouping {scope : Scope} {requests : List Request}
    (answers : Answers scope requests) (restricted : scope.isUnrestricted = false) :
    ∃ clause reading, scope.whereClause? = some clause ∧
      Disjunction.text reading = clause.toList ∧
      (∀ other : Disjunction, other.text = clause.toList → other = reading) ∧
      reading.marks = scope.boundValues.length ∧
      ∀ truth : Assignment,
        reading.eval (fun place clause => truth place clause scope.boundValues[place]?) 0 =
          holdAll truth 0 requests := by
  have nonempty : scope.conditions ≠ [] := by
    simpa [Scope.isUnrestricted] using restricted
  obtain ⟨conjunction, text, marks, meaning⟩ := exists_conjunction answers.compiles nonempty
  refine ⟨Scope.conjunction scope.conditions, .last conjunction, ?_, text, ?_, marks, ?_⟩
  · rw [Scope.whereClause?, restricted]
    rfl
  · intro other same
    exact Disjunction.text_injective (same.trans text.symm)
  · intro truth
    exact meaning truth []

/-- People with a name and tags, who may be filtered by both. -/
def people : Registry :=
  ⟨⟨50, 64 * 1024, .matchNone, true⟩, [RecordType.ofColumns "Person" ["name", "tags"] none],
    [("Person", AttributeSet.ofList ["name", "tags"])]⟩

/-- Two tags and no name at all, -/
def taggedPeople : Criteria :=
  .many [some ⟨"tags", "contains_all_of", .single (.text "red blue")⟩, none,
    some ⟨"name", "contains_all_of", .list []⟩]

/-- with the answer to them. -/
def taggedScope : Scope :=
  ⟨[⟨"tags LIKE ? ESCAPE '\\' AND tags LIKE ? ESCAPE '\\'", ["%red%", "%blue%"]⟩, ⟨"1=0", []⟩]⟩

/-- Two alternatives for an attribute that is called like a separator, -/
def alternativePeople : Criteria := .one ⟨"OR", "is", .list [.text "x OR y", .boolean true]⟩

/-- with the answer to them. -/
def alternativeScope : Scope := ⟨[⟨"lower(OR) = ? OR lower(OR) = ?", ["x or y", "true"]⟩]⟩

theorem Answers.grouping_people :
    Answers (taggedScope.compose alternativeScope)
        (people.requests taggedPeople ++ people.requests alternativePeople) ∧
      (taggedScope.compose alternativeScope).isUnrestricted = false ∧
      ∃ clause reading, (taggedScope.compose alternativeScope).whereClause? = some clause ∧
        Disjunction.text reading = clause.toList ∧
        (∀ other : Disjunction, other.text = clause.toList → other = reading) ∧
        reading.marks = (taggedScope.compose alternativeScope).boundValues.length ∧
        ∀ truth : Assignment,
          reading.eval (fun place clause =>
            truth place clause (taggedScope.compose alternativeScope).boundValues[place]?) 0 =
              holdAll truth 0 (people.requests taggedPeople ++
                people.requests alternativePeople) := by
  have tagged : people.filterBy "Person" taggedPeople = .ok taggedScope := by decide +kernel
  have alternative : people.filterBy "Person" alternativePeople = .ok alternativeScope := by
    decide +kernel
  have answers := Answers.compose (.filtered tagged) (.filtered alternative)
  exact ⟨answers, rfl, Answers.grouping answers rfl⟩

end AttributeFilter
