/-
**What a named scope compiles to.**

The two ways of compiling — the rows of the operator table, and the operator that asks for all
tokens — are one recipe with different parts: the texts that are bound, the form in which they are
bound, the clause that is repeated for every one of them, and the separator between the clauses.

* `NamedScope.build_eq` — the recipe: a plain identifier is required, and the rest is
  `NamedScope.condition`.
* `NamedScope.Compiles` — what a condition of the recipe looks like, with and without texts.
* `NamedScope.clause_valid` — the clause is one of the grammar.
-/

import AttributeFilter.Proofs.Sql.Reading
import AttributeFilter.Registry.NamedScope

namespace AttributeFilter

namespace NamedScope

/-! ### The parts of the recipe -/

/-- The texts that are bound, before they are put into their form. -/
def texts : NamedScope → Operand → List String
  | .comparing _, operand => operand.texts
  | .containingAll, operand => Condition.tokens operand

/-- The form in which a text is bound. -/
def bound (options : CompileOptions) : NamedScope → String → String
  | .comparing operator => Condition.boundValue operator (options.escapeLike && operator.isPattern)
  | .containingAll => Condition.tokenPattern options.escapeLike

/-- The clause that compares the column with one text. -/
def clause (column : String) (options : CompileOptions) : NamedScope → Clause
  | .comparing operator =>
    .compares column operator.comparison (options.escapeLike && operator.isPattern)
  | .containingAll => .contains column options.escapeLike

/-- What stands between two clauses. -/
def separator : NamedScope → String
  | .comparing _ => " OR "
  | .containingAll => " AND "

/-- The condition of the recipe for a plain identifier. -/
def condition (scope : NamedScope) (column : String) (operand : Operand)
    (options : CompileOptions) : Except FilterError Condition :=
  match scope.texts operand with
  | [] => Condition.ofNoValues column options
  | texts =>
    .ok (Condition.ofClauses (String.ofList (scope.clause column options).text) scope.separator
      (texts.map (scope.bound options)))

/-! ### The recipe is followed -/

theorem ofList_compares_text (column : String) (operator : Operator) (escaped : Bool) :
    String.ofList (Clause.compares column operator.comparison escaped).text =
      Condition.clause column operator escaped := by
  apply String.toList_inj.mp
  cases escaped <;> simp [Clause.text_compares, Clause.ending, Condition.clause]

theorem ofList_contains_text (column : String) (escaped : Bool) :
    String.ofList (Clause.contains column escaped).text = Condition.tokenClause column escaped := by
  apply String.toList_inj.mp
  cases escaped <;> simp [Clause.text_contains, Clause.ending, Condition.tokenClause]

/-- **A scope is built by the recipe**, whichever operator it goes by. -/
theorem build_eq (scope : NamedScope) (column : String) (operand : Operand)
    (options : CompileOptions) :
    scope.build column operand options =
      if isIdentifier column then
        (scope.condition column operand options).map Scope.ofCondition
      else .error (.invalidColumn column) := by
  by_cases plain : isIdentifier column
  · rw [if_pos plain]
    cases scope with
    | comparing operator =>
      simp only [build, Condition.compile, Condition.requireIdentifier, plain, if_true, condition,
        texts, clause, separator, bound, ofList_compares_text]
      cases operand.texts <;> rfl
    | containingAll =>
      simp only [build, Condition.compileAllOf, Condition.requireIdentifier, plain, if_true,
        condition, texts, clause, separator, bound, ofList_contains_text]
      cases Condition.tokens operand <;> rfl
  · rw [if_neg plain]
    cases scope <;>
      simp only [build, Condition.compile, Condition.compileAllOf, Condition.requireIdentifier,
        plain] <;> rfl

/-- What a condition of the recipe looks like. -/
inductive Compiles (scope : NamedScope) (column : String) (operand : Operand)
    (options : CompileOptions) : Condition → Prop
  | without : scope.texts operand = [] → options.emptyPolicy = .matchNone →
      Compiles scope column operand options ⟨"1=0", []⟩
  | comparing {first : String} {rest : List String} : scope.texts operand = first :: rest →
      Compiles scope column operand options
        (Condition.ofClauses (String.ofList (scope.clause column options).text) scope.separator
          ((first :: rest).map (scope.bound options)))

theorem condition_eq_ok_iff {scope : NamedScope} {column : String} {operand : Operand}
    {options : CompileOptions} {condition : Condition} :
    scope.condition column operand options = .ok condition ↔
      scope.Compiles column operand options condition := by
  constructor
  · intro compiled
    unfold NamedScope.condition at compiled
    cases shape : scope.texts operand with
    | nil =>
      rw [shape] at compiled
      cases policy : options.emptyPolicy with
      | reject => simp [Condition.ofNoValues, policy] at compiled
      | matchNone =>
        simp only [Condition.ofNoValues, policy, Except.ok.injEq] at compiled
        exact compiled ▸ .without shape policy
    | cons first rest =>
      rw [shape] at compiled
      exact Except.ok.inj compiled ▸ .comparing shape
  · intro compiles
    unfold NamedScope.condition
    cases compiles with
    | without shape policy =>
      rw [shape]
      simp [Condition.ofNoValues, policy]
    | comparing shape => rw [shape]

/-! ### The clause is one of the grammar -/

/-- A scope is found under its own name. -/
theorem name_of_find? {name : String} {scope : NamedScope} (found : find? name = some scope) :
    scope.name = name := by
  unfold find? at found
  split at found
  · rename_i operator known
    cases found
    rw [Operator.find?] at known
    simpa [NamedScope.name] using List.find?_some known
  · split at found
    · rename_i same
      cases found
      exact same.symm
    · cases found

/-- Only the rows of the operator table compare. -/
theorem listed_of_find? {name : String} {operator : Operator}
    (found : find? name = some (.comparing operator)) : operator ∈ Operator.table := by
  unfold find? at found
  split at found
  · rename_i listed known
    cases found
    exact List.mem_of_find?_eq_some known
  · split at found <;> cases found

theorem clause_valid {name column : String} {scope : NamedScope} (found : find? name = some scope)
    (plain : isIdentifier column = true) (options : CompileOptions) :
    (scope.clause column options).Valid := by
  cases scope with
  | containingAll => exact plain
  | comparing operator => exact ⟨plain, List.mem_map_of_mem (listed_of_find? found)⟩

end NamedScope

end AttributeFilter
