/-
**The whitelist holds over whole histories.**

However a registry came about, what it lets through keeps to the declarations that were accepted: a
condition names the column of its criterion and no other, the column is a plain identifier, and if
it is a real column of the record type then the declaration in effect lists it.

* `Criterion.Compiles.exists_reading` — a condition names no column but that of its criterion.
* **`Registry.filterBy_whitelisted`** — every condition of an answer is admitted by the history.
-/

import AttributeFilter.Proofs.Registry.Answer
import AttributeFilter.Proofs.Registry.History
import AttributeFilter.Proofs.Sql.Conjunct

namespace AttributeFilter

/-! ### The column of a condition -/

theorem Disjunction.columns_any (first : Conjunction) (rest : List Conjunction) :
    (any first rest).columns = (first :: rest).flatMap Conjunction.columns := by
  induction rest generalizing first with
  | nil => simp [any, columns]
  | cons next rest ih => simp [any, columns, ih]

theorem Conjunction.columns_all (first : Factor) (rest : List Factor) :
    (all first rest).columns = (first :: rest).flatMap Factor.columns := by
  induction rest generalizing first with
  | nil => simp [all, columns]
  | cons next rest ih => simp [all, columns, ih]

/-- A repeated clause names no column but that of the clause. -/
theorem NamedScope.columns_reading {clause : Clause} (valid : clause.Valid) (others : Nat)
    (scope : NamedScope) {column : String}
    (named : column ∈ (scope.reading (.clause clause valid) others).columns) :
    column ∈ clause.columns := by
  cases scope with
  | comparing operator =>
    rw [reading, Disjunction.columns_any, ← List.replicate_succ] at named
    obtain ⟨term, member, inside⟩ := List.mem_flatMap.mp named
    obtain rfl := List.eq_of_mem_replicate member
    exact inside
  | containingAll =>
    rw [reading, Disjunction.columns, Conjunction.columns_all, ← List.replicate_succ] at named
    obtain ⟨factor, member, inside⟩ := List.mem_flatMap.mp named
    obtain rfl := List.eq_of_mem_replicate member
    exact inside

/-- **A condition has a reading, and it names no column but that of its criterion.** -/
theorem Criterion.Compiles.exists_reading {criterion : Criterion} {options : CompileOptions}
    {condition : Condition} (compiles : criterion.Compiles options condition) :
    ∃ reading : Disjunction, reading.text = condition.expression.toList ∧
      ∀ column ∈ reading.columns, column = criterion.column := by
  obtain ⟨scope, found, plain, compiled⟩ := compiles
  cases compiled with
  | without none =>
    refine ⟨.last (.last (.clause .never trivial)), rfl, ?_⟩
    intro column named
    cases named
  | @comparing first rest shape =>
    have valid := NamedScope.clause_valid found plain options
    refine ⟨scope.reading (.clause _ valid) rest.length, ?_, ?_⟩
    · rw [List.map_cons, ← List.length_map (scope.bound options)]
      exact NamedScope.text_reading scope valid _ _
    · intro column named
      have own := NamedScope.columns_reading valid _ scope named
      cases scope <;> exact List.mem_singleton.mp own

/-! ### Plain identifiers -/

/-- A letter A to Z in either case. -/
def Letter (c : Char) : Prop := ('A' ≤ c ∧ c ≤ 'Z') ∨ ('a' ≤ c ∧ c ≤ 'z')

/-- A letter or an underscore, followed by letters, digits and underscores. -/
def PlainIdentifier (text : String) : Prop :=
  ∃ first rest, text.toList = first :: rest ∧ (Letter first ∨ first = '_') ∧
    ∀ c ∈ rest, Letter c ∨ ('0' ≤ c ∧ c ≤ '9') ∨ c = '_'

theorem letter_of_isAlpha {c : Char} (alpha : c.isAlpha = true) : Letter c := by
  rcases Bool.or_eq_true_iff.mp alpha with upper | lower
  · exact .inl (of_decide_eq_true upper)
  · exact .inr ((Bool.and_eq_true_iff.mp lower).imp of_decide_eq_true of_decide_eq_true)

theorem plainIdentifier_of_isIdentifier {text : String} (plain : isIdentifier text = true) :
    PlainIdentifier text := by
  unfold isIdentifier at plain
  cases shape : text.toList with
  | nil => simp [shape, isIdentifierText] at plain
  | cons first rest =>
    rw [shape, isIdentifierText, Bool.and_eq_true, List.all_eq_true] at plain
    obtain ⟨begins, continues⟩ := plain
    refine ⟨first, rest, shape, ?_, fun c member => ?_⟩
    · rw [beginsIdentifier, Bool.or_eq_true, beq_iff_eq] at begins
      exact begins.imp_left letter_of_isAlpha
    · have inside := continues c member
      rw [continuesIdentifier, Char.isAlphanum, Bool.or_eq_true, Bool.or_eq_true, beq_iff_eq,
        or_assoc] at inside
      exact inside.imp letter_of_isAlpha
        (Or.imp_left fun digit => by simpa [Char.isDigit, Char.le_def] using digit)

theorem isAlpha_of_letter {c : Char} (letter : Letter c) : c.isAlpha = true := by
  rcases letter with upper | lower
  · exact Bool.or_eq_true_iff.mpr (.inl (decide_eq_true upper))
  · exact Bool.or_eq_true_iff.mpr
      (.inr (Bool.and_eq_true_iff.mpr (lower.imp decide_eq_true decide_eq_true)))

/-- **The spelling of a plain identifier is checked exactly.** -/
theorem isIdentifier_iff {text : String} : isIdentifier text = true ↔ PlainIdentifier text := by
  refine ⟨plainIdentifier_of_isIdentifier, ?_⟩
  rintro ⟨first, rest, shape, begins, continues⟩
  rw [isIdentifier, shape, isIdentifierText, Bool.and_eq_true, List.all_eq_true]
  refine ⟨?_, fun c member => ?_⟩
  · rw [beginsIdentifier, Bool.or_eq_true, beq_iff_eq]
    exact begins.imp_left isAlpha_of_letter
  · rw [continuesIdentifier, Char.isAlphanum, Bool.or_eq_true, Bool.or_eq_true, beq_iff_eq,
      or_assoc]
    exact (continues c member).imp isAlpha_of_letter
      (Or.imp_left fun digit => by simpa [Char.isDigit, Char.le_def] using digit)

/-! ### What is let through -/

/-- The declaration in effect for the record type lists the column, in whatever case. -/
def Listed (log : List Call) (name column : String) : Prop :=
  ∃ attributes, InEffect log name attributes ∧ ∃ listed ∈ attributes, SameName listed column

/-- The condition keeps to the history: it can be read, every reading names only the column of the
criterion, the column is a plain identifier, and the declaration in effect lists it if it is real.
Where no declaration was accepted along the lineage, it is not real. -/
structure Admitted (log : List Call) (name : String) (criterion : Criterion)
    (condition : Condition) : Prop where
  readable : ∃ reading : Disjunction, reading.text = condition.expression.toList
  column : ∀ reading : Disjunction, reading.text = condition.expression.toList →
    ∀ column ∈ reading.columns, column = criterion.column
  plain : PlainIdentifier criterion.column
  listed : RealColumn log name criterion.column →
    ∃ attributes, InEffect log name attributes ∧
      ∃ listed ∈ attributes, SameName listed criterion.column
  undeclared : (∀ ancestor attributes, Descends log name ancestor →
    Call.declare ancestor attributes ∉ log) → ¬ RealColumn log name criterion.column

/-- **The whitelist of a registry is the declaration in effect.** -/
theorem Recorded.isWhitelisted_iff {log : List Call} {registry : Registry} {name column : String}
    (recorded : Recorded log registry) :
    registry.isWhitelisted name column = true ↔ Listed log name column := by
  rw [Registry.isWhitelisted]
  constructor
  · intro whitelisted
    cases inForce : registry.filterable? name with
    | none => simp [inForce] at whitelisted
    | some set =>
      rw [inForce] at whitelisted
      obtain ⟨attributes, effect, rfl⟩ := recorded.inEffect inForce
      exact ⟨attributes, effect, AttributeSet.contains_ofList_iff.mp whitelisted⟩
  · rintro ⟨attributes, effect, listed⟩
    rw [recorded.filterable?_of_inEffect effect]
    exact AttributeSet.contains_ofList_iff.mpr listed

/-- **A real column that passes the guard is listed** by the declaration in effect. -/
theorem Recorded.listed_of_guardAccess {log : List Call} {registry : Registry}
    {name column : String} (recorded : Recorded log registry)
    (passed : registry.guardAccess name column = .ok ()) (real : RealColumn log name column) :
    Listed log name column :=
  recorded.isWhitelisted_iff.mp
    ((Registry.guardAccess_eq_ok_iff.mp passed).2 (recorded.hasColumn real))

/-- **Every condition of an answer is admitted by the history**, one for each criterion and in
order, whatever calls led to the registry. -/
theorem Registry.filterBy_whitelisted {settings : Settings} {calls : List Call} {name : String}
    {criteria : Criteria} {scope : Scope}
    (answered : ((empty settings).run calls).filterBy name criteria = .ok scope) :
    List.Forall₂ (Admitted ((empty settings).accepted calls) name) criteria.entries
      scope.conditions := by
  have recorded := recorded_run settings calls
  refine (filterBy_eq_ok_iff.mp answered).2.2.imp fun criterion condition both => ?_
  obtain ⟨passed, compiles⟩ := both
  obtain ⟨reading, text, named⟩ := compiles.exists_reading
  have listed := recorded.listed_of_guardAccess passed
  refine ⟨⟨reading, text⟩, ?_, ?_, listed, ?_⟩
  · intro other same
    obtain rfl := Disjunction.text_injective (same.trans text.symm)
    exact named
  · exact plainIdentifier_of_isIdentifier (guardAccess_eq_ok_iff.mp passed).1
  · intro undeclared real
    obtain ⟨attributes, effect, -⟩ := listed real
    obtain ⟨ancestor, descends, given⟩ := effect.declared
    exact undeclared ancestor attributes descends given

/-- Employees inherit a column from people. Of the calls, the first is refused because its parent is
not known yet, and the last has no effect because a declaration is in force already. -/
def staffing : List Call := [
  .register "Employee" ["Salary"] (some "Person"),
  .register "Person" ["First_Name", "ssn"] none,
  .register "Employee" ["Salary"] (some "Person"),
  .declare "Person" ["FIRST_NAME"],
  .declare "Employee" ["salary"]]

theorem Registry.filterBy_whitelisted_staffing :
    ((empty .default).run staffing).filterBy "Employee"
        (.many [some ⟨"first_Name", "starts_with", .single (.text "Jo")⟩, none]) =
      .ok ⟨[⟨"lower(first_Name) LIKE ?", ["jo%"]⟩]⟩ ∧
    List.Forall₂ (Admitted ((empty .default).accepted staffing) "Employee")
      [⟨"first_Name", "starts_with", .single (.text "Jo")⟩]
      [⟨"lower(first_Name) LIKE ?", ["jo%"]⟩] ∧
    ((empty .default).run staffing).filterBy "Person"
        (.one ⟨"FIRST_name", "is_not", .list [.text "Jo", .integer 7]⟩) =
      .ok ⟨[⟨"lower(FIRST_name) <> ? OR lower(FIRST_name) <> ?", ["jo", "7"]⟩]⟩ ∧
    List.Forall₂ (Admitted ((empty .default).accepted staffing) "Person")
      [⟨"FIRST_name", "is_not", .list [.text "Jo", .integer 7]⟩]
      [⟨"lower(FIRST_name) <> ? OR lower(FIRST_name) <> ?", ["jo", "7"]⟩] := by
  have listed : ((empty .default).run staffing).filterBy "Employee"
      (.many [some ⟨"first_Name", "starts_with", .single (.text "Jo")⟩, none]) =
        .ok ⟨[⟨"lower(first_Name) LIKE ?", ["jo%"]⟩]⟩ := by decide +kernel
  have alone : ((empty .default).run staffing).filterBy "Person"
      (.one ⟨"FIRST_name", "is_not", .list [.text "Jo", .integer 7]⟩) =
        .ok ⟨[⟨"lower(FIRST_name) <> ? OR lower(FIRST_name) <> ?", ["jo", "7"]⟩]⟩ := by
    decide +kernel
  exact ⟨listed, filterBy_whitelisted listed, alone, filterBy_whitelisted alone⟩

end AttributeFilter
