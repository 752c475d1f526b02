/-
**Two ways of handing over a scope.**

A scope may be written for a backend, its values being bound separately, or it may be appended to a
query that is under construction, which binds the values while it writes their marks. Both go
through the text of the scope mark by mark, the one with a counter, the other with the list of
values.

* `Query.bindMark_eq` — the query builder marks a value as the backend does.
* `Query.fill_eq` — with a value for every mark, appending writes what numbering writes.
* **`Query.restrict_agrees`** — the query has the text of the written scope, and as many values as
  the text has marks; for a scope composed from answers these are all its values.
-/

import AttributeFilter.Proofs.Registry.Placeholders
import AttributeFilter.Sql.Query

namespace AttributeFilter

namespace Query

/-- **The marks agree**: the value bound last has the number of the values bound. -/
theorem bindMark_eq (bound : List String) (backend : Backend) :
    bindMark bound backend = backend.placeholder bound.length := by
  cases backend <;> rfl

theorem fill_mark (backend : Backend) (query : Query) (rest : List Char) (value : String)
    (others : List String) :
    query.fill backend ('?' :: rest) (value :: others) =
      (query.bind backend value).fill backend rest others := by
  rw [fill, if_pos rfl]

theorem fill_cons {c : Char} (noMark : c ≠ '?') (backend : Backend) (query : Query)
    (rest : List Char) (values : List String) :
    query.fill backend (c :: rest) values = (query.append (String.ofList [c])).fill backend rest
      values := by
  have pushed : query.text.push c = query.text ++ String.ofList [c] := by
    apply String.toList_inj.mp
    simp
  cases values <;> rw [fill, if_neg noMark, append, pushed]

/-- **Appending writes what numbering writes**, as long as there is a value for every mark. The
numbers go on from the values that the query binds already. -/
theorem fill_eq (backend : Backend) (query : Query) {text : List Char} {values : List String}
    (enough : text.count '?' ≤ values.length) :
    query.fill backend text values =
      ⟨query.text ++
          String.ofList (Scope.numberMarks backend (query.bound.length + 1) text),
        query.bound ++ values.take (text.count '?')⟩ := by
  induction text generalizing query values with
  | nil => simp [fill, Scope.numberMarks]
  | cons c rest ih =>
    by_cases mark : c = '?'
    · subst mark
      rw [List.count_cons_self] at enough ⊢
      cases values with
      | nil => exact absurd enough (Nat.not_succ_le_zero _)
      | cons value others =>
        rw [fill_mark, ih (query.bind backend value) (Nat.le_of_succ_le_succ enough)]
        simp [bind, bindMark_eq, Scope.numberMarks, String.ofList_append, String.append_assoc]
    · rw [List.count_cons_of_ne mark] at enough ⊢
      rw [fill_cons mark, ih _ enough, Scope.numberMarks_cons mark]
      simp only [append, String.append_assoc, ← String.ofList_append, List.singleton_append]

/-- A restricted query has grown. -/
theorem restrict_of_whereClause {scope : Scope} {clause : String}
    (written : scope.whereClause? = some clause)
    (enough : clause.toList.count '?' ≤ scope.boundValues.length) (backend : Backend)
    (opening : String) :
    (start opening).restrict backend scope =
      ⟨opening ++ " WHERE " ++ String.ofList (Scope.numberMarks backend 1 clause.toList),
        scope.boundValues.take (clause.toList.count '?')⟩ := by
  rw [restrict, written]
  exact fill_eq backend _ enough

/-- **The two ways of handing over a scope agree.** If there is a value for every mark of its text,
a scope that restricts something leaves behind a query with the written scope and the values of its
marks; one that restricts nothing leaves the query as it was, and so does no other. A scope composed
from answers has exactly one value for every mark, so all its values are bound. -/
theorem restrict_agrees (scope : Scope) (backend : Backend) (opening : String) :
    ((∀ clause, scope.whereClause? = some clause →
        clause.toList.count '?' ≤ scope.boundValues.length) →
      (scope.isUnrestricted = false →
        ∃ clause sql, scope.whereClause? = some clause ∧ scope.toSql? backend = some sql ∧
          (start opening).restrict backend scope =
            ⟨opening ++ " WHERE " ++ sql,
              scope.boundValues.take (clause.toList.count '?')⟩) ∧
      ((start opening).restrict backend scope = start opening ↔
        scope.toSql? backend = none)) ∧
    ∀ requests, Answers scope requests → ∀ clause, scope.whereClause? = some clause →
      clause.toList.count '?' = scope.boundValues.length := by
  refine ⟨fun enough => ?_, fun requests answers clause written =>
    (answers.numberable_whereClause written).2⟩
  cases written : scope.whereClause? with
  | none =>
    have nothing : scope.toSql? backend = none := by
      rw [Scope.toSql?, Scope.toSqlFrom?, written]
      rfl
    have empty := scope.isUnrestricted_iff.mpr (scope.whereClause?_eq_none_iff.mp written)
    refine ⟨fun restricted => absurd empty (by simp [restricted]), ?_⟩
    rw [restrict, written, nothing]
    simp
  | some clause =>
    have rendered : scope.toSql? backend =
        some (String.ofList (Scope.numberMarks backend 1 clause.toList)) := by
      rw [Scope.toSql?, Scope.toSqlFrom?, written]
      rfl
    have handed := restrict_of_whereClause written (enough clause written) backend opening
    refine ⟨fun _ => ⟨clause, _, rfl, rendered, handed⟩, ?_⟩
    rw [handed, rendered]
    constructor
    · intro untouched
      -- The word in front of the text alone makes the query longer.
      have lengths := congrArg String.length (congrArg Query.text untouched)
      have word : " WHERE ".length = 7 := by decide
      simp only [start, String.length_append, word] at lengths
      omega
    · intro nothing
      cases nothing

/-- Two conditions written by hand. The first has a mark and no value, the second makes up for it,
and one value more. -/
def unevenScope : Scope :=
  ⟨[⟨"a = ? OR b IS NULL", []⟩, ⟨"c = ?", ["1", "2", "3"]⟩]⟩

/-- For SQLite the marks stay, and for PostgreSQL they are numbered. Either way there are two of them,
so the last value is left over. -/
theorem restrict_agrees_uneven :
    (unevenScope.toSql? .sqlite = some "(a = ? OR b IS NULL) AND c = ?" ∧
      (start "SELECT id FROM t").restrict .sqlite unevenScope =
        ⟨"SELECT id FROM t" ++ " WHERE " ++ "(a = ? OR b IS NULL) AND c = ?", ["1", "2"]⟩) ∧
    (unevenScope.toSql? .postgres = some "(a = $1 OR b IS NULL) AND c = $2" ∧
      (start "SELECT id FROM t").restrict .postgres unevenScope =
        ⟨"SELECT id FROM t" ++ " WHERE " ++ "(a = $1 OR b IS NULL) AND c = $2", ["1", "2"]⟩) ∧
    (∀ backend, (start "SELECT id FROM t").restrict backend unevenScope ≠
      start "SELECT id FROM t") ∧
    ∀ clause, Answers.peopleScope.whereClause? = some clause → clause.toList.count '?' = 4 := by
  have text : unevenScope.whereClause? = some "(a = ? OR b IS NULL) AND c = ?" := by decide +kernel
  have enough : ∀ clause, unevenScope.whereClause? = some clause →
      clause.toList.count '?' ≤ unevenScope.boundValues.length := by
    intro clause found
    rw [← Option.some.inj (text.symm.trans found)]
    decide +kernel
  have sqlite : unevenScope.toSql? .sqlite = some "(a = ? OR b IS NULL) AND c = ?" := by
    decide +kernel
  have postgres : unevenScope.toSql? .postgres = some "(a = $1 OR b IS NULL) AND c = $2" := by
    decide +kernel
  have agreed {backend : Backend} {sql : String} (written : unevenScope.toSql? backend = some sql) :
      (start "SELECT id FROM t").restrict backend unevenScope =
        ⟨"SELECT id FROM t" ++ " WHERE " ++ sql, ["1", "2"]⟩ := by
    obtain ⟨clause, rendered, found, same, handed⟩ :=
      ((restrict_agrees unevenScope backend "SELECT id FROM t").1 enough).1 rfl
    rw [← Option.some.inj (written.symm.trans same),
      ← Option.some.inj (text.symm.trans found)] at handed
    exact handed
  refine ⟨⟨sqlite, agreed sqlite⟩, ⟨postgres, agreed postgres⟩, fun backend same => ?_, ?_⟩
  · have nothing := ((restrict_agrees unevenScope backend "SELECT id FROM t").1 enough).2.mp same
    cases backend with
    | sqlite => exact Option.some_ne_none _ (sqlite.symm.trans nothing)
    | postgres => exact Option.some_ne_none _ (postgres.symm.trans nothing)
  · exact (restrict_agrees Answers.peopleScope .postgres "").2 _ Answers.answers_peopleScope

end Query

end AttributeFilter
