/-
**Escaped values match literally.**

A value is escaped first, then put into the form of its operator, and the whole is lower-cased last.
Lower-casing looks at neighbours, and both the backslashes and the percent signs of the form are new
neighbours; but all of them are neutral, so it does not matter that they come in between.

* `toLowercase_escapeLike` — escaping and lower-casing may be exchanged.
* `Operator.format_eq_pattern` — the form of an operator is the pattern for the place where it looks
  for its value.
* **`Condition.matches_literally`** — with escaping, a bound value matches the texts that have the
  value in lower case at that place, and a token the texts that have it anywhere as it stands.
-/

import AttributeFilter.Proofs.Sql.Matching
import AttributeFilter.Proofs.Text.Lowercase
import AttributeFilter.Sql.Condition
import Mathlib.Data.List.Forall2

namespace AttributeFilter

/-! ### Lower-casing an escaped text -/

theorem neutral_of_isReserved {c : Char} (reserved : isReserved c = true) : Neutral c := by
  rcases isReserved_iff.mp reserved with rfl | rfl | rfl
  · exact ⟨by decide +kernel, by decide +kernel, by decide +kernel⟩
  · exact ⟨by decide +kernel, by decide +kernel, by decide +kernel⟩
  · exact ⟨by decide +kernel, by decide +kernel, by decide +kernel⟩

/-- No reserved character is the lower case of another character. -/
theorem unreserved_lowerChar {c : Char} (unreserved : isReserved c = false) :
    ∀ d ∈ lowerChar c, isReserved d = false := by
  intro d member
  refine Bool.eq_false_iff.mpr fun reserved => ?_
  have same : d = c := by
    rcases isReserved_iff.mp reserved with rfl | rfl | rfl
    · exact eq_of_mem_lowerChar member (by decide) (by decide)
    · exact eq_of_mem_lowerChar member (by decide) (by decide)
    · exact eq_of_mem_lowerChar member (by decide) (by decide)
  rw [same, unreserved] at reserved
  exact Bool.false_ne_true reserved

theorem unreserved_lowerSigma (before after : List Char) :
    isReserved (lowerSigma before after) = false := by
  unfold lowerSigma
  split <;> decide

/-- Escaping puts no letter in front of a text. -/
theorem meetsLetter_escapeLike (text : List Char) :
    meetsLetter (escapeLike text) = meetsLetter text := by
  induction text with
  | nil => rfl
  | cons c rest ih =>
    rw [escapeLike_cons]
    cases reserved : isReserved c with
    | true =>
      have backslash : Neutral '\\' := neutral_of_isReserved rfl
      rw [if_pos rfl, backslash.meetsLetter_cons,
        (neutral_of_isReserved reserved).meetsLetter_cons]
    | false => rw [if_neg Bool.false_ne_true, meetsLetter_cons, meetsLetter_cons, ih]

theorem lowerAfter_escapeLike (before text : List Char) :
    lowerAfter before (escapeLike text) = escapeLike (lowerAfter before text) := by
  induction text generalizing before with
  | nil => rfl
  | cons c rest ih =>
    rw [escapeLike_cons]
    cases reserved : isReserved c with
    | true =>
      have backslash : Neutral '\\' := neutral_of_isReserved rfl
      have neutral := neutral_of_isReserved reserved
      have onward : toLowercase (escapeLike rest) = escapeLike (toLowercase rest) := ih []
      rw [if_pos rfl, lowerAfter_neutral backslash, toLowercase, lowerAfter_neutral neutral, onward,
        lowerAfter_neutral neutral, escapeLike_cons, if_pos reserved]
    | false =>
      have kept : escapeLike (if c = 'Σ' then [lowerSigma before rest] else lowerChar c) =
          if c = 'Σ' then [lowerSigma before rest] else lowerChar c := by
        apply escapeLike_of_unreserved
        split
        · intro d member
          rw [List.mem_singleton.mp member]
          exact unreserved_lowerSigma before rest
        · exact unreserved_lowerChar reserved
      rw [if_neg Bool.false_ne_true, lowerAfter, lowerAfter, escapeLike_append, kept, ih,
        lowerSigma, lowerSigma, meetsLetter_escapeLike]

/-- **Escaping and lower-casing may be exchanged.** -/
theorem toLowercase_escapeLike (text : List Char) :
    toLowercase (escapeLike text) = escapeLike (toLowercase text) :=
  lowerAfter_escapeLike [] text

/-- The percent signs around a value are no part of it. -/
theorem Place.toLowercase_pattern (place : Place) (value : List Char) :
    toLowercase (place.pattern value) = place.pattern (toLowercase value) := by
  have percent : Neutral '%' := neutral_of_isReserved rfl
  have behind (rest : List Char) : toLowercase ('%' :: rest) = '%' :: toLowercase rest :=
    lowerAfter_neutral percent [] rest
  have before (first : List Char) : toLowercase (first ++ ['%']) = toLowercase first ++ ['%'] :=
    toLowercase_append_neutral percent first []
  cases place with
  | anywhere => rw [pattern, pattern, behind, before]
  | atStart => rw [pattern, pattern, before]
  | atEnd => rw [pattern, pattern, behind]

/-! ### The operators -/

namespace Operator

/-- Where an operator looks for its value, if it does not compare whole texts. -/
def place? (operator : Operator) : Option Place :=
  if operator.name ∈ ["contains", "does_not_contain"] then some .anywhere
  else if operator.name ∈ ["starts_with", "does_not_start_with"] then some .atStart
  else if operator.name ∈ ["ends_with", "does_not_end_with"] then some .atEnd
  else none

/-- **The form of an operator is the pattern** for the place where it looks for its value. -/
theorem format_eq_pattern {operator : Operator} (listed : operator ∈ table)
    (pattern : operator.comparison ∈ ["LIKE", "NOT LIKE"]) :
    ∃ place, operator.place? = some place ∧ operator.isPattern = true ∧
      ∀ value, operator.format value = place.pattern value := by
  simp only [table, List.mem_cons, List.not_mem_nil, or_false] at listed
  rcases listed with rfl | rfl | rfl | rfl | rfl | rfl | rfl | rfl
  · exact ⟨.anywhere, rfl, rfl, fun _ => rfl⟩
  · exact ⟨.anywhere, rfl, rfl, fun _ => rfl⟩
  · exact ⟨.atStart, rfl, rfl, fun _ => rfl⟩
  · exact ⟨.atStart, rfl, rfl, fun _ => rfl⟩
  · exact ⟨.atEnd, rfl, rfl, fun value => by simp [format, fillFirst, Place.pattern]⟩
  · exact ⟨.atEnd, rfl, rfl, fun value => by simp [format, fillFirst, Place.pattern]⟩
  · exact absurd pattern (by decide)
  · exact absurd pattern (by decide)

/-- An operator that compares whole texts leaves them as they are. -/
theorem format_eq_self {operator : Operator} (listed : operator ∈ table)
    (equality : operator.comparison ∈ ["=", "<>"]) :
    operator.isPattern = false ∧ ∀ value, operator.format value = value := by
  have rows : ∀ operator ∈ table, operator.comparison ∈ ["=", "<>"] →
      operator.isPattern = false ∧ operator.valueForm = none := by decide
  obtain ⟨noPattern, noForm⟩ := rows operator listed equality
  refine ⟨noPattern, fun value => ?_⟩
  rw [format, noForm]

end Operator

/-! ### Compiled conditions -/

namespace Condition

theorem clause_eq (column : String) (operator : Operator) (escaped : Bool) :
    clause column operator escaped = "lower(" ++ column ++ ") " ++ operator.comparison ++
      if escaped then " ? ESCAPE '\\'" else " ?" := by
  rw [clause, String.append_assoc]
  cases escaped <;> rfl

theorem tokenClause_eq (column : String) (escaped : Bool) :
    tokenClause column escaped =
      column ++ if escaped then " LIKE ? ESCAPE '\\'" else " LIKE ?" := by
  rw [tokenClause, String.append_assoc]
  cases escaped <;> rfl

section

variable {column : String} (plain : isIdentifier column = true) (operator : Operator)
  {operand : Operand} (options : CompileOptions)

include plain

theorem compile_of_texts_nil (nothing : operand.texts = []) :
    compile column operator operand options = ofNoValues column options := by
  rw [compile, requireIdentifier, if_pos plain, nothing]
  rfl

theorem compile_of_texts_ne_nil (something : operand.texts ≠ []) :
    compile column operator operand options =
      .ok (ofClauses (clause column operator (options.escapeLike && operator.isPattern)) " OR "
        (operand.texts.map (boundValue operator (options.escapeLike && operator.isPattern)))) := by
  rw [compile, requireIdentifier, if_pos plain]
  cases shape : operand.texts with
  | nil => exact absurd shape something
  | cons first rest => rfl

theorem compileAllOf_of_tokens_nil (nothing : tokens operand = []) :
    compileAllOf column operand options = ofNoValues column options := by
  rw [compileAllOf, requireIdentifier, if_pos plain, nothing]
  rfl

theorem compileAllOf_of_tokens_ne_nil (something : tokens operand ≠ []) :
    compileAllOf column operand options =
      .ok (ofClauses (tokenClause column options.escapeLike) " AND "
        ((tokens operand).map (tokenPattern options.escapeLike))) := by
  rw [compileAllOf, requireIdentifier, if_pos plain]
  cases shape : tokens operand with
  | nil => exact absurd shape something
  | cons first rest => rfl

end

/-- What compiling a list of texts comes to. If there are any, the clause is repeated for each of
them, and the values bound for the texts are related to them one by one. -/
structure ComparesEach (clause separator : String) (texts : List String)
    (related : String → String → Prop) (answer : Except FilterError Condition) : Prop where
  clauses : texts ≠ [] → ∃ condition, answer = .ok condition ∧
    condition.expression = joinWith separator (List.replicate texts.length clause)
  bound : ∀ condition, answer = .ok condition → List.Forall₂ related texts condition.boundValues

theorem comparesEach {clause separator column : String} {texts : List String}
    {options : CompileOptions} {bound : String → String} {related : String → String → Prop}
    {answer : Except FilterError Condition}
    (without : texts = [] → answer = ofNoValues column options)
    (compiled : texts ≠ [] → answer = .ok (ofClauses clause separator (texts.map bound)))
    (each : ∀ text, related text (bound text)) :
    ComparesEach clause separator texts related answer := by
  by_cases empty : texts = []
  · refine ⟨fun nonempty => absurd empty nonempty, fun condition answered => ?_⟩
    rw [without empty] at answered
    -- Without texts there is nothing to bind, or no condition at all.
    cases policy : options.emptyPolicy with
    | reject => simp [ofNoValues, policy] at answered
    | matchNone =>
      simp only [ofNoValues, policy, Except.ok.injEq] at answered
      rw [empty, ← answered]
      exact .nil
  · refine ⟨fun _ => ⟨_, compiled empty, by simp [ofClauses]⟩, fun condition answered => ?_⟩
    rw [compiled empty] at answered
    rw [← Except.ok.inj answered]
    exact List.forall₂_map_right_iff.mpr (List.forall₂_same.mpr fun text _ => each text)

/-- **A pattern is bound that matches the value in lower case**, where the operator looks for it. -/
theorem matchesLike_boundValue {operator : Operator} {place : Place}
    (form : ∀ value, operator.format value = place.pattern value) (value : String)
    (text : List Char) :
    matchesLike (boundValue operator true value).toList text = true ↔
      place.Holds (toLowercase value.toList) text := by
  have bound : (boundValue operator true value).toList =
      place.pattern (escapeLike (toLowercase value.toList)) := by
    rw [boundValue, String.toList_ofList, form, Place.toLowercase_pattern, patternText, if_pos rfl,
      toLowercase_escapeLike]
  rw [bound, Place.matchesLike_pattern_iff]

/-- A token is bound to a pattern that matches it anywhere. -/
theorem matchesLike_tokenPattern (token : String) (text : List Char) :
    matchesLike (tokenPattern true token).toList text = true ↔ token.toList <:+: text := by
  have bound : (tokenPattern true token).toList =
      Place.anywhere.pattern (escapeLike token.toList) := by
    rw [tokenPattern, String.toList_ofList]
    rfl
  rw [bound, Place.matchesLike_pattern_iff]
  rfl

/-- **Escaped values match literally.** With escaping, every clause of an operator for patterns has
its escape suffix and is bound to a pattern that matches the texts which have the value in lower
case where the operator looks for it. The operators for whole texts bind the value in lower case
itself, without suffix. For a list of tokens every token is matched as it stands. -/
theorem matches_literally {column : String} (plain : isIdentifier column = true)
    (operand : Operand) {options : CompileOptions} (escaping : options.escapeLike = true) :
    (∀ operator ∈ Operator.table, operator.comparison ∈ ["LIKE", "NOT LIKE"] →
      ∃ place, operator.place? = some place ∧
        ComparesEach ("lower(" ++ column ++ ") " ++ operator.comparison ++ " ? ESCAPE '\\'") " OR "
          operand.texts
          (fun value bound => ∀ text, matchesLike bound.toList text = true ↔
            place.Holds (toLowercase value.toList) text)
          (compile column operator operand options)) ∧
    (∀ operator ∈ Operator.table, operator.comparison ∈ ["=", "<>"] →
      ComparesEach ("lower(" ++ column ++ ") " ++ operator.comparison ++ " ?") " OR " operand.texts
        (fun value bound => bound = String.ofList (toLowercase value.toList))
        (compile column operator operand options)) ∧
    ComparesEach (column ++ " LIKE ? ESCAPE '\\'") " AND " (tokens operand)
      (fun token bound => ∀ text, matchesLike bound.toList text = true ↔ token.toList <:+: text)
      (compileAllOf column operand options) := by
  refine ⟨?_, ?_, ?_⟩
  · intro operator listed comparison
    obtain ⟨place, looked, pattern, form⟩ := Operator.format_eq_pattern listed comparison
    refine ⟨place, looked, comparesEach (compile_of_texts_nil plain operator options) ?_
      (matchesLike_boundValue form)⟩
    intro something
    rw [compile_of_texts_ne_nil plain operator options something, escaping, pattern, clause_eq]
    rfl
  · intro operator listed comparison
    obtain ⟨noPattern, form⟩ := Operator.format_eq_self listed comparison
    have bound (value : String) :
        boundValue operator false value = String.ofList (toLowercase value.toList) := by
      rw [boundValue, form]
      rfl
    refine comparesEach (compile_of_texts_nil plain operator options) ?_ bound
    intro something
    rw [compile_of_texts_ne_nil plain operator options something, noPattern, Bool.and_false,
      clause_eq]
    rfl
  · refine comparesEach (compileAllOf_of_tokens_nil plain options) ?_ matchesLike_tokenPattern
    intro something
    rw [compileAllOf_of_tokens_ne_nil plain options something, escaping, tokenClause_eq]
    rfl

/-- A title with a capital sigma at the end of a word, and with reserved characters. -/
def streetTitle : Operand := .single (.text "ΟΔΟΣ_50%")

/-- Values are escaped. -/
def escapingOptions : CompileOptions := ⟨.reject, true⟩

theorem matches_literally_title :
    (compile "title" ⟨"contains", "LIKE", some "%\x7b\x7d%"⟩ streetTitle escapingOptions =
        .ok ⟨"lower(title) LIKE ? ESCAPE '\\'", ["%οδος\\_50\\%%"]⟩ ∧
      ∀ text, matchesLike "%οδος\\_50\\%%".toList text = true ↔ "οδος_50%".toList <:+: text) ∧
    (compile "title" ⟨"is", "=", none⟩ streetTitle escapingOptions =
        .ok ⟨"lower(title) = ?", ["οδος_50%"]⟩ ∧
      "οδος_50%" = String.ofList (toLowercase "ΟΔΟΣ_50%".toList)) ∧
    compileAllOf "title" streetTitle escapingOptions =
        .ok ⟨"title LIKE ? ESCAPE '\\'", ["%ΟΔΟΣ\\_50\\%%"]⟩ ∧
      ∀ text, matchesLike "%ΟΔΟΣ\\_50\\%%".toList text = true ↔ "ΟΔΟΣ_50%".toList <:+: text := by
  have lowered : toLowercase "ΟΔΟΣ_50%".toList = "οδος_50%".toList := by decide +kernel
  have plain : isIdentifier "title" = true := by decide
  have escaping : escapingOptions.escapeLike = true := rfl
  obtain ⟨patterns, equalities, tokens⟩ := matches_literally plain streetTitle escaping
  refine ⟨?_, ?_, ?_⟩
  · have answered : compile "title" ⟨"contains", "LIKE", some "%\x7b\x7d%"⟩ streetTitle
        escapingOptions = .ok ⟨"lower(title) LIKE ? ESCAPE '\\'", ["%οδος\\_50\\%%"]⟩ := by
      decide +kernel
    obtain ⟨place, looked, compiled⟩ :=
      patterns ⟨"contains", "LIKE", some "%\x7b\x7d%"⟩ (by decide) (by decide)
    obtain rfl : Place.anywhere = place := Option.some.inj looked
    cases compiled.bound _ answered with
    | cons bound _ => exact ⟨answered, fun text => lowered ▸ bound text⟩
  · have answered : compile "title" ⟨"is", "=", none⟩ streetTitle escapingOptions =
        .ok ⟨"lower(title) = ?", ["οδος_50%"]⟩ := by decide +kernel
    cases (equalities ⟨"is", "=", none⟩ (by decide) (by decide)).bound _ answered with
    | cons bound _ => exact ⟨answered, bound⟩
  · have answered : compileAllOf "title" streetTitle escapingOptions =
        .ok ⟨"title LIKE ? ESCAPE '\\'", ["%ΟΔΟΣ\\_50\\%%"]⟩ := by decide +kernel
    have split : Condition.tokens streetTitle = ["ΟΔΟΣ_50%"] := by decide +kernel
    have bound := tokens.bound _ answered
    rw [split] at bound
    cases bound with
    | cons bound _ => exact ⟨answered, bound⟩

end Condition

end AttributeFilter
