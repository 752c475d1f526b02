/-
**Conditions without regard to case.**

A table operator binds its values in lower case, and lower-cases them last, as parts of a pattern.
Neither the signs of the pattern nor the backslashes of escaped values have a case or come between a
capital sigma and its neighbours, so the values might as well have been lower-cased first. Then what
is bound cannot depend on the case in which a value was written.

* `Operand.Recased` — the same values, written in another case.
* `Condition.boundValue_eq` — what is bound is the form of the value in lower case.
* **`Condition.compile_caseless`** — recased values compile to the very same condition.
-/

import AttributeFilter.Proofs.Sql.LiteralMatch
import AttributeFilter.Proofs.Text.Recasing

namespace AttributeFilter

/-! ### Recased values -/

/-- A value that is kept, or a text that is written in lower case, or a text with some of its letters
A to Z in the other case. -/
inductive Scalar.Recased : Scalar → Scalar → Prop
  | kept (value : Scalar) : Recased value value
  | lowered (text : String) : Recased (.text text) (.text (lowercase text))
  | letters {text other : String} : foldCase text = foldCase other →
      Recased (.text text) (.text other)

/-- Any of the values of an operand are recased. -/
inductive Operand.Recased : Operand → Operand → Prop
  | single {value other : Scalar} : value.Recased other → Recased (.single value) (.single other)
  | list {values others : List Scalar} : List.Forall₂ Scalar.Recased values others →
      Recased (.list values) (.list others)

theorem lowercase_lowercase (text : String) : lowercase (lowercase text) = lowercase text := by
  rw [lowercase, toList_lowercase, toLowercase_toLowercase, lowercase]

theorem Scalar.Recased.lowercase_render {value other : Scalar} (recased : value.Recased other) :
    lowercase other.render = lowercase value.render := by
  cases recased with
  | kept => rfl
  | lowered text => exact lowercase_lowercase text
  | letters same => exact (lowercase_eq_of_foldCase_eq same).symm

theorem Operand.Recased.lowercase_texts {operand other : Operand}
    (recased : operand.Recased other) :
    other.texts.map lowercase = operand.texts.map lowercase := by
  cases recased with
  | single value => exact congrArg ([·]) value.lowercase_render
  | list each =>
    simp only [texts, List.map_map]
    induction each with
    | nil => rfl
    | cons value rest ih => exact congrArg₂ List.cons value.lowercase_render ih

/-! ### Lower-casing first or last -/

/-- The signs of a pattern are no part of the value between them. -/
theorem Operator.toLowercase_format {operator : Operator} (listed : operator ∈ table)
    (value : List Char) :
    toLowercase (operator.format value) = operator.format (toLowercase value) := by
  have kinds : ∀ operator ∈ table,
      operator.comparison ∈ ["LIKE", "NOT LIKE"] ∨ operator.comparison ∈ ["=", "<>"] := by decide
  rcases kinds operator listed with pattern | equality
  · obtain ⟨place, -, -, form⟩ := format_eq_pattern listed pattern
    rw [form, form, place.toLowercase_pattern]
  · obtain ⟨-, form⟩ := format_eq_self listed equality
    rw [form, form]

namespace Condition

theorem toLowercase_patternText (escaped : Bool) (value : String) :
    toLowercase (patternText escaped value) = patternText escaped (lowercase value) := by
  cases escaped with
  | false => exact (toList_lowercase value).symm
  | true =>
    simp only [patternText, if_true]
    rw [toLowercase_escapeLike, toList_lowercase]

/-- What is bound is in lower case. -/
theorem lowercase_boundValue (operator : Operator) (escaped : Bool) (value : String) :
    lowercase (boundValue operator escaped value) = boundValue operator escaped value := by
  rw [boundValue, lowercase, String.toList_ofList, toLowercase_toLowercase]

/-- **Lower-casing last is lower-casing first**: what is bound is the form of the value in lower
case, escaped where values are escaped. -/
theorem boundValue_eq {operator : Operator} (listed : operator ∈ Operator.table) (escaped : Bool)
    (value : String) :
    boundValue operator escaped value =
      String.ofList (operator.format (patternText escaped (lowercase value))) := by
  rw [boundValue, Operator.toLowercase_format listed, toLowercase_patternText]

/-- What is bound depends on the values in lower case only. -/
theorem map_boundValue_congr {operator : Operator} (listed : operator ∈ Operator.table)
    (escaped : Bool) {values others : List String}
    (same : others.map lowercase = values.map lowercase) :
    others.map (boundValue operator escaped) = values.map (boundValue operator escaped) := by
  have through : boundValue operator escaped =
      (fun value => String.ofList (operator.format (patternText escaped value))) ∘ lowercase :=
    funext (boundValue_eq listed escaped)
  rw [through, ← List.map_map, same, List.map_map]

/-- Compiling asks of an operand only what is bound for its values. -/
theorem compile_congr (column : String) (operator : Operator) {operand other : Operand}
    (options : CompileOptions)
    (same : other.texts.map (boundValue operator (options.escapeLike && operator.isPattern)) =
      operand.texts.map (boundValue operator (options.escapeLike && operator.isPattern))) :
    compile column operator other options = compile column operator operand options := by
  by_cases plain : isIdentifier column = true
  · by_cases nothing : operand.texts = []
    · rw [nothing, List.map_nil, List.map_eq_nil_iff] at same
      rw [compile_of_texts_nil plain operator options same,
        compile_of_texts_nil plain operator options nothing]
    · have something : other.texts ≠ [] := by
        intro none
        rw [none, List.map_nil] at same
        exact nothing (List.map_eq_nil_iff.mp same.symm)
      rw [compile_of_texts_ne_nil plain operator options something,
        compile_of_texts_ne_nil plain operator options nothing, same]
  · rw [compile, compile, requireIdentifier, if_neg plain]
    rfl

/-- **The case of values does not matter** to a table operator. Recased values compile to the very
same condition; and where an operand has values, each of them is bound in the form that its lower
case takes, which is in lower case as a whole. -/
theorem compile_caseless {column : String} (plain : isIdentifier column = true)
    {operator : Operator} (listed : operator ∈ Operator.table) (operand : Operand)
    (options : CompileOptions) :
    (∀ other, operand.Recased other →
      compile column operator other options = compile column operator operand options) ∧
    ComparesEach (clause column operator (options.escapeLike && operator.isPattern)) " OR "
      operand.texts
      (fun value bound => lowercase bound = bound ∧
        bound = String.ofList (operator.format
          (patternText (options.escapeLike && operator.isPattern) (lowercase value))))
      (compile column operator operand options) := by
  constructor
  · intro other recased
    exact compile_congr column operator options
      (map_boundValue_congr listed _ recased.lowercase_texts)
  · refine comparesEach (compile_of_texts_nil plain operator options)
      (compile_of_texts_ne_nil plain operator options) fun value => ?_
    exact ⟨lowercase_boundValue operator _ value, boundValue_eq listed _ value⟩

/-- Two names, one of them with a capital I with a dot above, a capital sigma at the end of a word
and a reserved character, -/
def capitalNames : Operand := .list [.text "İΔΟΣ_", .text "Jane"]

/-- the same in lower case, and with letters in the other case. -/
def mixedNames : Operand := .list [.text "i\u0307δος_", .text "jANE"]

theorem compile_caseless_names :
    isIdentifier "name" = true ∧
    ⟨"contains", "LIKE", some "%\x7b\x7d%"⟩ ∈ Operator.table ∧
    capitalNames.Recased mixedNames ∧
    compile "name" ⟨"contains", "LIKE", some "%\x7b\x7d%"⟩ mixedNames escapingOptions =
      compile "name" ⟨"contains", "LIKE", some "%\x7b\x7d%"⟩ capitalNames escapingOptions ∧
    ∃ condition,
      compile "name" ⟨"contains", "LIKE", some "%\x7b\x7d%"⟩ capitalNames escapingOptions =
        .ok condition ∧
      condition.boundValues = ["%i\u0307δος\\_%", "%jane%"] ∧
      ∀ bound ∈ condition.boundValues, lowercase bound = bound := by
  have plain : isIdentifier "name" = true := by decide
  have listed : ⟨"contains", "LIKE", some "%\x7b\x7d%"⟩ ∈ Operator.table := by decide
  have recased : capitalNames.Recased mixedNames := by
    have lowered : lowercase "İΔΟΣ_" = "i\u0307δος_" := by decide +kernel
    exact .list (.cons (lowered ▸ .lowered _) (.cons (.letters (by decide +kernel)) .nil))
  obtain ⟨same, compiled⟩ := compile_caseless plain listed capitalNames escapingOptions
  have answered : compile "name" ⟨"contains", "LIKE", some "%\x7b\x7d%"⟩ capitalNames
      escapingOptions = .ok ⟨"lower(name) LIKE ? ESCAPE '\\' OR lower(name) LIKE ? ESCAPE '\\'",
        ["%i\u0307δος\\_%", "%jane%"]⟩ := by
    decide +kernel
  refine ⟨plain, listed, recased, same _ recased, _, answered, rfl, ?_⟩
  rcases compiled.bound _ answered with _ | ⟨first, _ | ⟨second, -⟩⟩
  simp only [List.mem_cons, List.not_mem_nil, or_false]
  rintro bound (rfl | rfl)
  · exact first.1
  · exact second.1

end Condition

end AttributeFilter
