/-
**Operators and their negations.**

Every comparison of the operator table has an opposite, and between two texts exactly one of the two
holds. A condition, though, compares with every value of its operand and joins the clauses by OR,
those of a negation too. So a negation asks that one of the values be missed, not that all of them
are: it is the opposite of the condition for the same values where there is one value, or where all
of them come out alike, and nowhere else.

* `Backend.compares` — what the comparisons mean to a backend.
* `Condition.Decides` — whether a condition is true of a text, by the reading that it has.
* `Operator.Opposes` — one operator compares as the other does, and the other way round.
* **`Condition.decides_compile`** — a condition is true of a text where one of its values is
  accepted.
* **`Condition.negation_of_values`** — where a condition and its negation are opposites.
-/

import AttributeFilter.Proofs.Registry.Grouping
import AttributeFilter.Proofs.Sql.LiteralMatch

namespace AttributeFilter

/-! ### The meaning of comparisons -/

namespace Backend

/-- Whether a text matches a pattern. Where no escape clause says otherwise, a backslash escapes the
character behind it in PostgreSQL and stands for itself in SQLite. -/
def like (backend : Backend) (escaped : Bool) (pattern text : List Char) : Bool :=
  match backend, escaped with
  | .sqlite, false => matchesParts (pattern.map .ofChar) text
  | _, _ => matchesLike pattern text

/-- Whether a comparison holds between a text and a bound value. -/
def compares (backend : Backend) (comparison : String) (escaped : Bool)
    (text bound : List Char) : Bool :=
  match comparison with
  | "LIKE" => backend.like escaped bound text
  | "NOT LIKE" => !backend.like escaped bound text
  | "=" => text == bound
  | "<>" => text != bound
  | _ => false

end Backend

/-- Whether a clause holds of a column with the given text, for the value at its mark. -/
def Clause.holdsOf (backend : Backend) (text : String) (bound : Option String) : Clause → Bool
  | .compares _ comparison escaped =>
    bound.any fun value =>
      backend.compares comparison escaped (toLowercase text.toList) value.toList
  | .contains _ escaped => bound.any fun value => backend.like escaped value.toList text.toList
  | .never => false

namespace Condition

/-- What a condition says about a column with the given text: it has a reading, and by this reading
and the values at the marks it comes to the verdict. -/
def Decides (condition : Condition) (backend : Backend) (text : String) (verdict : Bool) : Prop :=
  ∃ reading : Disjunction, reading.text = condition.expression.toList ∧
    reading.eval (fun place clause => clause.holdsOf backend text condition.boundValues[place]?) 0 =
      verdict

/-- There is only one reading, so a condition does not decide twice. -/
theorem Decides.iff_eq {condition : Condition} {backend : Backend} {text : String} {verdict : Bool}
    (decides : condition.Decides backend text verdict) (other : Bool) :
    condition.Decides backend text other ↔ verdict = other := by
  obtain ⟨reading, written, verdict'⟩ := decides
  constructor
  · rintro ⟨reading', written', verdict''⟩
    obtain rfl := Disjunction.text_injective (written.trans written'.symm)
    exact verdict'.symm.trans verdict''
  · rintro rfl
    exact ⟨reading, written, verdict'⟩

/-- The values at the places of a list are its values. -/
theorem map_getElem?_range' (values : List String) :
    (List.range' 0 values.length).map (fun place => values[place]?) = values.map .some :=
  List.ext_getElem (by simp) (by simp)

/-- A clause repeated with OR is true of a text where it is for one of the values. -/
theorem decides_ofClauses {clause : Clause} (valid : clause.Valid) (marked : clause.marks = 1)
    {values : List String} (some : values ≠ []) (backend : Backend) (text : String) :
    (ofClauses (String.ofList clause.text) " OR " values).Decides backend text
      (values.any fun value => clause.holdsOf backend text (.some value)) := by
  obtain ⟨first, rest, rfl⟩ := List.exists_cons_of_ne_nil some
  -- Any row of the table has the separator and the reading of alternatives.
  refine ⟨_, NamedScope.text_reading (.comparing ⟨"", "", none⟩) valid first rest, ?_⟩
  have holds := congrArg (List.any · fun value => clause.holdsOf backend text value)
    (map_getElem?_range' (first :: rest))
  rw [NamedScope.reading, Disjunction.eval_any_replicate valid marked]
  simpa [ofClauses, List.any_map, Function.comp_def] using holds

end Condition

/-! ### Opposite operators -/

namespace Operator

/-- Whether an operator accepts a value for a column with the given text. -/
def accepts (operator : Operator) (backend : Backend) (options : CompileOptions)
    (text value : String) : Bool :=
  let escaped := options.escapeLike && operator.isPattern
  backend.compares operator.comparison escaped (toLowercase text.toList)
    (Condition.boundValue operator escaped value).toList

/-- Two operators that bind a value in the same form and compare it in opposite ways. -/
structure Opposes (negated positive : Operator) : Prop where
  form : negated.valueForm = positive.valueForm
  pattern : negated.isPattern = positive.isPattern
  comparison : (positive.comparison, negated.comparison) ∈ [("LIKE", "NOT LIKE"), ("=", "<>")]

/-- The names of the operators and of their negations. -/
def oppositeNames : List (String × String) := [
  ("contains", "does_not_contain"), ("starts_with", "does_not_start_with"),
  ("ends_with", "does_not_end_with"), ("is", "is_not")]

/-- **The operators come in opposite pairs.** -/
theorem exists_opposes {positiveName negatedName : String}
    (pair : (positiveName, negatedName) ∈ oppositeNames) :
    ∃ positive negated, find? positiveName = some positive ∧ find? negatedName = some negated ∧
      negated.Opposes positive := by
  simp only [oppositeNames, List.mem_cons, List.not_mem_nil, or_false, Prod.mk.injEq] at pair
  rcases pair with ⟨rfl, rfl⟩ | ⟨rfl, rfl⟩ | ⟨rfl, rfl⟩ | ⟨rfl, rfl⟩
  · exact ⟨_, _, rfl, rfl, rfl, rfl, by decide⟩
  · exact ⟨_, _, rfl, rfl, rfl, rfl, by decide⟩
  · exact ⟨_, _, rfl, rfl, rfl, rfl, by decide⟩
  · exact ⟨_, _, rfl, rfl, rfl, rfl, by decide⟩

/-- **A value is accepted by an operator or by its opposite**, and never by both. -/
theorem Opposes.accepts_eq {negated positive : Operator} (opposes : negated.Opposes positive)
    (backend : Backend) (options : CompileOptions) (text value : String) :
    negated.accepts backend options text value = !positive.accepts backend options text value := by
  have bound (escaped : Bool) : Condition.boundValue negated escaped value =
      Condition.boundValue positive escaped value := by
    simp only [Condition.boundValue, format, opposes.form]
  have comparisons := opposes.comparison
  simp only [List.mem_cons, List.not_mem_nil, or_false, Prod.mk.injEq] at comparisons
  simp only [accepts, opposes.pattern, bound]
  rcases comparisons with ⟨asked, denied⟩ | ⟨asked, denied⟩
  · rw [asked, denied]
    rfl
  · rw [asked, denied]
    rfl

end Operator

namespace Condition

/-- **A condition is true of a text where one of its values is accepted.** -/
theorem decides_compile {column : String} (plain : isIdentifier column = true)
    {operator : Operator} (listed : operator ∈ Operator.table) {operand : Operand}
    (some : operand.texts ≠ []) (options : CompileOptions) (backend : Backend) (text : String) :
    ∃ condition, compile column operator operand options = .ok condition ∧
      condition.Decides backend text
        (operand.texts.any fun value => operator.accepts backend options text value) := by
  let escaped := options.escapeLike && operator.isPattern
  have valid : (Clause.compares column operator.comparison escaped).Valid :=
    ⟨plain, List.mem_map_of_mem listed⟩
  have bound : operand.texts.map (boundValue operator escaped) ≠ [] :=
    mt List.map_eq_nil_iff.mp some
  refine ⟨_, compile_of_texts_ne_nil plain operator options some, ?_⟩
  rw [← NamedScope.ofList_compares_text]
  have decides := decides_ofClauses valid rfl bound backend text
  rw [List.any_map] at decides
  exact decides

section

variable {values : List String} (some : values ≠ [])

include some

theorem any_eq_of_forall {verdict : String → Bool} {common : Bool}
    (alike : ∀ value ∈ values, verdict value = common) : values.any verdict = common := by
  cases common with
  | true =>
    obtain ⟨value, member⟩ := List.exists_mem_of_ne_nil values some
    exact List.any_eq_true.mpr ⟨value, member, alike value member⟩
  | false =>
    refine List.any_eq_false.mpr fun value member => ?_
    rw [alike value member]
    exact Bool.false_ne_true

/-- Where one verdict of several has to be true, and one of their opposites, the outcomes are
opposite exactly if all the verdicts are the same. -/
theorem any_not_opposite_iff (verdict : String → Bool) :
    ((values.any fun value => !verdict value) = true ↔ values.any verdict = false) ↔
      ∀ value ∈ values, ∀ other ∈ values, verdict value = verdict other := by
  constructor
  · intro opposite value member other member'
    by_contra differ
    -- Of two verdicts that differ one is true and one is false, so both outcomes are true.
    obtain ⟨accepted, missed⟩ : values.any verdict = true ∧
        (values.any fun value => !verdict value) = true := by
      simp only [List.any_eq_true, Bool.not_eq_true']
      cases here : verdict value with
      | true =>
        have there : verdict other = false :=
          Bool.of_not_eq_true fun same => differ (here.trans same.symm)
        exact ⟨⟨value, member, here⟩, other, member', there⟩
      | false =>
        have there : verdict other = true :=
          Bool.of_not_eq_false fun same => differ (here.trans same.symm)
        exact ⟨⟨other, member', there⟩, value, member, here⟩
    rw [opposite.mp missed] at accepted
    exact Bool.false_ne_true accepted
  · intro alike
    obtain ⟨first, member⟩ := List.exists_mem_of_ne_nil values some
    have common : values.any verdict = verdict first :=
      any_eq_of_forall some fun value among => alike value among first member
    have opposite : (values.any fun value => !verdict value) = !verdict first :=
      any_eq_of_forall some fun value among => congrArg (!·) (alike value among first member)
    rw [common, opposite]
    cases verdict first <;> simp

end

/-- **A condition and its negation.** Compiled for the same values, the one is true of a text where
one of the values is accepted, and the other where one of the values is not. So the two are
opposites of each other for a single value, and for more of them exactly where all are accepted or
none is. -/
theorem negation_of_values {positiveName negatedName : String}
    (pair : (positiveName, negatedName) ∈ Operator.oppositeNames) {column : String}
    (plain : isIdentifier column = true) {operand : Operand} (some : operand.texts ≠ [])
    (options : CompileOptions) (backend : Backend) (text : String) :
    ∃ positive negated asked denied,
      Operator.find? positiveName = .some positive ∧ Operator.find? negatedName = .some negated ∧
      compile column positive operand options = .ok asked ∧
      compile column negated operand options = .ok denied ∧
      (asked.Decides backend text true ↔
        ∃ value ∈ operand.texts, positive.accepts backend options text value = true) ∧
      (denied.Decides backend text true ↔
        ∃ value ∈ operand.texts, positive.accepts backend options text value = false) ∧
      (operand.texts.length = 1 →
        (denied.Decides backend text true ↔ asked.Decides backend text false)) ∧
      ((denied.Decides backend text true ↔ asked.Decides backend text false) ↔
        ∀ value ∈ operand.texts, ∀ other ∈ operand.texts,
          positive.accepts backend options text value =
            positive.accepts backend options text other) := by
  obtain ⟨positive, negated, found, found', opposes⟩ := Operator.exists_opposes pair
  obtain ⟨asked, compiled, accepted⟩ := decides_compile plain
    (List.mem_of_find?_eq_some found) some options backend text
  obtain ⟨denied, compiled', missed⟩ := decides_compile plain
    (List.mem_of_find?_eq_some found') some options backend text
  simp only [opposes.accepts_eq] at missed
  have opposite : (denied.Decides backend text true ↔ asked.Decides backend text false) ↔
      ∀ value ∈ operand.texts, ∀ other ∈ operand.texts,
        positive.accepts backend options text value =
          positive.accepts backend options text other := by
    rw [missed.iff_eq, accepted.iff_eq]
    exact any_not_opposite_iff some _
  refine ⟨positive, negated, asked, denied, found, found', compiled, compiled', ?_, ?_,
    fun single => opposite.mpr ?_, opposite⟩
  · rw [accepted.iff_eq, List.any_eq_true]
  · rw [missed.iff_eq, List.any_eq_true]
    simp only [Bool.not_eq_true']
  · obtain ⟨value, only⟩ := List.length_eq_one_iff.mp single
    simp [only]

/-- A single value, with a sign of patterns in it. -/
def discount : Operand := .single (.text "50%")

/-- Two values, which a text may contain both, one or none of. -/
def discounts : Operand := .list [.text "50%", .text "off"]

/-- One value: the title misses it. Two values: of one title they are both part, and of the other
one of them is, so that the condition and its negation are both true. -/
theorem negation_of_values_discount :
    ("contains", "does_not_contain") ∈ Operator.oppositeNames ∧ isIdentifier "title" = true ∧
    discount.texts ≠ [] ∧ discount.texts.length = 1 ∧ discounts.texts ≠ [] ∧
    (∃ positive negated asked denied,
      Operator.find? "contains" = some positive ∧
      Operator.find? "does_not_contain" = some negated ∧
      compile "title" positive discount escapingOptions = .ok asked ∧
      compile "title" negated discount escapingOptions = .ok denied ∧
      denied.Decides .postgres "500 OFF" true ∧ asked.Decides .postgres "500 OFF" false) ∧
    (∃ positive negated asked denied,
      Operator.find? "contains" = some positive ∧
      Operator.find? "does_not_contain" = some negated ∧
      compile "title" positive discounts escapingOptions = .ok asked ∧
      compile "title" negated discounts escapingOptions = .ok denied ∧
      asked.Decides .sqlite "50% OFF" true ∧ ¬ denied.Decides .sqlite "50% OFF" true ∧
      (denied.Decides .sqlite "50% OFF" true ↔ asked.Decides .sqlite "50% OFF" false)) ∧
    (∃ positive negated asked denied,
      Operator.find? "contains" = some positive ∧
      Operator.find? "does_not_contain" = some negated ∧
      compile "title" positive discounts escapingOptions = .ok asked ∧
      compile "title" negated discounts escapingOptions = .ok denied ∧
      asked.Decides .sqlite "500 OFF" true ∧ denied.Decides .sqlite "500 OFF" true ∧
      ¬ (denied.Decides .sqlite "500 OFF" true ↔ asked.Decides .sqlite "500 OFF" false)) := by
  have pair : ("contains", "does_not_contain") ∈ Operator.oppositeNames := by decide
  have plain : isIdentifier "title" = true := by decide
  have nonempty : discount.texts ≠ [] := by decide
  have nonempty' : discounts.texts ≠ [] := by decide
  refine ⟨pair, plain, nonempty, rfl, nonempty', ?single, ?both, ?one⟩
  case single =>
    obtain ⟨positive, negated, asked, denied, found, found', compiled, compiled', -, missed,
      single, -⟩ := negation_of_values pair plain nonempty escapingOptions .postgres "500 OFF"
    obtain rfl : ⟨"contains", "LIKE", some "%\x7b\x7d%"⟩ = positive := Option.some.inj found
    have denies := missed.mpr ⟨"50%", by decide, by decide +kernel⟩
    exact ⟨_, negated, asked, denied, found, found', compiled, compiled', denies,
      (single rfl).mp denies⟩
  case both =>
    obtain ⟨positive, negated, asked, denied, found, found', compiled, compiled', accepted, missed,
      -, opposite⟩ := negation_of_values pair plain nonempty' escapingOptions .sqlite "50% OFF"
    obtain rfl : ⟨"contains", "LIKE", some "%\x7b\x7d%"⟩ = positive := Option.some.inj found
    refine ⟨_, negated, asked, denied, found, found', compiled, compiled',
      accepted.mpr ⟨"off", by decide, by decide +kernel⟩, mt missed.mp ?_, opposite.mpr ?_⟩
    · decide +kernel
    · decide +kernel
  case one =>
    obtain ⟨positive, negated, asked, denied, found, found', compiled, compiled', accepted, missed,
      -, opposite⟩ := negation_of_values pair plain nonempty' escapingOptions .sqlite "500 OFF"
    obtain rfl : ⟨"contains", "LIKE", some "%\x7b\x7d%"⟩ = positive := Option.some.inj found
    refine ⟨_, negated, asked, denied, found, found', compiled, compiled',
      accepted.mpr ⟨"off", by decide, by decide +kernel⟩,
      missed.mpr ⟨"50%", by decide, by decide +kernel⟩, mt opposite.mp ?_⟩
    decide +kernel

/-- Two values for an attribute that has one. -/
def twoStates : Operand := .list [.text "draft", .text "final"]

/-- **A condition and its negation may both be true**: a text is always different from one of two
values. -/
theorem negation_of_two_values :
    ∃ positive negated asked denied,
      Operator.find? "is" = some positive ∧ Operator.find? "is_not" = some negated ∧
      compile "status" positive twoStates ⟨.reject, false⟩ = .ok asked ∧
      compile "status" negated twoStates ⟨.reject, false⟩ = .ok denied ∧
      asked.Decides .sqlite "Draft" true ∧ denied.Decides .sqlite "Draft" true ∧
      ¬ (denied.Decides .sqlite "Draft" true ↔ asked.Decides .sqlite "Draft" false) := by
  have equal : (Clause.compares "status" "=" false).Valid := ⟨by decide, by decide⟩
  have different : (Clause.compares "status" "<>" false).Valid := ⟨by decide, by decide⟩
  have asked : Decides ⟨"lower(status) = ? OR lower(status) = ?", ["draft", "final"]⟩ .sqlite
      "Draft" true :=
    ⟨.or (.last (.clause _ equal)) (.last (.last (.clause _ equal))), rfl, rfl⟩
  have denied : Decides ⟨"lower(status) <> ? OR lower(status) <> ?", ["draft", "final"]⟩ .sqlite
      "Draft" true :=
    ⟨.or (.last (.clause _ different)) (.last (.last (.clause _ different))), rfl, rfl⟩
  refine ⟨⟨"is", "=", none⟩, ⟨"is_not", "<>", none⟩, _, _, rfl, rfl, by decide +kernel,
    by decide +kernel, asked, denied, fun opposite => ?_⟩
  exact Bool.noConfusion ((asked.iff_eq false).mp (opposite.mp denied))

end Condition

end AttributeFilter
