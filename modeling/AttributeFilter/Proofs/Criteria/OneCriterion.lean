/-
**The shapes of a criterion.**

Which JSON values are scalars, operands and criteria, and which ones they are, is said here by
relations between the two. Reading decides each of them, in both directions.

* `Criterion.WrittenAsList` — a criterion written as a list of its three elements.
* `Criterion.WrittenAsObject` — what is asked of the members of an object, in whatever order and
  among whatever others they stand.
* `Criterion.Draft.addAll_eq_ok_iff` — reading the members one after another fills every slot at
  most once.
* **`Criterion.ofElements_eq_ok_iff`**, **`Criterion.ofMembers_eq_ok_iff`** — what a criterion is
  read from.
* **`Criterion.writtenAsObject_iff`** — where the keys of an object are distinct, as they are once it
  is decoded, only the members themselves matter.
-/

import AttributeFilter.Criteria.OfJson
import Mathlib.Data.List.Forall2

namespace AttributeFilter

/-! ### Scalars and operands -/

/-- The scalar that a JSON value stands for: a number is whole if it is an integer of 64 bits with
sign. -/
inductive Scalar.WrittenAs : Scalar → Json → Prop
  | text (value : String) : WrittenAs (.text value) (.text value)
  | integer (value : Int64) : WrittenAs (.integer value) (.number (.integer value.toInt))
  | large {value : Int} :
      value < Int64.minValue.toInt ∨ Int64.maxValue.toInt < value →
      WrittenAs (.float (Float.ofInt value)) (.number (.integer value))
  | float (value : Float) : WrittenAs (.float value) (.number (.float value))
  | boolean (value : Bool) : WrittenAs (.boolean value) (.boolean value)

/-- The operand that a JSON value stands for: a scalar or a list of scalars. -/
inductive Operand.WrittenAs : Operand → Json → Prop
  | single {value : Scalar} {json : Json} : value.WrittenAs json → WrittenAs (.single value) json
  | list {values : List Scalar} {items : List Json} :
      List.Forall₂ Scalar.WrittenAs values items → WrittenAs (.list values) (.array items)

theorem Scalar.ofInteger_writtenAs (value : Int) :
    (Scalar.ofInteger value).WrittenAs (.number (.integer value)) := by
  unfold Scalar.ofInteger
  split
  · rename_i range
    have kept : (Int64.ofInt value).toInt = value :=
      Int64.toInt_ofInt_of_le range.1 (Int.lt_of_le_of_lt range.2 (by decide))
    have written := Scalar.WrittenAs.integer (Int64.ofInt value)
    rwa [kept] at written
  · rename_i beyond
    exact .large (by omega)

theorem Scalar.ofJson?_eq_some_iff {json : Json} {scalar : Scalar} :
    Scalar.ofJson? json = some scalar ↔ scalar.WrittenAs json := by
  constructor
  · intro read
    unfold Scalar.ofJson? at read
    split at read
    · cases read
      exact .text _
    · cases read
      exact Scalar.ofInteger_writtenAs _
    · cases read
      exact .float _
    · cases read
      exact .boolean _
    · cases read
  · intro written
    cases written with
    | text value => rfl
    | integer value =>
      rw [Scalar.ofJson?, Scalar.ofInteger,
        if_pos ⟨Int64.minValue_le_toInt value, Int64.toInt_le value⟩, Int64.ofInt_toInt]
    | large beyond => rw [Scalar.ofJson?, Scalar.ofInteger, if_neg (by omega)]
    | float value => rfl
    | boolean value => rfl

theorem Scalar.listOfJson?_eq_some_iff {items : List Json} {values : List Scalar} :
    Scalar.listOfJson? items = some values ↔ List.Forall₂ Scalar.WrittenAs values items := by
  induction items generalizing values with
  | nil => simp [Scalar.listOfJson?, eq_comm]
  | cons item rest ih =>
    simp only [List.forall₂_cons_right_iff, ← ih, ← Scalar.ofJson?_eq_some_iff, Scalar.listOfJson?]
    cases Scalar.ofJson? item <;> cases Scalar.listOfJson? rest <;> simp [eq_comm]

theorem Operand.ofJson?_eq_some_iff {json : Json} {operand : Operand} :
    Operand.ofJson? json = some operand ↔ operand.WrittenAs json := by
  constructor
  · intro read
    unfold Operand.ofJson? at read
    split at read
    · obtain ⟨values, list, rfl⟩ := Option.map_eq_some_iff.mp read
      exact .list (Scalar.listOfJson?_eq_some_iff.mp list)
    · obtain ⟨value, scalar, rfl⟩ := Option.map_eq_some_iff.mp read
      exact .single (Scalar.ofJson?_eq_some_iff.mp scalar)
  · intro written
    cases written with
    | single scalar =>
      have read := Scalar.ofJson?_eq_some_iff.mpr scalar
      cases scalar <;> simp only [Operand.ofJson?, read, Option.map_some]
    | list values =>
      rw [Operand.ofJson?, Scalar.listOfJson?_eq_some_iff.mpr values, Option.map_some]

/-! ### Results of a sequence -/

theorem Except.bind_eq_ok_iff {Failure First Second : Type} {first : Except Failure First}
    {next : First → Except Failure Second} {result : Second} :
    first >>= next = .ok result ↔ ∃ value, first = .ok value ∧ next value = .ok result := by
  cases first <;> simp [bind, Except.bind]

namespace Criterion

/-! ### A criterion written as a list -/

/-- A list of column, operator and operand, in which null stands for no values. -/
inductive WrittenAsList : Criterion → List Json → Prop
  | without (column operator : String) :
      WrittenAsList ⟨column, operator, .list []⟩ [.text column, .text operator, .null]
  | comparing (column operator : String) {operand : Operand} {json : Json} :
      operand.WrittenAs json →
      WrittenAsList ⟨column, operator, operand⟩ [.text column, .text operator, json]

theorem operandOfElement_eq_ok_iff {json : Json} {operand : Operand} :
    operandOfElement json = .ok operand ↔
      json = .null ∧ operand = .list [] ∨ operand.WrittenAs json := by
  have null : ¬ operand.WrittenAs .null := by
    rw [← Operand.ofJson?_eq_some_iff]
    simp [Operand.ofJson?, Scalar.ofJson?]
  unfold operandOfElement
  split
  · simp [null, eq_comm]
  · rename_i notNull
    rw [or_iff_right fun both => notNull both.1, ← Operand.ofJson?_eq_some_iff]
    cases Operand.ofJson? json <;> simp

theorem ofElements_eq_ok_iff {elements : List Json} {criterion : Criterion} :
    ofElements elements = .ok criterion ↔ criterion.WrittenAsList elements := by
  constructor
  · intro read
    unfold ofElements at read
    split at read
    · split at read
      · obtain ⟨operand, taken, whole⟩ := Except.bind_eq_ok_iff.mp read
        cases whole
        rcases operandOfElement_eq_ok_iff.mp taken with ⟨rfl, rfl⟩ | written
        · exact .without _ _
        · exact .comparing _ _ written
      · cases read
      · cases read
    · cases read
  · intro written
    cases written with
    | without column operator => rfl
    | comparing column operator operand =>
      have taken := operandOfElement_eq_ok_iff.mpr (.inr operand)
      rw [ofElements, taken]
      rfl

/-! ### A criterion written as an object -/

/-- The values of the members with a key, in order. -/
def valuesOf (key : String) (members : List (String × Json)) : List Json :=
  (members.filter fun member => member.1 == key).map Prod.snd

/-- A member column and a member operator, both texts, and possibly a member for the operand. What
other members there are and how they are ordered does not matter. -/
structure WrittenAsObject (criterion : Criterion) (members : List (String × Json)) : Prop where
  column : valuesOf "column" members = [.text criterion.column]
  operator : valuesOf "operator" members = [.text criterion.operator]
  operand : valuesOf "value" members = [] ∧ criterion.operand = .list [] ∨
    ∃ json, valuesOf "value" members = [json] ∧ criterion.operand.WrittenAs json

/-- What the values of a key make of a slot: it is kept without values and filled by a single one,
but never filled twice. -/
inductive Fills {Value : Type} (written : Value → Json → Prop) :
    Option Value → List Json → Option Value → Prop
  | kept (slot : Option Value) : Fills written slot [] slot
  | filled {value : Value} {json : Json} :
      written value json → Fills written none [json] (some value)

namespace Fills

variable {Value : Type} {written : Value → Json → Prop} {slot final : Option Value}

theorem nil_iff : Fills written slot [] final ↔ final = slot := by
  constructor
  · intro fills
    cases fills
    rfl
  · rintro rfl
    exact .kept _

theorem singleton_iff {json : Json} :
    Fills written slot [json] final ↔
      slot = none ∧ ∃ value, written value json ∧ final = some value := by
  constructor
  · intro fills
    cases fills with
    | filled value => exact ⟨rfl, _, value, rfl⟩
  · rintro ⟨rfl, value, read, rfl⟩
    exact .filled read

/-- Values fill a slot one after another. -/
theorem append_iff {first others : List Json} :
    Fills written slot (first ++ others) final ↔
      ∃ middle, Fills written slot first middle ∧ Fills written middle others final := by
  constructor
  · intro fills
    cases first with
    | nil => exact ⟨slot, .kept _, fills⟩
    | cons json rest =>
      generalize shape : json :: rest ++ others = whole at fills
      cases fills with
      | kept => cases shape
      | filled value =>
        obtain ⟨rfl, nothing⟩ := List.cons.inj shape
        obtain ⟨rfl, rfl⟩ := List.append_eq_nil_iff.mp nothing
        exact ⟨_, .filled value, .kept _⟩
  · rintro ⟨middle, before, behind⟩
    cases before with
    | kept => exact behind
    | filled value =>
      cases behind
      exact .filled value

theorem none_some_iff {values : List Json} {value : Value} :
    Fills written none values (some value) ↔ ∃ json, values = [json] ∧ written value json := by
  constructor
  · intro fills
    cases fills with
    | filled read => exact ⟨_, rfl, read⟩
  · rintro ⟨json, rfl, read⟩
    exact .filled read

theorem none_none_iff {values : List Json} : Fills written none values none ↔ values = [] := by
  constructor
  · intro fills
    cases fills
    rfl
  · rintro rfl
    exact .kept none

end Fills

/-- A text stands for itself alone. -/
def TextWrittenAs (value : String) (json : Json) : Prop := json = .text value

theorem memberText_eq_ok_iff (json : Json) (value : String) :
    memberText json = .ok value ↔ TextWrittenAs value json := by
  cases json <;> simp [memberText, TextWrittenAs]

theorem memberOperand_eq_ok_iff (json : Json) (operand : Operand) :
    memberOperand json = .ok operand ↔ operand.WrittenAs json := by
  rw [← Operand.ofJson?_eq_some_iff, memberOperand]
  cases Operand.ofJson? json <;> simp

theorem requireNew_eq_ok_iff {Value : Type} {key : String} {slot : Option Value} {done : Unit} :
    requireNew key slot = .ok done ↔ slot = none := by
  cases slot <;> simp [requireNew]

/-- The members fill the slots of a draft, each by its key. -/
structure Draft.Fills (draft : Draft) (members : List (String × Json)) (final : Draft) : Prop where
  column : Criterion.Fills TextWrittenAs draft.column (valuesOf "column" members) final.column
  operator :
    Criterion.Fills TextWrittenAs draft.operator (valuesOf "operator" members) final.operator
  operand :
    Criterion.Fills Operand.WrittenAs draft.operand (valuesOf "value" members) final.operand

namespace Draft

variable {draft final : Draft}

theorem eq_of_slots (column : final.column = draft.column)
    (operator : final.operator = draft.operator) (operand : final.operand = draft.operand) :
    draft = final := by
  cases draft
  cases final
  rw [Draft.mk.injEq]
  exact ⟨column.symm, operator.symm, operand.symm⟩

theorem fills_nil_iff : draft.Fills [] final ↔ final = draft := by
  constructor
  · rintro ⟨column, operator, operand⟩
    exact (eq_of_slots (Fills.nil_iff.mp column) (Fills.nil_iff.mp operator)
      (Fills.nil_iff.mp operand)).symm
  · rintro rfl
    exact ⟨.kept _, .kept _, .kept _⟩

theorem fills_append_iff {first others : List (String × Json)} :
    draft.Fills (first ++ others) final ↔
      ∃ middle : Draft, draft.Fills first middle ∧ middle.Fills others final := by
  have split (key : String) :
      valuesOf key (first ++ others) = valuesOf key first ++ valuesOf key others := by
    simp [valuesOf]
  constructor
  · rintro ⟨column, operator, operand⟩
    rw [split, Fills.append_iff] at column operator operand
    obtain ⟨columns, column, column'⟩ := column
    obtain ⟨operators, operator, operator'⟩ := operator
    obtain ⟨operands, operand, operand'⟩ := operand
    exact ⟨⟨columns, operators, operands⟩, ⟨column, operator, operand⟩,
      ⟨column', operator', operand'⟩⟩
  · rintro ⟨middle, before, behind⟩
    exact ⟨split _ ▸ Fills.append_iff.mpr ⟨_, before.column, behind.column⟩,
      split _ ▸ Fills.append_iff.mpr ⟨_, before.operator, behind.operator⟩,
      split _ ▸ Fills.append_iff.mpr ⟨_, before.operand, behind.operand⟩⟩

/-- A slot is filled by what the member of its key is read as, unless there was one before. -/
theorem fillSlot_eq_ok_iff {Value : Type} {read : Json → Except ShapeFault Value}
    {written : Value → Json → Prop}
    (reads : ∀ json value, read json = .ok value ↔ written value json)
    {key : String} {slot : Option Value} {json : Json} {put : Value → Draft} :
    (do requireNew key slot; return put (← read json)) = .ok final ↔
      ∃ value, Criterion.Fills written slot [json] (some value) ∧ put value = final := by
  simp only [Except.bind_eq_ok_iff, requireNew_eq_ok_iff, reads, pure, Except.pure,
    Except.ok.injEq]
  constructor
  · rintro ⟨-, empty, value, read, whole⟩
    exact ⟨value, Fills.singleton_iff.mpr ⟨empty, value, read, rfl⟩, whole⟩
  · rintro ⟨value, fills, whole⟩
    obtain ⟨empty, other, read, same⟩ := Fills.singleton_iff.mp fills
    exact ⟨(), empty, value, Option.some.inj same ▸ read, whole⟩

/-- A member fills no slot but that of its key. -/
theorem fills_other_iff {Value : Type} {written : Value → Json → Prop} {slot last : Option Value}
    {key known : String} (other : key ≠ known) {json : Json} :
    Criterion.Fills written slot (valuesOf known [(key, json)]) last ↔ last = slot := by
  have nothing : valuesOf known [(key, json)] = [] := by simp [valuesOf, other]
  rw [nothing, Fills.nil_iff]

/-- **One member fills the slot of its key**, if it is empty. -/
theorem add_eq_ok_iff {key : String} {json : Json} :
    draft.add key json = .ok final ↔ draft.Fills [(key, json)] final := by
  unfold add
  split
  · rename_i here
    subst here
    rw [fillSlot_eq_ok_iff memberText_eq_ok_iff]
    constructor
    · rintro ⟨text, column, rfl⟩
      exact ⟨column, .kept _, .kept _⟩
    · rintro ⟨column, operator, operand⟩
      obtain ⟨-, text, -, filled⟩ := Fills.singleton_iff.mp column
      exact ⟨text, filled ▸ column, eq_of_slots filled (Fills.nil_iff.mp operator)
        (Fills.nil_iff.mp operand)⟩
  split
  · rename_i here
    subst here
    rw [fillSlot_eq_ok_iff memberText_eq_ok_iff]
    constructor
    · rintro ⟨text, operator, rfl⟩
      exact ⟨.kept _, operator, .kept _⟩
    · rintro ⟨column, operator, operand⟩
      obtain ⟨-, text, -, filled⟩ := Fills.singleton_iff.mp operator
      exact ⟨text, filled ▸ operator, eq_of_slots (Fills.nil_iff.mp column) filled
        (Fills.nil_iff.mp operand)⟩
  split
  · rename_i here
    subst here
    rw [fillSlot_eq_ok_iff memberOperand_eq_ok_iff]
    constructor
    · rintro ⟨value, operand, rfl⟩
      exact ⟨.kept _, .kept _, operand⟩
    · rintro ⟨column, operator, operand⟩
      obtain ⟨-, value, -, filled⟩ := Fills.singleton_iff.mp operand
      exact ⟨value, filled ▸ operand, eq_of_slots (Fills.nil_iff.mp column)
        (Fills.nil_iff.mp operator) filled⟩
  · rename_i noColumn noOperator noOperand
    constructor
    · intro kept
      cases kept
      exact ⟨(fills_other_iff noColumn).mpr rfl, (fills_other_iff noOperator).mpr rfl,
        (fills_other_iff noOperand).mpr rfl⟩
    · rintro ⟨column, operator, operand⟩
      have same : draft = final := eq_of_slots ((fills_other_iff noColumn).mp column)
        ((fills_other_iff noOperator).mp operator) ((fills_other_iff noOperand).mp operand)
      rw [same]
      rfl

/-- **Members fill the slots one after another.** -/
theorem addAll_eq_ok_iff {members : List (String × Json)} :
    draft.addAll members = .ok final ↔ draft.Fills members final := by
  induction members generalizing draft with
  | nil =>
    rw [addAll, fills_nil_iff]
    simp [eq_comm]
  | cons member rest ih =>
    rw [addAll, Except.bind_eq_ok_iff, ← List.singleton_append, fills_append_iff]
    simp only [add_eq_ok_iff, ih]

theorem finish_eq_ok_iff {criterion : Criterion} :
    draft.finish = .ok criterion ↔
      draft.column = some criterion.column ∧ draft.operator = some criterion.operator ∧
        draft.operand.getD (.list []) = criterion.operand := by
  rcases draft with ⟨column, operator, operand⟩
  cases criterion
  cases column <;> cases operator <;> simp [finish]

end Draft

theorem ofMembers_eq_ok_iff {members : List (String × Json)} {criterion : Criterion} :
    ofMembers members = .ok criterion ↔ criterion.WrittenAsObject members := by
  rw [ofMembers, Except.bind_eq_ok_iff]
  simp only [Draft.addAll_eq_ok_iff, Draft.finish_eq_ok_iff]
  constructor
  · rintro ⟨draft, ⟨column, operator, operand⟩, columnRead, operatorRead, operandRead⟩
    rw [columnRead, Fills.none_some_iff] at column
    rw [operatorRead, Fills.none_some_iff] at operator
    obtain ⟨_, columnValues, rfl⟩ := column
    obtain ⟨_, operatorValues, rfl⟩ := operator
    refine ⟨columnValues, operatorValues, ?_⟩
    cases slot : draft.operand with
    | none =>
      rw [slot] at operand operandRead
      exact .inl ⟨Fills.none_none_iff.mp operand, operandRead.symm⟩
    | some value =>
      rw [slot] at operand operandRead
      exact .inr (operandRead ▸ Fills.none_some_iff.mp operand)
  · rintro ⟨column, operator, operand⟩
    have columnFills : Fills TextWrittenAs none (valuesOf "column" members)
        (some criterion.column) := Fills.none_some_iff.mpr ⟨_, column, rfl⟩
    have operatorFills : Fills TextWrittenAs none (valuesOf "operator" members)
        (some criterion.operator) := Fills.none_some_iff.mpr ⟨_, operator, rfl⟩
    rcases operand with ⟨nothing, empty⟩ | written
    · exact ⟨⟨_, _, none⟩, ⟨columnFills, operatorFills, Fills.none_none_iff.mpr nothing⟩, rfl, rfl,
        empty.symm⟩
    · exact ⟨⟨_, _, some criterion.operand⟩,
        ⟨columnFills, operatorFills, Fills.none_some_iff.mpr written⟩, rfl, rfl, rfl⟩

/-! ### The members of a decoded object -/

theorem valuesOf_eq_nil_iff {key : String} {members : List (String × Json)} :
    valuesOf key members = [] ↔ key ∉ members.map Prod.fst := by
  simp only [valuesOf, List.map_eq_nil_iff, List.filter_eq_nil_iff, beq_iff_eq, List.mem_map,
    not_exists, not_and]

theorem valuesOf_eq_singleton_iff {key : String} {members : List (String × Json)} {json : Json}
    (distinct : (members.map Prod.fst).Nodup) :
    valuesOf key members = [json] ↔ (key, json) ∈ members := by
  induction members with
  | nil => simp [valuesOf]
  | cons member rest ih =>
    rcases member with ⟨known, value⟩
    obtain ⟨fresh, others⟩ := List.nodup_cons.mp distinct
    by_cases same : known = key
    · subst same
      have split : valuesOf known ((known, value) :: rest) = [value] := by
        have nothing := valuesOf_eq_nil_iff.mpr fresh
        rw [valuesOf] at nothing ⊢
        simp [nothing]
      have absent : (known, json) ∉ rest := fun later =>
        fresh (List.mem_map.mpr ⟨_, later, rfl⟩)
      simp [split, absent, eq_comm]
    · have skipped : valuesOf key ((known, value) :: rest) = valuesOf key rest := by
        simp [valuesOf, same]
      rw [skipped, ih others, List.mem_cons, Prod.mk.injEq,
        or_iff_right fun both => same both.1.symm]

/-- **Only the members of an object matter**, not their order, and among them only those with the
three keys. -/
theorem writtenAsObject_iff {criterion : Criterion} {members : List (String × Json)}
    (distinct : (members.map Prod.fst).Nodup) :
    criterion.WrittenAsObject members ↔
      ("column", .text criterion.column) ∈ members ∧
      ("operator", .text criterion.operator) ∈ members ∧
      ("value" ∉ members.map Prod.fst ∧ criterion.operand = .list [] ∨
        ∃ json, ("value", json) ∈ members ∧ criterion.operand.WrittenAs json) := by
  simp only [← valuesOf_eq_singleton_iff distinct, ← valuesOf_eq_nil_iff]
  exact ⟨fun ⟨column, operator, operand⟩ => ⟨column, operator, operand⟩,
    fun ⟨column, operator, operand⟩ => ⟨column, operator, operand⟩⟩

end Criterion

end AttributeFilter
