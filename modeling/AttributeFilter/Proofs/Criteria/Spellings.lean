/-
**Two spellings of a criterion.**

A criterion is written as a list of column, operator and operand, or as an object with a member for
each of them. Both are read alike, alone and as an entry of a list of criteria, unless the operand
is null: null stands for no values in the list, but in the object only the missing member does.

* `ReadAlike` — two readings with the same result, or both refused for their shape.
* `Criterion.IsSpelledBy` — the objects that spell out a column, an operator and an operand.
* **`Criterion.writtenAsObject_iff_of_isSpelledBy`** — what such an object is a criterion for.
* **`Criteria.decode_spellings`** — the two spellings are read alike exactly where the operand is
  not null.
-/

import AttributeFilter.Proofs.Criteria.Shapes

namespace AttributeFilter

/-! ### Readings that agree -/

/-- Both readings have the same result, or both are refused for their shape. -/
inductive ReadAlike {Result : Type} : Except FilterError Result → Except FilterError Result → Prop
  | read (result : Result) : ReadAlike (.ok result) (.ok result)
  | refused (fault other : ShapeFault) :
      ReadAlike (.error (.invalidCriteriaShape fault)) (.error (.invalidCriteriaShape other))

namespace Criteria

/-- Whatever is refused is refused for its shape, so only the results have to be compared. -/
theorem readAlike_decode_iff {first second : Json} :
    ReadAlike (decode first) (decode second) ↔
      ∀ criteria, decode first = .ok criteria ↔ decode second = .ok criteria := by
  have shape (json : Json) := (decode_grammar json).2.2.2
  constructor
  · intro alike criteria
    generalize decode first = reading at alike ⊢
    generalize decode second = reading' at alike ⊢
    cases alike with
    | read result => exact Iff.rfl
    | refused fault other => simp
  · intro same
    rcases shape first with ⟨criteria, read⟩ | ⟨fault, refused⟩
    · rw [read, (same criteria).mp read]
      exact .read criteria
    · rcases shape second with ⟨criteria, read⟩ | ⟨other, refused'⟩
      · rw [(same criteria).mpr read] at refused
        cases refused
      · rw [refused, refused']
        exact .refused fault other

end Criteria

/-! ### One criterion -/

namespace Criterion

/-- The members of a decoded object that spell out a column, an operator and an operand, in any
order and among any others. -/
structure IsSpelledBy (column operator : String) (operand : Json)
    (members : List (String × Json)) : Prop where
  distinct : (members.map Prod.fst).Nodup
  column : ("column", .text column) ∈ members
  operator : ("operator", .text operator) ∈ members
  operand : ("value", operand) ∈ members

/-- Null is no operand by itself. -/
theorem not_writtenAs_null (operand : Operand) : ¬ operand.WrittenAs .null := by
  rw [← Operand.ofJson?_eq_some_iff]
  simp [Operand.ofJson?, Scalar.ofJson?]

section

variable {column operator : String} {operand : Json} {criterion : Criterion}

theorem writtenAsList_iff :
    criterion.WrittenAsList [.text column, .text operator, operand] ↔
      criterion.column = column ∧ criterion.operator = operator ∧
        (operand = .null ∧ criterion.operand = .list [] ∨ criterion.operand.WrittenAs operand) := by
  constructor
  · intro written
    cases written with
    | without => exact ⟨rfl, rfl, .inl ⟨rfl, rfl⟩⟩
    | comparing _ _ written => exact ⟨rfl, rfl, .inr written⟩
  · rcases criterion with ⟨column', operator', operand'⟩
    rintro ⟨rfl, rfl, ⟨rfl, rfl⟩ | written⟩
    · exact .without _ _
    · exact .comparing _ _ written

/-- **An object is a criterion for what it spells out**, and its operand must not be null. -/
theorem writtenAsObject_iff_of_isSpelledBy {members : List (String × Json)}
    (spelled : IsSpelledBy column operator operand members) :
    criterion.WrittenAsObject members ↔
      criterion.column = column ∧ criterion.operator = operator ∧
        criterion.operand.WrittenAs operand := by
  -- The keys are distinct, so a member is found by its key.
  have only {key : String} {value : Json} (spelling : (key, value) ∈ members) (json : Json) :
      (key, json) ∈ members ↔ json = value := by
    have found := (valuesOf_eq_singleton_iff spelled.distinct).mpr spelling
    rw [← valuesOf_eq_singleton_iff spelled.distinct, found]
    simp [eq_comm]
  have present : "value" ∈ members.map Prod.fst := List.mem_map.mpr ⟨_, spelled.operand, rfl⟩
  rw [writtenAsObject_iff spelled.distinct, only spelled.column, only spelled.operator]
  simp [only spelled.operand, present]

/-- The two spellings of a criterion stand for the same unless the operand is null. -/
theorem writtenAsList_iff_writtenAsObject {members : List (String × Json)}
    (spelled : IsSpelledBy column operator operand members) (notNull : operand ≠ .null) :
    criterion.WrittenAsList [.text column, .text operator, operand] ↔
      criterion.WrittenAsObject members := by
  rw [writtenAsList_iff, writtenAsObject_iff_of_isSpelledBy spelled,
    or_iff_right fun both => notNull both.1]

theorem not_writtenAsObject_of_null {members : List (String × Json)}
    (spelled : IsSpelledBy column operator .null members) :
    ¬ criterion.WrittenAsObject members := by
  rw [writtenAsObject_iff_of_isSpelledBy spelled]
  exact fun written => not_writtenAs_null _ written.2.2

end

end Criterion

/-! ### Alone and in a list -/

namespace Criteria

theorem decode_elements_eq_ok_iff {column : String} {rest : List Json} {criteria : Criteria} :
    decode (.array (.text column :: rest)) = .ok criteria ↔
      ∃ criterion : Criterion, criteria = .one criterion ∧
        criterion.WrittenAsList (.text column :: rest) := by
  rw [decode_eq_ok_iff]
  constructor
  · intro written
    cases written with
    | list written => exact ⟨_, rfl, written⟩
    | many begins => exact begins.elim
  · rintro ⟨criterion, rfl, written⟩
    exact .list written

theorem decode_members_eq_ok_iff {members : List (String × Json)} {criteria : Criteria} :
    decode (.object members) = .ok criteria ↔
      ∃ criterion : Criterion, criteria = .one criterion ∧ criterion.WrittenAsObject members := by
  rw [decode_eq_ok_iff]
  constructor
  · intro written
    cases written with
    | object written => exact ⟨_, rfl, written⟩
  · rintro ⟨criterion, rfl, written⟩
    exact .object written

/-- What is read of a list of criteria whose entry behind `before` is `item`. -/
theorem decode_listed_eq_ok_iff {before after : List Json} {item : Json} {criteria : Criteria}
    (begins : ∀ first ∈ (before ++ [item]).head?, first.BeginsCriteria) :
    decode (.array (before ++ item :: after)) = .ok criteria ↔
      ∃ entries, criteria = .many entries ∧
        List.Forall₂ Criterion.EntryWrittenAs entries (before ++ item :: after) := by
  obtain ⟨first, rest, whole, opening⟩ : ∃ first rest, before ++ item :: after = first :: rest ∧
      first.BeginsCriteria := by
    cases before with
    | nil => exact ⟨item, after, rfl, begins item rfl⟩
    | cons first rest => exact ⟨first, rest ++ item :: after, rfl, begins first rfl⟩
  rw [whole, decode_eq_ok_iff]
  constructor
  · intro written
    cases written with
    | many _ entries => exact ⟨_, rfl, entries⟩
    -- A list that begins like criteria is no criterion.
    | list written => cases written <;> exact opening.elim
  · rintro ⟨entries, rfl, written⟩
    exact .many opening written

/-- An entry of a list may be exchanged for another that stands for the same. -/
theorem forall₂_entries_congr {before after : List Json} {item other : Json}
    (same : ∀ entry, Criterion.EntryWrittenAs entry item ↔ Criterion.EntryWrittenAs entry other)
    {entries : List (Option Criterion)} :
    List.Forall₂ Criterion.EntryWrittenAs entries (before ++ item :: after) ↔
      List.Forall₂ Criterion.EntryWrittenAs entries (before ++ other :: after) := by
  induction before generalizing entries with
  | nil => simp only [List.nil_append, List.forall₂_cons_right_iff, same]
  | cons first rest ih => simp only [List.cons_append, List.forall₂_cons_right_iff, ih]

theorem entryWrittenAs_elements_iff {first : Json} {rest : List Json}
    {entry : Option Criterion} :
    Criterion.EntryWrittenAs entry (.array (first :: rest)) ↔
      ∃ criterion : Criterion, entry = some criterion ∧
        criterion.WrittenAsList (first :: rest) := by
  constructor
  · intro written
    cases written with
    | list written => exact ⟨_, rfl, written⟩
  · rintro ⟨criterion, rfl, written⟩
    exact .list written

theorem entryWrittenAs_members_iff {members : List (String × Json)} {entry : Option Criterion} :
    Criterion.EntryWrittenAs entry (.object members) ↔
      ∃ criterion : Criterion, entry = some criterion ∧ criterion.WrittenAsObject members := by
  constructor
  · intro written
    cases written with
    | object written => exact ⟨_, rfl, written⟩
  · rintro ⟨criterion, rfl, written⟩
    exact .object written

/-- A list with an entry that stands for nothing is refused. -/
theorem not_forall₂_entries {before after : List Json} {item : Json}
    (nothing : ∀ entry, ¬ Criterion.EntryWrittenAs entry item)
    {entries : List (Option Criterion)} :
    ¬ List.Forall₂ Criterion.EntryWrittenAs entries (before ++ item :: after) := by
  induction before generalizing entries with
  | nil =>
    rw [List.nil_append, List.forall₂_cons_right_iff]
    rintro ⟨entry, _, written, -⟩
    exact nothing entry written
  | cons first rest ih =>
    rw [List.cons_append, List.forall₂_cons_right_iff]
    rintro ⟨_, _, -, onward, -⟩
    exact ih onward

section

variable {column operator : String} {operand : Json} {members : List (String × Json)}

/-- With null for the operand the list is a criterion without values, and the object is refused. -/
theorem decode_of_null (spelled : Criterion.IsSpelledBy column operator operand members)
    (null : operand = .null) :
    decode (.array [.text column, .text operator, operand]) =
      .ok (.one ⟨column, operator, .list []⟩) ∧
    ∃ fault, decode (.object members) = .error (.invalidCriteriaShape fault) := by
  subst null
  refine ⟨rfl, ((decode_grammar _).2.2.2).resolve_left ?_⟩
  rintro ⟨criteria, read⟩
  obtain ⟨criterion, -, written⟩ := decode_members_eq_ok_iff.mp read
  exact Criterion.not_writtenAsObject_of_null spelled written

/-- The two spellings alone. -/
theorem readAlike_alone_iff (spelled : Criterion.IsSpelledBy column operator operand members) :
    ReadAlike (decode (.array [.text column, .text operator, operand]))
      (decode (.object members)) ↔ operand ≠ .null := by
  constructor
  · intro alike null
    obtain ⟨read, fault, refused⟩ := decode_of_null spelled null
    rw [read, refused] at alike
    cases alike
  · intro notNull
    refine readAlike_decode_iff.mpr fun criteria => ?_
    simp only [decode_elements_eq_ok_iff, decode_members_eq_ok_iff,
      Criterion.writtenAsList_iff_writtenAsObject spelled notNull]

/-- The two spellings as entries of a list. -/
theorem readAlike_listed_iff (spelled : Criterion.IsSpelledBy column operator operand members)
    {before : List Json} (begins : ∀ first ∈ before.head?, first.BeginsCriteria)
    (after : List Json) :
    ReadAlike
        (decode (.array (before ++ .array [.text column, .text operator, operand] :: after)))
        (decode (.array (before ++ .object members :: after))) ↔
      operand ≠ .null ∨ ∀ criteria,
        decode (.array (before ++ .array [.text column, .text operator, operand] :: after)) ≠
          .ok criteria := by
  have opening (item : Json) (opens : item.BeginsCriteria) :
      ∀ first ∈ (before ++ [item]).head?, first.BeginsCriteria := by
    intro first leads
    cases before with
    | nil => exact Option.some.inj leads ▸ opens
    | cons => exact begins first leads
  have listed := opening (.array [.text column, .text operator, operand]) trivial
  have listed' := opening (.object members) trivial
  rw [readAlike_decode_iff]
  by_cases null : operand = .null
  · -- The object is no entry, so the readings agree only where the list is refused, too.
    subst null
    have refused (criteria : Criteria) :
        decode (.array (before ++ .object members :: after)) ≠ .ok criteria := by
      rw [Ne, decode_listed_eq_ok_iff listed']
      rintro ⟨entries, -, written⟩
      refine not_forall₂_entries (fun entry entryWritten => ?_) written
      obtain ⟨criterion, -, here⟩ := entryWrittenAs_members_iff.mp entryWritten
      exact Criterion.not_writtenAsObject_of_null spelled here
    simp [refused]
  · refine iff_of_true (fun criteria => ?_) (.inl null)
    have same (entry : Option Criterion) :
        Criterion.EntryWrittenAs entry (.array [.text column, .text operator, operand]) ↔
          Criterion.EntryWrittenAs entry (.object members) := by
      rw [entryWrittenAs_elements_iff, entryWrittenAs_members_iff]
      simp only [Criterion.writtenAsList_iff_writtenAsObject spelled null]
    rw [decode_listed_eq_ok_iff listed, decode_listed_eq_ok_iff listed']
    simp only [forall₂_entries_congr same]

end

/-- **The two spellings of a criterion are read alike exactly where the operand is not null**: alone,
and at any place of a list of criteria, where they are refused alike also if another entry is. With
null for the operand the list is a criterion without values, and the object is refused. -/
theorem decode_spellings {column operator : String} {operand : Json}
    {members : List (String × Json)}
    (spelled : Criterion.IsSpelledBy column operator operand members) :
    (ReadAlike (decode (.array [.text column, .text operator, operand]))
        (decode (.object members)) ↔ operand ≠ .null) ∧
    (∀ before after : List Json, (∀ first ∈ before.head?, first.BeginsCriteria) →
      (ReadAlike
          (decode (.array (before ++ .array [.text column, .text operator, operand] :: after)))
          (decode (.array (before ++ .object members :: after))) ↔
        operand ≠ .null ∨ ∀ criteria,
          decode (.array (before ++ .array [.text column, .text operator, operand] :: after)) ≠
            .ok criteria)) ∧
    (operand = .null →
      decode (.array [.text column, .text operator, operand]) =
        .ok (.one ⟨column, operator, .list []⟩) ∧
      ∃ fault, decode (.object members) = .error (.invalidCriteriaShape fault)) := by
  refine ⟨readAlike_alone_iff spelled, fun before after begins => ?_, decode_of_null spelled⟩
  exact readAlike_listed_iff spelled begins after

/-- The members of a criterion in an order of their own, with one that is not known. -/
def scatteredMembers : List (String × Json) :=
  [("note", .object []), ("value", .array [.text "red", .boolean true]), ("operator", .text "is"),
    ("column", .text "tags")]

theorem decode_spellings_scattered :
    Criterion.IsSpelledBy "tags" "is" (.array [.text "red", .boolean true]) scatteredMembers ∧
    ReadAlike (decode (.array [.text "tags", .text "is", .array [.text "red", .boolean true]]))
      (decode (.object scatteredMembers)) ∧
    ReadAlike
      (decode (.array [.null, .array [.text "tags", .text "is",
        .array [.text "red", .boolean true]], .array []]))
      (decode (.array [.null, .object scatteredMembers, .array []])) := by
  have spelled : Criterion.IsSpelledBy "tags" "is" (.array [.text "red", .boolean true])
      scatteredMembers := by
    refine ⟨by decide, ?_, ?_, ?_⟩
    · simp [scatteredMembers]
    · simp [scatteredMembers]
    · simp [scatteredMembers]
  have notNull : Json.array [.text "red", .boolean true] ≠ .null := by simp
  obtain ⟨alone, listed, -⟩ := decode_spellings spelled
  have begins : ∀ first ∈ [Json.null].head?, first.BeginsCriteria := by
    rintro _ ⟨⟩
    trivial
  exact ⟨spelled, alone.mpr notNull, (listed [.null] [.array []] begins).mpr (.inl notNull)⟩

/-- **Null is read as no values in a list, and refused in an object.** -/
theorem decode_null_operand :
    decode (.array [.text "name", .text "is", .null]) = .ok (.one ⟨"name", "is", .list []⟩) ∧
    decode (.object [("column", .text "name"), ("operator", .text "is"), ("value", .null)]) =
      .error (.invalidCriteriaShape .memberNotScalars) ∧
    ¬ ReadAlike (decode (.array [.text "name", .text "is", .null]))
      (decode (.object [("column", .text "name"), ("operator", .text "is"),
        ("value", .null)])) := by
  refine ⟨rfl, rfl, fun alike => ?_⟩
  have read : decode (.array [.text "name", .text "is", .null]) =
      .ok (.one ⟨"name", "is", .list []⟩) := rfl
  have refused : decode (.object [("column", .text "name"), ("operator", .text "is"),
      ("value", .null)]) = .error (.invalidCriteriaShape .memberNotScalars) := rfl
  rw [read, refused] at alike
  cases alike

end Criteria

end AttributeFilter
