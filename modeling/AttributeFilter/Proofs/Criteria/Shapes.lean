/-
**The shapes of criteria.**

Nothing is asked for, or one criterion, or a list of them in which places may be left empty. What a
value begins with tells these apart, so that every value is criteria in one way at most.

* `Criterion.EntryWrittenAs`, `Criteria.WrittenAs` — the entries of such a list, and criteria.
* `Criteria.ofJson_eq_ok_iff` — reading decides which criteria a value is.
* **`Criteria.decode_grammar`** — the grammar of criteria as a whole.
-/

import AttributeFilter.Criteria.OfText
import AttributeFilter.Proofs.Criteria.OneCriterion

namespace AttributeFilter

/-! ### Criteria -/

/-- The entry of a list of criteria that a JSON value stands for. -/
inductive Criterion.EntryWrittenAs : Option Criterion → Json → Prop
  | null : EntryWrittenAs none .null
  | empty : EntryWrittenAs none (.array [])
  | list {criterion : Criterion} {elements : List Json} :
      criterion.WrittenAsList elements → EntryWrittenAs (some criterion) (.array elements)
  | object {criterion : Criterion} {members : List (String × Json)} :
      criterion.WrittenAsObject members → EntryWrittenAs (some criterion) (.object members)

/-- Whether a list with this first item is a list of criteria. -/
def Json.BeginsCriteria : Json → Prop
  | .array _ | .object _ | .null => True
  | _ => False

namespace Criteria

theorem entryOfJson_eq_ok_iff {index : Nat} {json : Json} {entry : Option Criterion} :
    entryOfJson index json = .ok entry ↔ Criterion.EntryWrittenAs entry json := by
  constructor
  · intro read
    unfold entryOfJson at read
    split at read
    · cases read
      exact .null
    · cases read
      exact .empty
    · obtain ⟨criterion, elements, whole⟩ := Except.bind_eq_ok_iff.mp read
      cases whole
      exact .list (Criterion.ofElements_eq_ok_iff.mp elements)
    · obtain ⟨criterion, members, whole⟩ := Except.bind_eq_ok_iff.mp read
      cases whole
      exact .object (Criterion.ofMembers_eq_ok_iff.mp members)
    · cases read
  · intro written
    cases written with
    | null => rfl
    | empty => rfl
    | list written =>
      have read := Criterion.ofElements_eq_ok_iff.mpr written
      cases written with
      | without => rfl
      | comparing =>
        rw [entryOfJson, read]
        · rfl
        · exact List.cons_ne_nil _ _
    | object written =>
      rw [entryOfJson, Criterion.ofMembers_eq_ok_iff.mpr written]
      rfl

theorem entriesOfJson_eq_ok_iff {index : Nat} {items : List Json}
    {entries : List (Option Criterion)} :
    entriesOfJson index items = .ok entries ↔
      List.Forall₂ Criterion.EntryWrittenAs entries items := by
  induction items generalizing index entries with
  | nil => simp [entriesOfJson, eq_comm]
  | cons item rest ih =>
    rw [entriesOfJson, List.forall₂_cons_right_iff]
    simp only [Except.bind_eq_ok_iff, entryOfJson_eq_ok_iff, ih, pure, Except.pure,
      Except.ok.injEq]
    constructor
    · rintro ⟨entry, here, others, onward, rfl⟩
      exact ⟨entry, others, here, onward, rfl⟩
    · rintro ⟨entry, others, here, onward, rfl⟩
      exact ⟨entry, here, others, onward, rfl⟩

/-- The criteria that a JSON value stands for. What a list begins with tells a criterion from a list
of criteria. -/
inductive WrittenAs : Criteria → Json → Prop
  | null : WrittenAs .unrestricted .null
  | empty : WrittenAs .unrestricted (.array [])
  | list {criterion : Criterion} {elements : List Json} :
      criterion.WrittenAsList elements → WrittenAs (.one criterion) (.array elements)
  | object {criterion : Criterion} {members : List (String × Json)} :
      criterion.WrittenAsObject members → WrittenAs (.one criterion) (.object members)
  | many {first : Json} {rest : List Json} {entries : List (Option Criterion)} :
      first.BeginsCriteria → List.Forall₂ Criterion.EntryWrittenAs entries (first :: rest) →
      WrittenAs (.many entries) (.array (first :: rest))

theorem ofJson_of_beginsCriteria {first : Json} (begins : first.BeginsCriteria)
    (rest : List Json) :
    ofJson (.array (first :: rest)) = (do return .many (← entriesOfJson 0 (first :: rest))) := by
  cases first with
  | array => rfl
  | object => rfl
  | null => rfl
  | boolean => exact begins.elim
  | number => exact begins.elim
  | text => exact begins.elim

/-- **Reading decides which criteria a value is.** -/
theorem ofJson_eq_ok_iff {json : Json} {criteria : Criteria} :
    ofJson json = .ok criteria ↔ criteria.WrittenAs json := by
  constructor
  · intro read
    unfold ofJson at read
    split at read
    · cases read
      exact .null
    · obtain ⟨criterion, members, whole⟩ := Except.bind_eq_ok_iff.mp read
      cases whole
      exact .object (Criterion.ofMembers_eq_ok_iff.mp members)
    · cases read
      exact .empty
    · rename_i first rest
      by_cases begins : first.BeginsCriteria
      · have listed := (ofJson_of_beginsCriteria begins rest).symm.trans read
        obtain ⟨entries, items, whole⟩ := Except.bind_eq_ok_iff.mp listed
        cases whole
        exact .many begins (entriesOfJson_eq_ok_iff.mp items)
      · split at read
        · obtain ⟨criterion, elements, whole⟩ := Except.bind_eq_ok_iff.mp read
          cases whole
          exact .list (Criterion.ofElements_eq_ok_iff.mp elements)
        · exact absurd trivial begins
        · exact absurd trivial begins
        · exact absurd trivial begins
        · cases read
    · cases read
  · intro written
    cases written with
    | null => rfl
    | empty => rfl
    | list written =>
      have read := Criterion.ofElements_eq_ok_iff.mpr written
      cases written <;> rw [ofJson, read] <;> rfl
    | object written =>
      rw [ofJson, Criterion.ofMembers_eq_ok_iff.mpr written]
      rfl
    | many begins items =>
      rw [ofJson_of_beginsCriteria begins, entriesOfJson_eq_ok_iff.mpr items]
      rfl

theorem decode_eq_ok_iff {json : Json} {criteria : Criteria} :
    decode json = .ok criteria ↔ criteria.WrittenAs json := by
  rw [← ofJson_eq_ok_iff, decode]
  cases ofJson json <;> simp

/-- **The grammar of criteria.** Nothing is asked for by null and the empty list, one criterion by a
list of its three elements or an object with its members, and several by a list that begins with a
list, an object or null and has an entry in every place. Whatever else is read is refused for its
shape, and for no other reason. -/
theorem decode_grammar (json : Json) :
    (decode json = .ok .unrestricted ↔ json = .null ∨ json = .array []) ∧
    (∀ criterion, decode json = .ok (.one criterion) ↔
      (∃ elements, json = .array elements ∧ criterion.WrittenAsList elements) ∨
        ∃ members, json = .object members ∧ criterion.WrittenAsObject members) ∧
    (∀ entries, decode json = .ok (.many entries) ↔
      ∃ first rest, json = .array (first :: rest) ∧ first.BeginsCriteria ∧
        List.Forall₂ Criterion.EntryWrittenAs entries (first :: rest)) ∧
    ((∃ criteria, decode json = .ok criteria) ∨
      ∃ fault, decode json = .error (.invalidCriteriaShape fault)) := by
  refine ⟨?_, fun criterion => ?_, fun entries => ?_, ?_⟩
  · rw [decode_eq_ok_iff]
    constructor
    · intro written
      cases written with
      | null => exact .inl rfl
      | empty => exact .inr rfl
    · rintro (rfl | rfl)
      · exact .null
      · exact .empty
  · rw [decode_eq_ok_iff]
    constructor
    · intro written
      cases written with
      | list elements => exact .inl ⟨_, rfl, elements⟩
      | object members => exact .inr ⟨_, rfl, members⟩
    · rintro (⟨elements, rfl, written⟩ | ⟨members, rfl, written⟩)
      · exact .list written
      · exact .object written
  · rw [decode_eq_ok_iff]
    constructor
    · intro written
      cases written with
      | many begins items => exact ⟨_, _, rfl, begins, items⟩
    · rintro ⟨first, rest, rfl, begins, items⟩
      exact .many begins items
  · rw [decode]
    cases ofJson json with
    | ok criteria => exact .inl ⟨criteria, rfl⟩
    | error fault => exact .inr ⟨fault, rfl⟩

end Criteria

end AttributeFilter
