/-
**The limits on criteria, as texts and as values.**

A text is measured before it is read, and its criteria are counted behind that. Filtering counts
them again. The two counts go over different things — the items of a JSON list, with null and the
empty list among them, and the entries of criteria, some of them left empty — and come to the same
number, which is also that of the places where a criterion is written. So reading a text refuses for
their number the criteria that filtering would refuse for it, and no others.

* `Json.criteriaCount` — how many criteria are written in a JSON value.
* `Criteria.size_of_writtenAs` — as many as there are in the criteria that it stands for.
* `Registry.parse_bind_filterBy` — counting them in front of filtering changes nothing.
* **`Registry.filterBy_text`** — filtering by a text is measuring it, reading it, and filtering by
  the criteria that it stands for.
-/

import AttributeFilter.Proofs.Criteria.Shapes
import AttributeFilter.Proofs.Registry.Refusal

namespace AttributeFilter

/-! ### Criteria as they are written -/

namespace Json

/-- Whether an item of a list of criteria is passed over. -/
def isSkipped : Json → Bool
  | .null | .array [] => true
  | _ => false

/-- How many criteria are written in a value. What begins with a text is one criterion; any other
list has one for every item that is not passed over. -/
def criteriaCount : Json → Nat
  | .object _ => 1
  | .array (.text _ :: _) => 1
  | .array items => items.countP fun item => !item.isSkipped
  | _ => 0

end Json

namespace Criteria

/-- An entry is left empty where the item is passed over. -/
theorem isSkipped_of_entryWrittenAs {entry : Option Criterion} {item : Json}
    (written : Criterion.EntryWrittenAs entry item) : item.isSkipped = entry.isNone := by
  cases written with
  | null => rfl
  | empty => rfl
  | list written => cases written <;> rfl
  | object => rfl

/-- A list of criteria has one for every item that is not passed over. -/
theorem size_many_of_entries {entries : List (Option Criterion)} {items : List Json}
    (written : List.Forall₂ Criterion.EntryWrittenAs entries items) :
    (many entries).size = items.countP fun item => !item.isSkipped := by
  induction written with
  | nil => rfl
  | @cons entry item entries items here _ ih =>
    rw [size] at ih ⊢
    rw [List.countP_cons, List.countP_cons, ← ih, isSkipped_of_entryWrittenAs here]
    cases entry <;> rfl

/-- **Criteria are counted as they are written.** -/
theorem size_of_writtenAs {criteria : Criteria} {value : Json}
    (written : criteria.WrittenAs value) : criteria.size = value.criteriaCount := by
  cases written with
  | null => rfl
  | empty => rfl
  | list written => cases written <;> rfl
  | object => rfl
  | @many first rest entries begins items =>
    rw [size_many_of_entries items]
    cases first with
    | array => rfl
    | object => rfl
    | null => rfl
    | boolean => exact begins.elim
    | number => exact begins.elim
    | text => exact begins.elim

/-! ### Reading and counting -/

section

variable {settings : Settings} {text : String}

/-- A text that is too long is not read. -/
theorem parse_of_lt_size (long : settings.maxJsonBytes < text.utf8ByteSize) :
    parse text settings = .error (.criteriaTooLarge settings.maxJsonBytes) := by
  rw [parse, if_pos long]

variable (within : text.utf8ByteSize ≤ settings.maxJsonBytes)

include within

/-- A text that spells no value is refused as such. -/
theorem parse_of_not_json (noValue : Json.ofText? text = none) :
    parse text settings = .error .invalidJson := by
  rw [parse, if_neg (Nat.not_lt_of_le within), noValue]

section

variable {value : Json} (read : Json.ofText? text = some value)

include read

/-- A text whose value is refused is refused for the same, -/
theorem parse_of_refused {error : FilterError} (refused : decode value = .error error) :
    parse text settings = .error error := by
  rw [parse, if_neg (Nat.not_lt_of_le within), read]
  show (do let criteria ← decode value; _) = _
  rw [refused]
  rfl

/-- and otherwise the criteria of its value are read, if they are not too many. -/
theorem parse_of_decode {criteria : Criteria} (decoded : decode value = .ok criteria) :
    parse text settings =
      if settings.maxCriteria < criteria.size then
        .error (.tooManyCriteria criteria.size settings.maxCriteria)
      else .ok criteria := by
  rw [parse, if_neg (Nat.not_lt_of_le within), read]
  show (do let criteria ← decode value; _) = _
  rw [decoded]
  show (do requireCount settings criteria; return criteria) = _
  rw [requireCount]
  split <;> rfl

end

end

end Criteria

/-- **Counting the criteria in front of filtering changes nothing**: they are counted again. -/
theorem Registry.parse_bind_filterBy {registry : Registry} {name : String}
    (known : registry.knows name = true) {text : String}
    (within : text.utf8ByteSize ≤ registry.settings.maxJsonBytes) {value : Json}
    (read : Json.ofText? text = some value) :
    (do registry.filterBy name (← Criteria.parse text registry.settings)) =
      (do registry.filterBy name (← Criteria.decode value)) := by
  cases decoded : Criteria.decode value with
  | error refusal =>
    rw [Criteria.parse_of_refused within read decoded]
  | ok criteria =>
    rw [Criteria.parse_of_decode within read decoded]
    split
    · next many => exact (filterBy_of_lt_size known many).symm
    · rfl

/-- Filtering counts too many criteria where there are more than the settings allow. -/
theorem Recorded.filterBy_eq_tooManyCriteria_iff {log : List Call} {registry : Registry}
    {name : String} (recorded : Recorded log registry) (registered : Registered log name)
    {criteria : Criteria} {count max : Nat} :
    registry.filterBy name criteria = .error (.tooManyCriteria count max) ↔
      registry.settings.maxCriteria < criteria.size ∧ count = criteria.size ∧
        max = registry.settings.maxCriteria := by
  by_cases many : registry.settings.maxCriteria < criteria.size
  · rw [Registry.filterBy_of_lt_size (recorded.knows_iff.mpr registered) many]
    simp [many, eq_comm]
  · rw [recorded.filterBy_eq_error_iff registered (Nat.le_of_not_lt many)]
    simp [Criteria.not_reports_tooManyCriteria, many]

/-- **Filtering by a text.** A text that is too long is refused unread; otherwise a text that spells
no value is refused as such; otherwise reading the text and filtering by it is filtering by what its
value stands for, with the same scope or the same failure. The limit on the number of criteria is
the same on both ways: it goes by the criteria that are written in the value, and reading refuses
for their number, with this number and this maximum, just what filtering would refuse for it. -/
theorem Registry.filterBy_text (settings : Settings) (calls : List Call) {name : String}
    (registered : Registered ((empty settings).accepted calls) name) (text : String) :
    let registry := (empty settings).run calls
    (settings.maxJsonBytes < text.utf8ByteSize →
      Criteria.parse text settings = .error (.criteriaTooLarge settings.maxJsonBytes)) ∧
    (text.utf8ByteSize ≤ settings.maxJsonBytes → Json.ofText? text = none →
      Criteria.parse text settings = .error .invalidJson) ∧
    (text.utf8ByteSize ≤ settings.maxJsonBytes → ∀ value, Json.ofText? text = some value →
      (do registry.filterBy name (← Criteria.parse text settings)) =
        (do registry.filterBy name (← Criteria.decode value)) ∧
      (∀ error, Criteria.decode value = .error error →
        Criteria.parse text settings = .error error) ∧
      ∀ criteria, Criteria.decode value = .ok criteria →
        criteria.size = value.criteriaCount ∧
        (Criteria.parse text settings = .ok criteria ↔
          value.criteriaCount ≤ settings.maxCriteria) ∧
        (∀ error, Criteria.parse text settings = .error error ↔
          settings.maxCriteria < value.criteriaCount ∧
            error = .tooManyCriteria value.criteriaCount settings.maxCriteria) ∧
        ∀ count max, registry.filterBy name criteria = .error (.tooManyCriteria count max) ↔
          settings.maxCriteria < value.criteriaCount ∧
            count = value.criteriaCount ∧ max = settings.maxCriteria) := by
  intro registry
  have recorded : Recorded ((empty settings).accepted calls) registry := recorded_run settings calls
  have same : registry.settings = settings := settings_run settings calls
  refine ⟨Criteria.parse_of_lt_size, Criteria.parse_of_not_json, fun within value read => ?_⟩
  have again := parse_bind_filterBy (recorded.knows_iff.mpr registered)
    (same.symm ▸ within) read
  rw [same] at again
  refine ⟨again, fun error => Criteria.parse_of_refused within read, fun criteria decoded => ?_⟩
  have count := Criteria.size_of_writtenAs (Criteria.decode_eq_ok_iff.mp decoded)
  have refused (number max : Nat) : registry.filterBy name criteria =
      .error (.tooManyCriteria number max) ↔ _ :=
    recorded.filterBy_eq_tooManyCriteria_iff registered
  rw [same, count] at refused
  rw [Criteria.parse_of_decode within read decoded, count]
  refine ⟨rfl, ?_, fun error => ?_, refused⟩
  · split
    · next many => simp [many]
    · next few => simpa using few
  · split
    · next many => simp [many, eq_comm]
    · next few => simp [few]

/-- One criterion at most, in sixty bytes. -/
def narrow : Settings := { Settings.default with maxCriteria := 1, maxJsonBytes := 60 }

/-- Two criteria among four items. -/
def crowded : String := "[null,[\"name\",\"is\",\"Jo\"],[],[\"badge\",\"is\",null]]"

theorem Registry.filterBy_text_crowded :
    Registered ((empty narrow).accepted [.register "Person" ["name"] none]) "Person" ∧
    (crowded.utf8ByteSize ≤ narrow.maxJsonBytes ∧
      (∃ value criteria, Json.ofText? crowded = some value ∧ Criteria.decode value = .ok criteria ∧
        value.criteriaCount = 2) ∧
      Criteria.parse crowded narrow = .error (.tooManyCriteria 2 1)) ∧
    (narrow.maxJsonBytes < (crowded ++ crowded).utf8ByteSize ∧
      Criteria.parse (crowded ++ crowded) narrow = .error (.criteriaTooLarge 60)) ∧
    Json.ofText? "[null," = none ∧ Criteria.parse "[null," narrow = .error .invalidJson := by
  have registered : Registered ((empty narrow).accepted [.register "Person" ["name"] none])
      "Person" := ⟨["name"], none, by decide +kernel⟩
  have within : crowded.utf8ByteSize ≤ narrow.maxJsonBytes := by decide +kernel
  have long : narrow.maxJsonBytes < (crowded ++ crowded).utf8ByteSize := by decide +kernel
  have noValue : Json.ofText? "[null," = none := by decide +kernel
  have twice : ((Json.ofText? crowded).bind fun value =>
      match Criteria.decode value with
      | .ok _ => some value.criteriaCount
      | .error _ => none) = some 2 := by decide +kernel
  have filtered := filterBy_text narrow [.register "Person" ["name"] none] registered
  obtain ⟨value, read, counts⟩ := Option.bind_eq_some_iff.mp twice
  split at counts
  · rename_i criteria decoded
    have two : value.criteriaCount = 2 := Option.some.inj counts
    obtain ⟨-, -, counted⟩ := (filtered crowded).2.2 within value read
    obtain ⟨-, -, refused, -⟩ := counted criteria decoded
    rw [two] at refused
    exact ⟨registered, ⟨within, ⟨value, criteria, read, decoded, two⟩,
        (refused _).mpr ⟨by decide, rfl⟩⟩,
      ⟨long, (filtered (crowded ++ crowded)).1 long⟩,
      noValue, (filtered "[null,").2.1 (by decide) noValue⟩
  · cases counts

end AttributeFilter
