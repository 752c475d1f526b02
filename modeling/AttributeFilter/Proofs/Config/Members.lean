/-
**What a configuration file gives.**

Reading the members one after another fills the slots of a draft. What comes out depends only on the
members of each key: a known key gives its setting if it is there and not null, and must not be
there twice; what else is there has to make a value.

* `FileSettings.Gives` — what the members of one key give.
* `FileSettings.Draft.addAll?_eq_some_iff` — each slot is filled by the members of its key alone.
* **`FileSettings.ofText?_eq_some_iff`** — a file is read to what its members give.
-/

import AttributeFilter.Proofs.Config.Values
import Mathlib.Tactic.MkIffOfInductiveProp

namespace AttributeFilter.FileSettings

/-! ### The members of a key -/

/-- The members of an object as written. -/
abbrev Members := List (List Nat × JsonForm)

/-- The values of the members that have a key. -/
def formsOf (key : String) (members : Members) : List JsonForm :=
  (members.filter fun member => JsonForm.textOf? member.1 = some key).map Prod.snd

/-- The keys that are known. -/
def knownKeys : List String := ["max_criteria", "max_json_bytes", "empty_values", "escape_like"]

/-- The members whose keys are not known. -/
def othersOf (members : Members) : Members :=
  members.filter fun member => ∀ key ∈ knownKeys, JsonForm.textOf? member.1 ≠ some key

/-- **What the members of one key give**: nothing where there is none or the only one is null, else
what the only one means. -/
inductive Gives {α : Type} (Means : JsonForm → α → Prop) : List JsonForm → Option α → Prop
  | missing : Gives Means [] none
  | null : Gives Means [.null] none
  | value {form : JsonForm} {value : α} :
      form ≠ .null → Means form value → Gives Means [form] (some value)

theorem formsOf_append (key : String) (first others : Members) :
    formsOf key (first ++ others) = formsOf key first ++ formsOf key others := by
  rw [formsOf, List.filter_append, List.map_append, formsOf, formsOf]

theorem othersOf_append (first others : Members) :
    othersOf (first ++ others) = othersOf first ++ othersOf others :=
  List.filter_append first others

/-! ### Filling a slot -/

section

variable {α : Type} {read? : JsonForm → Option α}

/-- Fill a slot by the values of the members of its key, one after another. -/
def setAll? (read? : JsonForm → Option α) (slot : Option (Option α)) (forms : List JsonForm) :
    Option (Option (Option α)) :=
  forms.foldlM (fun slot form => setOnce read? form slot) slot

theorem setAll?_nil_eq_some_iff {slot final : Option (Option α)} :
    setAll? read? slot [] = some final ↔ final = slot := by
  rw [setAll?, List.foldlM_nil, Option.pure_def, Option.some.injEq, eq_comm]

theorem setAll?_append_eq_some_iff {slot final : Option (Option α)}
    {first others : List JsonForm} :
    setAll? read? slot (first ++ others) = some final ↔
      ∃ middle, setAll? read? slot first = some middle ∧
        setAll? read? middle others = some final := by
  rw [setAll?, List.foldlM_append]
  exact Option.bind_eq_some_iff

theorem setAll?_singleton (slot : Option (Option α)) (form : JsonForm) :
    setAll? read? slot [form] = setOnce read? form slot := by
  rw [setAll?, List.foldlM_cons]
  exact bind_pure _

theorem setAll?_cons_eq_some_iff {slot final : Option (Option α)} {form : JsonForm}
    {rest : List JsonForm} :
    setAll? read? slot (form :: rest) = some final ↔
      ∃ next, setOnce read? form slot = some next ∧ setAll? read? next rest = some final := by
  rw [← List.singleton_append, setAll?_append_eq_some_iff, setAll?_singleton]

/-- A slot that is filled stays as it is, and nothing else may come. -/
theorem setAll?_some_eq_some_iff {value : Option α} {final : Option (Option α)}
    {forms : List JsonForm} :
    setAll? read? (some value) forms = some final ↔ forms = [] ∧ final = some value := by
  cases forms with
  | nil => rw [setAll?_nil_eq_some_iff, and_iff_right rfl]
  | cons form rest => simp [setAll?_cons_eq_some_iff, setOnce]

variable {Means : JsonForm → α → Prop}
  (meant : ∀ {form value}, read? form = some value ↔ Means form value)

include meant

/-- Null gives nothing, and anything else what it means. -/
theorem orNull_eq_some_iff {form : JsonForm} {value : Option α} :
    orNull read? form = some value ↔ Gives Means [form] value := by
  constructor
  · unfold orNull
    split
    · rintro ⟨⟩
      exact .null
    · rename_i notNull
      rw [Option.map_eq_some_iff]
      rintro ⟨given, read, rfl⟩
      exact .value notNull (meant.mp read)
  · intro gives
    cases gives with
    | null => rfl
    | value notNull means =>
      unfold orNull
      split
      · exact absurd rfl notNull
      · rw [meant.mpr means, Option.map_some]

/-- **An empty slot is filled by what the members of its key give.** -/
theorem gives_iff {forms : List JsonForm} {value : Option α} :
    Gives Means forms value ↔
      ∃ slot, setAll? read? none forms = some slot ∧ slot.join = value := by
  rcases forms with _ | ⟨form, rest⟩
  · simp only [setAll?_nil_eq_some_iff]
    constructor
    · intro gives
      cases gives
      exact ⟨none, rfl, rfl⟩
    · rintro ⟨slot, rfl, rfl⟩
      exact .missing
  · simp only [setAll?_cons_eq_some_iff, setOnce, Option.map_eq_some_iff]
    constructor
    · intro gives
      obtain rfl : rest = [] := by cases gives <;> rfl
      exact ⟨_, ⟨_, ⟨value, (orNull_eq_some_iff meant).mpr gives, rfl⟩,
        setAll?_nil_eq_some_iff.mpr rfl⟩, rfl⟩
    · rintro ⟨slot, ⟨_, ⟨given, read, rfl⟩, onward⟩, rfl⟩
      obtain ⟨rfl, rfl⟩ := setAll?_some_eq_some_iff.mp onward
      exact (orNull_eq_some_iff meant).mp read

end

/-! ### Filling all slots -/

/-- **The members fill the slots of a draft**, those of each key its own. -/
@[mk_iff]
structure Draft.Takes (draft : Draft) (members : Members) (final : Draft) : Prop where
  keys : ∀ member ∈ members, JsonForm.textOf? member.1 ≠ none
  maxCriteria : setAll? limitOfForm? draft.maxCriteria (formsOf "max_criteria" members) =
    some final.maxCriteria
  maxJsonBytes : setAll? limitOfForm? draft.maxJsonBytes (formsOf "max_json_bytes" members) =
    some final.maxJsonBytes
  emptyPolicy : setAll? EmptyPolicy.ofForm? draft.emptyPolicy (formsOf "empty_values" members) =
    some final.emptyPolicy
  escapeLike : setAll? booleanOfForm? draft.escapeLike (formsOf "escape_like" members) =
    some final.escapeLike
  others : ∀ member ∈ othersOf members, member.2.value? ≠ none
  kept : final.others = (othersOf members).reverse ++ draft.others

namespace Draft

variable {draft final : Draft}

theorem takes_nil_iff : draft.Takes [] final ↔ final = draft := by
  cases draft
  cases final
  simp [takes_iff, formsOf, othersOf, setAll?_nil_eq_some_iff]

theorem takes_append_iff {first others : Members} :
    draft.Takes (first ++ others) final ↔
      ∃ middle : Draft, draft.Takes first middle ∧ middle.Takes others final := by
  constructor
  · rintro ⟨keys, maxCriteria, maxJsonBytes, emptyPolicy, escapeLike, values, kept⟩
    rw [formsOf_append, setAll?_append_eq_some_iff] at maxCriteria maxJsonBytes
    rw [formsOf_append, setAll?_append_eq_some_iff] at emptyPolicy escapeLike
    rw [othersOf_append] at values kept
    rw [List.forall_mem_append] at keys values
    obtain ⟨count, count₁, count₂⟩ := maxCriteria
    obtain ⟨bytes, bytes₁, bytes₂⟩ := maxJsonBytes
    obtain ⟨policy, policy₁, policy₂⟩ := emptyPolicy
    obtain ⟨escape, escape₁, escape₂⟩ := escapeLike
    refine ⟨⟨count, bytes, policy, escape, (othersOf first).reverse ++ draft.others⟩,
      ⟨keys.1, count₁, bytes₁, policy₁, escape₁, values.1, rfl⟩,
      ⟨keys.2, count₂, bytes₂, policy₂, escape₂, values.2, ?_⟩⟩
    rw [kept, List.reverse_append, List.append_assoc]
  · rintro ⟨middle, before, behind⟩
    have joined {α : Type} {read? : JsonForm → Option α} {slot next last : Option (Option α)}
        {key : String} (here : setAll? read? slot (formsOf key first) = some next)
        (onward : setAll? read? next (formsOf key others) = some last) :
        setAll? read? slot (formsOf key (first ++ others)) = some last := by
      rw [formsOf_append, setAll?_append_eq_some_iff]
      exact ⟨next, here, onward⟩
    refine ⟨List.forall_mem_append.mpr ⟨before.keys, behind.keys⟩,
      joined before.maxCriteria behind.maxCriteria, joined before.maxJsonBytes behind.maxJsonBytes,
      joined before.emptyPolicy behind.emptyPolicy, joined before.escapeLike behind.escapeLike,
      ?_, ?_⟩
    · rw [othersOf_append]
      exact List.forall_mem_append.mpr ⟨before.others, behind.others⟩
    · rw [behind.kept, before.kept, othersOf_append, List.reverse_append, List.append_assoc]

/-- **One member fills the slot of its key**, or is kept among the others. -/
theorem add?_eq_some_iff {codes : List Nat} {form : JsonForm} :
    draft.add? codes form = some final ↔ draft.Takes [(codes, form)] final := by
  cases named : JsonForm.textOf? codes with
  | none => simp [add?, named, takes_iff]
  | some key =>
    cases final
    rw [add?, named, Option.bind_eq_bind, Option.bind_some]
    by_cases known : key ∈ knownKeys
    · have which : key = "max_criteria" ∨ key = "max_json_bytes" ∨ key = "empty_values" ∨
          key = "escape_like" := by
        simpa [knownKeys] using known
      -- The slot of the key is the only one with a form to take.
      rcases which with rfl | rfl | rfl | rfl
      all_goals
        simp [named, takes_iff, formsOf, othersOf, knownKeys, setAll?_singleton,
          setAll?_nil_eq_some_iff, Option.bind_eq_some_iff]
        grind
    · obtain ⟨count, bytes, policy, escape⟩ : key ≠ "max_criteria" ∧ key ≠ "max_json_bytes" ∧
          key ≠ "empty_values" ∧ key ≠ "escape_like" := by
        simpa [knownKeys] using known
      simp [named, count, bytes, policy, escape, takes_iff, formsOf, othersOf, knownKeys,
        setAll?_nil_eq_some_iff]
      cases form.value? <;> simp [eq_comm]

/-- **Members fill the slots one after another.** -/
theorem addAll?_eq_some_iff {members : Members} :
    draft.addAll? members = some final ↔ draft.Takes members final := by
  induction members generalizing draft with
  | nil => rw [addAll?, takes_nil_iff, Option.some.injEq, eq_comm]
  | cons member rest ih =>
    rw [addAll?, Option.bind_eq_bind, Option.bind_eq_some_iff, ← List.singleton_append,
      takes_append_iff]
    simp only [add?_eq_some_iff, ih]

end Draft

/-! ### Reading a file -/

/-- **What a file is read to**, by what the members of its object mean. -/
structure GivenBy (members : Members) (file : FileSettings) : Prop where
  shallow : (JsonForm.object members).depth ≤ JsonForm.maxDepth
  keys : ∀ member ∈ members, JsonForm.textOf? member.1 ≠ none
  maxCriteria : Gives IsLimit (formsOf "max_criteria" members) file.maxCriteria
  maxJsonBytes : Gives IsLimit (formsOf "max_json_bytes" members) file.maxJsonBytes
  emptyPolicy : Gives IsPolicy (formsOf "empty_values" members) file.emptyPolicy
  escapeLike : Gives IsTruthValue (formsOf "escape_like" members) file.escapeLike
  others : ∀ member ∈ othersOf members, member.2.value? ≠ none
  extraKeys : ∃ extra, othersValue? (othersOf members) = some extra ∧ file.extraKeys = extra.keys?

/-- **A file is read to what its members give.** -/
theorem ofText?_eq_some_iff {text : String} {file : FileSettings} :
    ofText? text = some file ↔
      ∃ members, JsonForm.ofText? text = some (.object members) ∧ GivenBy members file := by
  rw [ofText?, Option.bind_eq_bind, Option.bind_eq_some_iff]
  constructor
  · rintro ⟨form, read, given⟩
    split at given
    · split at given
      · rename_i members shallow
        simp only [Option.bind_eq_bind, Option.bind_eq_some_iff, Draft.addAll?_eq_some_iff] at given
        obtain ⟨draft, takes, extra, value, whole⟩ := given
        cases whole
        have others : draft.others.reverse = othersOf members := by
          rw [takes.kept, List.append_nil, List.reverse_reverse]
        exact ⟨members, read, shallow, takes.keys,
          (gives_iff limitOfForm?_eq_some_iff).mpr ⟨_, takes.maxCriteria, rfl⟩,
          (gives_iff limitOfForm?_eq_some_iff).mpr ⟨_, takes.maxJsonBytes, rfl⟩,
          (gives_iff EmptyPolicy.ofForm?_eq_some_iff).mpr ⟨_, takes.emptyPolicy, rfl⟩,
          (gives_iff booleanOfForm?_eq_some_iff).mpr ⟨_, takes.escapeLike, rfl⟩,
          takes.others, extra, others ▸ value, rfl⟩
      · cases given
    · cases given
  · rintro ⟨members, read, given⟩
    obtain ⟨count, countTaken, countGiven⟩ :=
      (gives_iff limitOfForm?_eq_some_iff).mp given.maxCriteria
    obtain ⟨bytes, bytesTaken, bytesGiven⟩ :=
      (gives_iff limitOfForm?_eq_some_iff).mp given.maxJsonBytes
    obtain ⟨policy, policyTaken, policyGiven⟩ :=
      (gives_iff EmptyPolicy.ofForm?_eq_some_iff).mp given.emptyPolicy
    obtain ⟨escape, escapeTaken, escapeGiven⟩ :=
      (gives_iff booleanOfForm?_eq_some_iff).mp given.escapeLike
    obtain ⟨extra, value, extraGiven⟩ := given.extraKeys
    have takes : (Draft.mk none none none none []).Takes members
        ⟨count, bytes, policy, escape, (othersOf members).reverse⟩ :=
      ⟨given.keys, countTaken, bytesTaken, policyTaken, escapeTaken, given.others,
        (List.append_nil _).symm⟩
    refine ⟨.object members, read, ?_⟩
    dsimp only
    rw [if_pos given.shallow]
    simp only [Option.bind_eq_bind, Option.bind_eq_some_iff, Draft.addAll?_eq_some_iff]
    refine ⟨_, takes, extra, by rwa [List.reverse_reverse], ?_⟩
    dsimp only
    rw [countGiven, bytesGiven, policyGiven, escapeGiven, ← extraGiven]
    rfl

end AttributeFilter.FileSettings
