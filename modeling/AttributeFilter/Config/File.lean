/-
**Settings from a file.**

A configuration file is a JSON object. Four members are known, each of which may be missing or null;
a known member is given at most once. Of the other members only the keys are kept, but their values
are read, and texts may be embedded in them.

* `FileSettings.ofText?` — read the text of a file.
* `FileSettings.resolve` — fill in the defaults.
-/

import AttributeFilter.Config.Settings
import AttributeFilter.Json.Embedded

namespace AttributeFilter

/-- The settings that a file gives, and the other keys that it has. There are no such keys, not even
an empty list, where an embedded text that is no object stands for the other members. -/
structure FileSettings where
  maxCriteria : Option Nat
  maxJsonBytes : Option Nat
  emptyPolicy : Option EmptyPolicy
  escapeLike : Option Bool
  extraKeys : Option (List String)
deriving Repr, DecidableEq

/-! ### Members -/

/-- A policy by its exact name. -/
def EmptyPolicy.ofName? (name : String) : Option EmptyPolicy :=
  if name = "reject" then some .reject
  else if name = "match_none" then some .matchNone
  else none

/-- A policy as written: its name, or an object whose only member has that name and is null. -/
def EmptyPolicy.ofForm? : JsonForm → Option EmptyPolicy
  | .text codes => do EmptyPolicy.ofName? (← JsonForm.textOf? codes)
  | .object [(codes, .null)] => do EmptyPolicy.ofName? (← JsonForm.textOf? codes)
  | _ => none

/-- Read a policy from a JSON text of its own. -/
def EmptyPolicy.ofJsonText? (text : String) : Option EmptyPolicy := do
  EmptyPolicy.ofForm? (← JsonForm.ofText? text)

/-- A limit as written: a whole number that is not negative. -/
def limitOfForm? : JsonForm → Option Nat
  | .number numeral =>
    match numeral.number? with
    | some (.integer value) => if 0 ≤ value then some value.toNat else none
    | _ => none
  | _ => none

/-- A truth value as written. -/
def booleanOfForm? : JsonForm → Option Bool
  | .boolean value => some value
  | _ => none

/-- A member that may be null. -/
def orNull {α : Type} (read? : JsonForm → Option α) : JsonForm → Option (Option α)
  | .null => some none
  | form => (read? form).map some

namespace FileSettings

/-- The known members read so far; `some none` stands for a null. The others are listed latest
first. -/
structure Draft where
  maxCriteria : Option (Option Nat)
  maxJsonBytes : Option (Option Nat)
  emptyPolicy : Option (Option EmptyPolicy)
  escapeLike : Option (Option Bool)
  others : List (List Nat × JsonForm)

/-- Set a member that has not been read before. -/
def setOnce {α : Type} (read? : JsonForm → Option α) (form : JsonForm) :
    Option (Option α) → Option (Option (Option α))
  | none => (orNull read? form).map some
  | some _ => none

/-- Read one member. -/
def Draft.add? (draft : Draft) (codes : List Nat) (form : JsonForm) : Option Draft := do
  let key ← JsonForm.textOf? codes
  if key = "max_criteria" then do
    return { draft with maxCriteria := ← setOnce limitOfForm? form draft.maxCriteria }
  else if key = "max_json_bytes" then do
    return { draft with maxJsonBytes := ← setOnce limitOfForm? form draft.maxJsonBytes }
  else if key = "empty_values" then do
    return { draft with emptyPolicy := ← setOnce EmptyPolicy.ofForm? form draft.emptyPolicy }
  else if key = "escape_like" then do
    return { draft with escapeLike := ← setOnce booleanOfForm? form draft.escapeLike }
  else
    match form.value? with
    | none => none
    | some _ => some { draft with others := (codes, form) :: draft.others }

/-- Read the members in order. -/
def Draft.addAll? (draft : Draft) : List (List Nat × JsonForm) → Option Draft
  | [] => some draft
  | (codes, form) :: rest => do
    let longer ← draft.add? codes form
    longer.addAll? rest

/-- The value of the members that are not known. A text embedded by the first of them speaks for all
of them. -/
def othersValue? (others : List (List Nat × JsonForm)) : Option Json :=
  Json.ofForm? (.object (if JsonForm.embedsText others then others.take 1 else others))

/-- Read the text of a configuration file. -/
def ofText? (text : String) : Option FileSettings := do
  let form ← JsonForm.ofText? text
  match form with
  | .object members =>
    if form.depth ≤ JsonForm.maxDepth then
      let draft ← Draft.addAll? ⟨none, none, none, none, []⟩ members
      let extra ← othersValue? draft.others.reverse
      return ⟨draft.maxCriteria.join, draft.maxJsonBytes.join, draft.emptyPolicy.join,
        draft.escapeLike.join, extra.keys?⟩
    else none
  | _ => none

/-- The settings of a file, with the defaults where it gives none. -/
def resolve (file : FileSettings) : Settings where
  maxCriteria := file.maxCriteria.getD Settings.default.maxCriteria
  maxJsonBytes := file.maxJsonBytes.getD Settings.default.maxJsonBytes
  emptyPolicy := file.emptyPolicy.getD Settings.default.emptyPolicy
  escapeLike := file.escapeLike.getD Settings.default.escapeLike

end FileSettings

end AttributeFilter
