/-
**JSON texts inside JSON texts.**

An object whose first key is `JsonForm.embeddingKey` is not an object: it stands for the value of
another JSON text, which its only member quotes. Texts may be embedded in embedded texts, and the
limit on containers inside each other holds for each text on its own.

* `JsonForm.expand?` puts the tree of every embedded text in the place of its object.
* `Json.ofText?` is the value that a text spells, embedded texts included.
-/

import AttributeFilter.Json.Form

namespace AttributeFilter

namespace JsonForm

/-- The key in front of an embedded text. -/
def embeddingKey : String := "$serde_json::private::RawValue"

/-- Whether the first key of an object is the one in front of an embedded text. -/
def embedsText : List (List Nat × JsonForm) → Bool
  | [] => false
  | (key, _) :: _ => textOf? key == some embeddingKey

/-- The embedded text: the member is quoted, and no other member follows it. -/
def embeddedText? : List (List Nat × JsonForm) → Option String
  | [(_, .text codes)] => textOf? codes
  | _ => none

mutual

/-- The tree with the trees of embedded texts put in, which `read?` finds. -/
def expand? (read? : String → Option JsonForm) : JsonForm → Option JsonForm
  | .array items => (expandItems? read? items).map .array
  | .object members =>
    if embedsText members then (embeddedText? members).bind read?
    else (expandMembers? read? members).map .object
  | form => some form

/-- All items, expanded. -/
def expandItems? (read? : String → Option JsonForm) : List JsonForm → Option (List JsonForm)
  | [] => some []
  | item :: rest => do return (← item.expand? read?) :: (← expandItems? read? rest)

/-- All members, their forms expanded. -/
def expandMembers? (read? : String → Option JsonForm) :
    List (List Nat × JsonForm) → Option (List (List Nat × JsonForm))
  | [] => some []
  | (key, form) :: rest => do
    return (key, ← form.expand? read?) :: (← expandMembers? read? rest)

end

/-- The expanded tree of a text with texts embedded up to a level. -/
def expandedWithin? : Nat → String → Option JsonForm
  | 0, _ => none
  | level + 1, written => do
    let form ← ofText? written
    if form.depth ≤ maxDepth then form.expand? (expandedWithin? level) else none

/-- The expanded tree of a text. An embedded text is shorter than the text around it, so there are
fewer levels than characters. -/
def expandedOfText? (text : String) : Option JsonForm := expandedWithin? text.length text

end JsonForm

namespace Json

/-- The value of a tree in which texts may be embedded. -/
def ofForm? (form : JsonForm) : Option Json := do
  let expanded ← form.expand? JsonForm.expandedOfText?
  expanded.value?

/-- The value that a text spells. -/
def ofText? (text : String) : Option Json := do
  let expanded ← JsonForm.expandedOfText? text
  expanded.value?

end Json

end AttributeFilter
