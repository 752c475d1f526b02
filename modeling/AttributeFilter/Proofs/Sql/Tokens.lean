/-
**Tokens as one text and as a list.**

Tokens may be given one by one, or as one text in which they stand with blanks between them. Both
are compiled alike, whatever the blanks are, and a text without tokens like an empty list. Nothing
is lost on the way: the tokens of a text are never empty, and they are together what is visible in
it.

* `Condition.tokens_text`, `Condition.tokens_list` — the tokens of the two forms.
* `CompilesTokens` — what compiling a list of tokens comes to.
* **`Condition.text_like_list`** — the two forms are compiled alike, and every text is its tokens.
-/

import AttributeFilter.Proofs.Sql.LiteralMatch
import AttributeFilter.Proofs.Text.Words

namespace AttributeFilter

namespace Condition

/-! ### The tokens of the two forms -/

/-- The tokens of a text are its words. -/
theorem tokens_text (text : String) :
    (tokens (.single (.text text))).map String.toList = words text.toList := by
  simp [tokens, Operand.text?, Function.comp_def]

/-- The tokens of a list of texts are the texts as they are. -/
theorem tokens_list (texts : List String) : tokens (.list (texts.map .text)) = texts := by
  simp [tokens, Operand.text?, Operand.texts, Function.comp_def, Scalar.render]

/-- **The tokens that are set out in a text** are the tokens of the text. -/
theorem tokens_of_spacedOut {found : List String} {text : String}
    (each : ∀ token ∈ found, IsWord token.toList)
    (spaced : SpacedOut (found.map String.toList) text.toList) :
    tokens (.single (.text text)) = found := by
  apply List.map_injective_iff.mpr fun _ _ => String.toList_injective
  rw [tokens_text]
  exact words_of_spacedOut (List.forall_mem_map.mpr each) spaced

/-- Operands with the same tokens are compiled alike. -/
theorem compileAllOf_congr {first second : Operand} (same : tokens first = tokens second)
    (column : String) (options : CompileOptions) :
    compileAllOf column first options = compileAllOf column second options := by
  rw [compileAllOf, compileAllOf, same]

/-! ### Compiled tokens -/

/-- What a list of tokens is compiled to: a clause for each of them, bound to the token as it is
between percent signs, and without tokens what the policy says. -/
structure CompilesTokens (column : String) (options : CompileOptions) (found : List String)
    (answer : Except FilterError Condition) : Prop where
  clauses : found ≠ [] → answer = .ok {
    expression := joinWith " AND " (List.replicate found.length
      (column ++ if options.escapeLike then " LIKE ? ESCAPE '\\'" else " LIKE ?"))
    boundValues := found.map fun token =>
      "%" ++ (if options.escapeLike then String.ofList (escapeLike token.toList) else token) ++ "%" }
  refused : found = [] → options.emptyPolicy = .reject → answer = .error (.emptyValues column)
  matchesNone : found = [] → options.emptyPolicy = .matchNone → answer = .ok ⟨"1=0", []⟩

theorem tokenPattern_eq (escaped : Bool) (token : String) :
    tokenPattern escaped token =
      "%" ++ (if escaped then String.ofList (escapeLike token.toList) else token) ++ "%" := by
  apply String.toList_injective
  cases escaped <;> simp [tokenPattern, patternText]

/-- **Tokens are compiled one by one.** -/
theorem compilesTokens {column : String} (plain : isIdentifier column = true) (operand : Operand)
    (options : CompileOptions) :
    CompilesTokens column options (tokens operand) (compileAllOf column operand options) := by
  refine ⟨fun something => ?_, fun nothing policy => ?_, fun nothing policy => ?_⟩
  · rw [compileAllOf_of_tokens_ne_nil plain options something, ofClauses, List.length_map,
      tokenClause_eq, funext (tokenPattern_eq options.escapeLike)]
  · rw [compileAllOf_of_tokens_nil plain options nothing, ofNoValues, policy]
  · rw [compileAllOf_of_tokens_nil plain options nothing, ofNoValues, policy]

/-- **A text is compiled like the list of its tokens.** Tokens that are set out in a text, with any
blanks around them and at least one between two of them, are compiled as if they were given one by
one, and so is a text without tokens. The tokens of a text are not empty, have no blanks, and are
together all that is visible in it. -/
theorem text_like_list {column : String} (plain : isIdentifier column = true)
    (options : CompileOptions) :
    (∀ found text, (∀ token ∈ found, IsWord token.toList) →
      SpacedOut (found.map String.toList) text.toList →
        compileAllOf column (.single (.text text)) options =
            compileAllOf column (.list (found.map .text)) options ∧
          CompilesTokens column options found
            (compileAllOf column (.single (.text text)) options)) ∧
    ∀ text, let found := tokens (.single (.text text))
      (∀ token ∈ found, IsWord token.toList) ∧
      SpacedOut (found.map String.toList) text.toList ∧
      (found.map String.toList).flatten = text.toList.filter fun c => !isBlank c := by
  refine ⟨fun found text each spaced => ?_, fun text => ?_⟩
  · have same : tokens (.single (.text text)) = found := tokens_of_spacedOut each spaced
    have compiled := compilesTokens plain (.single (.text text)) options
    rw [same] at compiled
    exact ⟨compileAllOf_congr (same.trans (tokens_list found).symm) column options, compiled⟩
  · intro found
    have split : found.map String.toList = words text.toList := tokens_text text
    rw [split]
    refine ⟨fun token member => ?_, spacedOut_words text.toList, flatten_words text.toList⟩
    exact isWord_of_mem_words (split ▸ List.mem_map_of_mem member)

/-- Two colours with blanks of several kinds around them, one with a reserved character. -/
def colours : String := "\u00a0Red\u2003\tblue_\n"

theorem text_like_list_colours :
    isIdentifier "tags" = true ∧
    (∀ token ∈ ["Red", "blue_"], IsWord token.toList) ∧
    SpacedOut (["Red", "blue_"].map String.toList) colours.toList ∧
    compileAllOf "tags" (.single (.text colours)) escapingOptions =
      compileAllOf "tags" (.list [.text "Red", .text "blue_"]) escapingOptions ∧
    compileAllOf "tags" (.single (.text colours)) escapingOptions =
      .ok ⟨"tags LIKE ? ESCAPE '\\' AND tags LIKE ? ESCAPE '\\'", ["%Red%", "%blue\\_%"]⟩ ∧
    (["Red", "blue_"].map String.toList).flatten = colours.toList.filter fun c => !isBlank c := by
  have plain : isIdentifier "tags" = true := by decide
  have split : words colours.toList = ["Red", "blue_"].map String.toList := by decide +kernel
  have read : tokens (.single (.text colours)) = ["Red", "blue_"] := by decide +kernel
  obtain ⟨words, spaced⟩ := words_eq_iff.mp split
  have each : ∀ token ∈ ["Red", "blue_"], IsWord token.toList := List.forall_mem_map.mp words
  obtain ⟨given, every⟩ := text_like_list plain escapingOptions
  obtain ⟨alike, compiled⟩ := given ["Red", "blue_"] colours each spaced
  obtain ⟨-, -, visible⟩ := every colours
  rw [read] at visible
  exact ⟨plain, each, spaced, alike, compiled.clauses (List.cons_ne_nil _ _), visible⟩

end Condition

end AttributeFilter
