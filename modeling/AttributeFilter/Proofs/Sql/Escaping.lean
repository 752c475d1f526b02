/-
**Escaping as an encoding.**

A text is escaped in three passes over the whole of it, and each pass reads what the passes before it
have put in. The backslashes go first, so that none is escaped twice, and the text comes out as if
every character had been escaped by itself. Read from the left, backslash by backslash, it falls
apart into the same pieces again.

* `escapeChar`, `escapeLike_eq_flatMap` — three passes are one pass, character by character.
* `escapePieces` — a pattern read from the left in pairs of a backslash and the character behind it.
* **`escapePieces_escapeLike`** — the pieces of an escaped text are its characters, each escaped.
* `unescapeLike` — what is left of the pieces without their backslashes.
* **`escapeLike_invertible`** — the properties together, for every text.
-/

import AttributeFilter.Proofs.Sql.Matching
import Mathlib.Logic.Function.Basic

namespace AttributeFilter

/-! ### One pass -/

/-- A character in a pattern that asks for it. -/
def escapeChar : Char → List Char
  | '\\' => ['\\', '\\']
  | '%' => ['\\', '%']
  | '_' => ['\\', '_']
  | c => [c]

theorem escapeChar_eq (c : Char) : escapeChar c = if isReserved c then ['\\', c] else [c] := by
  unfold escapeChar
  split
  · rfl
  · rfl
  · rfl
  · rename_i backslash percent underscore
    have unreserved : ¬ isReserved c = true := by
      rw [isReserved_iff]
      rintro (rfl | rfl | rfl)
      · exact backslash rfl
      · exact percent rfl
      · exact underscore rfl
    exact (if_neg unreserved).symm

/-- **Three passes are one pass**: every character is escaped by itself. -/
theorem escapeLike_eq_flatMap (text : List Char) : escapeLike text = text.flatMap escapeChar := by
  induction text with
  | nil => rfl
  | cons c rest ih =>
    rw [escapeLike_cons, List.flatMap_cons, escapeChar_eq, ih]
    split <;> rfl

/-! ### Reading in pairs -/

/-- The pieces of a pattern, from the left: a backslash with the character behind it, any other
character alone. -/
def escapePieces : List Char → List (List Char)
  | [] => []
  | [c] => [[c]]
  | c :: d :: rest =>
    if c = '\\' then [c, d] :: escapePieces rest else [c] :: escapePieces (d :: rest)

theorem escapePieces_cons {c : Char} (plain : c ≠ '\\') (rest : List Char) :
    escapePieces (c :: rest) = [c] :: escapePieces rest := by
  cases rest with
  | nil => rfl
  | cons d rest => rw [escapePieces, if_neg plain]

/-- The pieces are the whole pattern. -/
theorem flatten_escapePieces (pattern : List Char) : (escapePieces pattern).flatten = pattern := by
  fun_induction escapePieces pattern with
  | case1 => rfl
  | case2 c => rfl
  | case3 d rest ih => rw [List.flatten_cons, ih]; rfl
  | case4 c d rest plain ih => rw [List.flatten_cons, ih]; rfl

/-- An escaped character is read as one piece, whatever stands behind it. -/
theorem escapePieces_escapeChar_append (c : Char) (rest : List Char) :
    escapePieces (escapeChar c ++ rest) = escapeChar c :: escapePieces rest := by
  rw [escapeChar_eq]
  cases reserved : isReserved c with
  | true => exact if_pos rfl
  | false => exact escapePieces_cons (ne_backslash_of_unreserved reserved) rest

/-- **The pieces of an escaped text** are its characters, each escaped. -/
theorem escapePieces_escapeLike (text : List Char) :
    escapePieces (escapeLike text) = text.map escapeChar := by
  rw [escapeLike_eq_flatMap]
  induction text with
  | nil => rfl
  | cons c rest ih =>
    rw [List.flatMap_cons, escapePieces_escapeChar_append, ih, List.map_cons]

/-! ### Undoing the escapes -/

/-- What a pattern stands for when all its characters are to stand for themselves: the backslash of
every pair is dropped, and the character behind it is kept. -/
def unescapeLike (pattern : List Char) : List Char :=
  (escapePieces pattern).filterMap List.getLast?

theorem getLast?_escapeChar (c : Char) : (escapeChar c).getLast? = some c := by
  rw [escapeChar_eq]
  split <;> rfl

theorem unescapeLike_escapeLike (text : List Char) : unescapeLike (escapeLike text) = text := by
  rw [unescapeLike, escapePieces_escapeLike, List.filterMap_map]
  have kept : List.getLast? ∘ escapeChar = some := funext getLast?_escapeChar
  rw [kept, List.filterMap_some]

/-- A reserved character is never a piece by itself. -/
theorem escapeChar_ne_singleton {mark : Char} (reserved : isReserved mark = true) (c : Char) :
    escapeChar c ≠ [mark] := by
  intro alone
  have last := getLast?_escapeChar c
  rw [alone] at last
  obtain rfl : mark = c := Option.some.inj last
  rw [escapeChar_eq, if_pos reserved] at alone
  exact List.cons_ne_nil _ _ (List.cons.inj alone).2

/-- **Escaping is a one-pass encoding that can be undone.** Every character is escaped by itself, so
texts are escaped independently of each other. Dropping the backslashes of the pairs gives the text
back, and no two texts are escaped alike. Read from the left in pairs, an escaped text holds no
percent sign and no underscore outside of a pair, and it does not end in the middle of one. -/
theorem escapeLike_invertible :
    Function.Injective escapeLike ∧
    ∀ text,
      escapeLike text = text.flatMap escapeChar ∧
      (∀ rest, escapeLike (text ++ rest) = escapeLike text ++ escapeLike rest) ∧
      unescapeLike (escapeLike text) = text ∧
      (escapePieces (escapeLike text)).flatten = escapeLike text ∧
      ∀ mark ∈ ['\\', '%', '_'], [mark] ∉ escapePieces (escapeLike text) := by
  refine ⟨Function.LeftInverse.injective unescapeLike_escapeLike, fun text => ?_⟩
  refine ⟨escapeLike_eq_flatMap text, escapeLike_append text, unescapeLike_escapeLike text,
    flatten_escapePieces _, ?_⟩
  intro mark listed member
  have reserved : isReserved mark = true := isReserved_iff.mpr (by simpa using listed)
  rw [escapePieces_escapeLike] at member
  obtain ⟨c, -, alone⟩ := List.mem_map.mp member
  exact escapeChar_ne_singleton reserved c alone

-- A run of backslashes does not swallow the escape of the percent sign behind it.
example : escapePieces (escapeLike "a\\\\%".toList) =
    ["a".toList, "\\\\".toList, "\\\\".toList, "\\%".toList] := by
  decide

end AttributeFilter
