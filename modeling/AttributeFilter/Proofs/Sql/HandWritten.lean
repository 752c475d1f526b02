/-
**Conditions written by hand.**

A scope takes any condition, not only the compiled ones, and a condition written by hand may spell
its keywords as it likes. Whether it is compound is found out by looking for ` OR ` and ` AND ` in
it, so an OR in small letters, or at the end of a line, is missed. Such a condition stands without
parentheses, and its OR reaches across the ANDs next to it, those of the caller too.

* `HandWritten` — a condition that is written by hand, with its reading.
* `HandWritten.Grouped` — the condition is recognized as compound if there is an OR in it.
* `BooleanTerm.append`, `SearchCondition.andThen` — what is read when two readings are joined by AND.
* **`HandWritten.isTerm_part_iff`** — a part of a conjunction binds as tightly as AND exactly if it
  is grouped.
* **`Scope.conjunction_of_hand_written`** — a scope says what its conditions say exactly if all of
  them are grouped.
-/

import AttributeFilter.Proofs.Sql.Composition
import AttributeFilter.Proofs.Sql.SearchCondition

namespace AttributeFilter

/-! ### Readings joined by AND -/

namespace BooleanTerm

/-- A term and another behind it. -/
def append : BooleanTerm → BooleanTerm → BooleanTerm
  | .last primary, second => .and primary second
  | .and primary rest, second => .and primary (rest.append second)

section

variable (second : BooleanTerm)

theorem tokens_append : ∀ first : BooleanTerm,
    (first.append second).tokens = first.tokens ++ .and :: second.tokens
  | .last _ => rfl
  | .and _ rest => by simp [append, tokens, tokens_append rest]

theorem size_append : ∀ first : BooleanTerm,
    (first.append second).size = first.size + second.size
  | .last _ => rfl
  | .and _ rest => by simp [append, size, size_append rest, Nat.add_assoc]

theorem eval_append (truth : Nat → Bool) : ∀ (first : BooleanTerm) (index : Nat),
    (first.append second).eval truth index =
      (first.eval truth index && second.eval truth (index + first.size))
  | .last _, _ => rfl
  | .and _ rest, _ => by
    simp [append, eval, size, eval_append truth rest, Nat.add_assoc, Bool.and_assoc]

end

end BooleanTerm

namespace SearchCondition

/-- Whether a search condition is a single term, with no OR outside parentheses. -/
def isTerm : SearchCondition → Bool
  | .last _ => true
  | .or _ _ => false

/-- A term, an AND and a search condition: the AND reaches the first term. -/
def behind (term : BooleanTerm) : SearchCondition → SearchCondition
  | .last first => .last (term.append first)
  | .or first rest => .or (term.append first) rest

/-- A search condition, an AND and another: the AND joins the terms next to it. -/
def andThen : SearchCondition → SearchCondition → SearchCondition
  | .last term, second => second.behind term
  | .or term rest, second => .or term (rest.andThen second)

section

variable (term : BooleanTerm) (first second : SearchCondition)

theorem tokens_behind : (second.behind term).tokens = term.tokens ++ .and :: second.tokens := by
  cases second <;> simp [behind, tokens, BooleanTerm.tokens_append]

theorem isTerm_behind : (second.behind term).isTerm = second.isTerm := by
  cases second <;> rfl

theorem eval_behind (single : second.isTerm = true) (truth : Nat → Bool) (index : Nat) :
    (second.behind term).eval truth index =
      (term.eval truth index && second.eval truth (index + term.size)) := by
  cases second with
  | last first => exact first.eval_append truth term index
  | or first rest => exact absurd single Bool.false_ne_true

/-- **An OR behind an AND makes up for the term before it**: if all that follows the term is true,
so is the whole. -/
theorem eval_behind_of_or (several : second.isTerm = false) {truth : Nat → Bool} {index : Nat}
    (holds : ∀ place, index + term.size ≤ place → truth place = true) :
    (second.behind term).eval truth index = true := by
  cases second with
  | last first => exact absurd several.symm Bool.false_ne_true
  | or first rest =>
    have later : rest.eval truth (index + (term.append first).size) = true := by
      refine rest.eval_const fun place low _ => holds place ?_
      rw [BooleanTerm.size_append] at low
      omega
    rw [behind, eval, later, Bool.or_true]

theorem isTerm_andThen : (first.andThen second).isTerm = (first.isTerm && second.isTerm) := by
  cases first with
  | last term => exact isTerm_behind term second
  | or term rest => rfl

theorem eval_andThen (single : first.isTerm = true) (single' : second.isTerm = true)
    (truth : Nat → Bool) (index : Nat) :
    (first.andThen second).eval truth index =
      (first.eval truth index && second.eval truth (index + first.size)) := by
  cases first with
  | last term => exact eval_behind term second single' truth index
  | or term rest => exact absurd single Bool.false_ne_true

end

theorem tokens_andThen (second : SearchCondition) : ∀ first : SearchCondition,
    (first.andThen second).tokens = first.tokens ++ .and :: second.tokens
  | .last term => tokens_behind term second
  | .or term rest => by simp [andThen, tokens, tokens_andThen second rest]

end SearchCondition

/-! ### Where there are no parentheses -/

theorem BooleanPrimary.or_not_mem {primary : BooleanPrimary}
    (flat : .opening ∉ primary.tokens) : .or ∉ primary.tokens := by
  cases primary with
  | predicate predicate => simp [tokens, Predicate.tokens]
  | group inner => exact absurd List.mem_cons_self flat

/-- Without parentheses there is no OR in a term. -/
theorem BooleanTerm.or_not_mem :
    ∀ term : BooleanTerm, .opening ∉ term.tokens → .or ∉ term.tokens
  | .last primary, flat => BooleanPrimary.or_not_mem flat
  | .and primary rest, flat => by
    simp only [tokens, List.mem_append, List.mem_cons, reduceCtorEq, false_or, not_or] at flat ⊢
    exact ⟨BooleanPrimary.or_not_mem flat.1, rest.or_not_mem flat.2⟩

/-- Without parentheses a search condition is a single term if there is no OR in it. -/
theorem SearchCondition.isTerm_iff {condition : SearchCondition}
    (flat : .opening ∉ condition.tokens) : condition.isTerm = true ↔ .or ∉ condition.tokens := by
  cases condition with
  | last term => exact ⟨fun _ => term.or_not_mem flat, fun _ => rfl⟩
  | or term rest => simp [isTerm, tokens]

/-! ### Conditions -/

/-- Quotation marks and parentheses. -/
def sqlDelimiters : List Char := ['\x27', '\x22', '\x60', '(', ')']

/-- Whether a text has nothing in quotes or in parentheses. -/
def isFlat (text : String) : Bool := text.toList.all fun c => c ∉ sqlDelimiters

theorem opening_not_mem_sqlTokens {text : String} (flat : isFlat text = true) :
    .opening ∉ sqlTokens text := by
  refine opening_not_mem_tokensFrom (fun member => ?_) []
  have outside := List.all_eq_true.mp flat '(' member
  exact of_decide_eq_true outside (by decide)

/-- A condition written by hand: predicates joined by AND and OR, with nothing in quotes or in
parentheses. -/
structure HandWritten where
  condition : Condition
  reading : SearchCondition
  flat : isFlat condition.expression = true
  read : reading.tokens = sqlTokens condition.expression

namespace HandWritten

/-- The condition is recognized as compound if there is an OR in it, however it is written. -/
def Grouped (written : HandWritten) : Prop :=
  .or ∈ sqlTokens written.condition.expression → written.condition.isCompound = true

/-- The reading of the condition as part of a conjunction. -/
def part (written : HandWritten) : SearchCondition :=
  if written.condition.isCompound then .last (.last (.group written.reading)) else written.reading

section

variable (written : HandWritten)

theorem tokens_part : written.part.tokens = sqlTokens (Scope.conjunct written.condition) := by
  rw [part, Scope.conjunct]
  split
  · rw [sqlTokens_group, ← written.read]
    rfl
  · exact written.read

theorem size_part : written.part.size = written.reading.size := by
  rw [part]
  split <;> rfl

theorem eval_part (truth : Nat → Bool) (index : Nat) :
    written.part.eval truth index = written.reading.eval truth index := by
  rw [part]
  split <;> rfl

/-- **A part binds as tightly as AND exactly if the condition is grouped.** -/
theorem isTerm_part_iff : written.part.isTerm = true ↔ written.Grouped := by
  have flat : .opening ∉ written.reading.tokens := by
    rw [written.read]
    exact opening_not_mem_sqlTokens written.flat
  rw [Grouped, part]
  cases written.condition.isCompound with
  | true => exact ⟨fun _ _ => rfl, fun _ => rfl⟩
  | false =>
    rw [if_neg Bool.false_ne_true, SearchCondition.isTerm_iff flat, written.read]
    exact ⟨fun missing present => absurd present missing, fun recognized present =>
      Bool.false_ne_true (recognized present)⟩

end

/-- Whether all conditions hold, the first predicate of which has the given index. -/
def allHold (truth : Nat → Bool) (index : Nat) : List HandWritten → Bool
  | [] => true
  | first :: rest =>
    first.reading.eval truth index && allHold truth (index + first.reading.size) rest

/-- The reading of a conjunction: its parts, joined by AND. -/
def joined (first : HandWritten) : List HandWritten → SearchCondition
  | [] => first.part
  | next :: rest => first.part.andThen (joined next rest)

theorem tokens_joined (first : HandWritten) (rest : List HandWritten) :
    (joined first rest).tokens =
      sqlTokens (Scope.conjunction ((first :: rest).map HandWritten.condition)) := by
  induction rest generalizing first with
  | nil => exact first.tokens_part
  | cons next rest ih =>
    rw [joined, SearchCondition.tokens_andThen, ih, tokens_part, ← sqlTokens_and]
    rfl

theorem isTerm_joined_iff (first : HandWritten) (rest : List HandWritten) :
    (joined first rest).isTerm = true ↔ ∀ written ∈ first :: rest, written.Grouped := by
  induction rest generalizing first with
  | nil => simp [joined, isTerm_part_iff]
  | cons next rest ih =>
    rw [joined, SearchCondition.isTerm_andThen, Bool.and_eq_true, ih, isTerm_part_iff]
    exact List.forall_mem_cons.symm

/-- **Parts that bind as tightly as AND are not mixed**: the conjunction holds if all conditions
do. -/
theorem eval_joined (first : HandWritten) (rest : List HandWritten)
    (grouped : ∀ written ∈ first :: rest, written.Grouped) (truth : Nat → Bool) (index : Nat) :
    (joined first rest).eval truth index = allHold truth index (first :: rest) := by
  induction rest generalizing first index with
  | nil => simp [joined, allHold, eval_part]
  | cons next rest ih =>
    obtain ⟨here, later⟩ := List.forall_mem_cons.mp grouped
    rw [joined, SearchCondition.eval_andThen _ _ (first.isTerm_part_iff.mpr here)
      ((isTerm_joined_iff next rest).mpr later), eval_part, size_part, ih next later]
    rfl

end HandWritten

/-! ### Scopes -/

theorem Chain.conditions_of_links {conditions : List Condition} {chain : Chain}
    (built : chain.links = conditions.map Scope.ofCondition) :
    chain.result.conditions = conditions := by
  rw [chain.conditions_result, restrictions, built, List.filter_map, List.flatMap_map]
  simp [Scope.isUnrestricted, Scope.ofCondition, Function.comp_def]

/-- **A scope of conditions written by hand.** Its text has one reading, and so it has behind a text
of the caller and an AND. Both say what the conditions say one by one, the latter after the text of
the caller, exactly if every condition with an OR in it is recognized as compound. -/
theorem Scope.conjunction_of_hand_written {caller : String} {lead : BooleanTerm}
    (asked : lead.tokens = sqlTokens caller) {conditions : List HandWritten}
    (some : conditions ≠ []) {chain : Chain}
    (built : chain.links = (conditions.map HandWritten.condition).map ofCondition) :
    ∃ clause alone behind, chain.result.whereClause? = .some clause ∧
      ReadAs clause alone ∧ ReadAs (caller ++ " AND " ++ clause) behind ∧
      ((∀ truth, alone.eval truth 0 = HandWritten.allHold truth 0 conditions ∧
          behind.eval truth 0 =
            (lead.eval truth 0 && HandWritten.allHold truth lead.size conditions)) ↔
        ∀ written ∈ conditions, written.Grouped) := by
  obtain ⟨first, rest, rfl⟩ := List.exists_cons_of_ne_nil some
  have collected := Chain.conditions_of_links built
  have restricted : chain.result.conditions ≠ [] := collected ▸ List.cons_ne_nil _ _
  let whole := HandWritten.joined first rest
  have read : whole.tokens = sqlTokens (conjunction chain.result.conditions) := by
    rw [collected, HandWritten.tokens_joined]
  have read' : (whole.behind lead).tokens =
      sqlTokens (caller ++ " AND " ++ conjunction chain.result.conditions) := by
    rw [SearchCondition.tokens_behind, sqlTokens_and, asked, read]
  refine ⟨_, whole, whole.behind lead, chain.result.whereClause?_eq_some_iff.mpr ⟨restricted, rfl⟩,
    readAs_of_tokens read, readAs_of_tokens read', fun alike => ?_, fun grouped truth => ?_⟩
  · refine Classical.byContradiction fun ungrouped => ?_
    have several : whole.isTerm = false := by
      rw [← Bool.not_eq_true, HandWritten.isTerm_joined_iff]
      exact ungrouped
    -- The text of the caller is false and all else is true, which should make the whole false.
    let truth (place : Nat) : Bool := decide (lead.size ≤ place)
    have missed : lead.eval truth 0 = false :=
      lead.eval_const fun place _ high => decide_eq_false (by omega)
    have made : (whole.behind lead).eval truth 0 = true :=
      whole.eval_behind_of_or lead several fun place low => decide_eq_true (by omega)
    have expected := (alike truth).2
    rw [made, missed, Bool.false_and] at expected
    exact Bool.noConfusion expected
  · have single : whole.isTerm = true := (HandWritten.isTerm_joined_iff first rest).mpr grouped
    rw [whole.eval_behind lead single, HandWritten.eval_joined first rest grouped,
      HandWritten.eval_joined first rest grouped, Nat.zero_add]
    exact ⟨rfl, rfl⟩

/-- The predicate that a column equals the value at a mark. -/
def equalsMark (column : String) : BooleanPrimary := .predicate ⟨column.toList, [['='], ['?']]⟩

/-- An AND in small letters, behind the end of a line, -/
def smallAnd : HandWritten where
  condition := ⟨"a = ?\n\tand b=?", ["1", "2"]⟩
  reading := .last (.and (equalsMark "a") (.last (equalsMark "b")))
  flat := rfl
  read := rfl

/-- an OR as it is looked for, -/
def capitalOr : HandWritten where
  condition := ⟨"c = ? OR d = ?", ["3", "4"]⟩
  reading := .or (.last (equalsMark "c")) (.last (.last (equalsMark "d")))
  flat := rfl
  read := rfl

/-- and an OR in small letters. -/
def smallOr : HandWritten where
  condition := ⟨"a = ? or b = ?", ["1", "2"]⟩
  reading := .or (.last (equalsMark "a")) (.last (.last (equalsMark "b")))
  flat := rfl
  read := rfl

theorem Scope.conjunction_of_hand_written_recognized :
    (BooleanTerm.last (equalsMark "p")).tokens = sqlTokens "p = ?" ∧ [smallAnd, capitalOr] ≠ [] ∧
    (Chain.compose (.link (ofCondition smallAnd.condition))
      (.link (ofCondition capitalOr.condition))).links =
        ([smallAnd, capitalOr].map HandWritten.condition).map ofCondition ∧
    ∃ alone behind,
      ((ofCondition smallAnd.condition).compose (ofCondition capitalOr.condition)).whereClause? =
        some "a = ?\n\tand b=? AND (c = ? OR d = ?)" ∧
      ReadAs "a = ?\n\tand b=? AND (c = ? OR d = ?)" alone ∧
      ReadAs "p = ? AND a = ?\n\tand b=? AND (c = ? OR d = ?)" behind ∧
      ∀ truth, alone.eval truth 0 = HandWritten.allHold truth 0 [smallAnd, capitalOr] ∧
        behind.eval truth 0 = (truth 0 && HandWritten.allHold truth 1 [smallAnd, capitalOr]) := by
  have asked : (BooleanTerm.last (equalsMark "p")).tokens = sqlTokens "p = ?" := rfl
  have some : [smallAnd, capitalOr] ≠ [] := List.cons_ne_nil _ _
  let chain : Chain := .compose (.link (ofCondition smallAnd.condition))
    (.link (ofCondition capitalOr.condition))
  have built : chain.links =
      ([smallAnd, capitalOr].map HandWritten.condition).map ofCondition := rfl
  have grouped : ∀ written ∈ [smallAnd, capitalOr], written.Grouped := by
    simp only [HandWritten.Grouped]
    decide
  obtain ⟨clause, alone, behind, written, read, read', alike⟩ :=
    conjunction_of_hand_written asked some built
  have text : chain.result.whereClause? = .some "a = ?\n\tand b=? AND (c = ? OR d = ?)" := by
    decide +kernel
  obtain rfl := Option.some.inj (text.symm.trans written)
  exact ⟨asked, some, built, alone, behind, written, read, read', alike.mpr grouped⟩

/-- **An OR in small letters reaches across the AND next to it**: the scope holds where its second
condition does not. -/
theorem Scope.conjunction_of_small_or :
    ∃ clause reading truth,
      ((ofCondition smallOr.condition).compose (ofCondition ⟨"c = ?", ["3"]⟩)).whereClause? =
        some clause ∧
      ReadAs clause reading ∧ reading.eval truth 0 = true ∧
      ReadAs "c = ?" (.last (.last (equalsMark "c"))) ∧
      (smallOr.reading.eval truth 0 &&
        (SearchCondition.last (.last (equalsMark "c"))).eval truth smallOr.reading.size) =
          false := by
  let reading : SearchCondition :=
    .or (.last (equalsMark "a")) (.last (.and (equalsMark "b") (.last (equalsMark "c"))))
  have read : reading.tokens = sqlTokens "a = ? or b = ? AND c = ?" := rfl
  exact ⟨"a = ? or b = ? AND c = ?", reading, (· == 0), by decide +kernel, readAs_of_tokens read,
    rfl, readAs_of_tokens rfl, rfl⟩

end AttributeFilter
