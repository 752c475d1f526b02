/-
**Search conditions.**

SQL reads a search condition by its tokens: words and signs, with blanks between them wherever one
likes, and with the keywords AND and OR in either case of their letters. AND binds tighter than OR:

```
search condition  =  boolean term { OR boolean term }
boolean term      =  boolean primary { AND boolean primary }
boolean primary   =  "(" search condition ")"  |  predicate
predicate         =  part { part }
```

A part is any word or sign that is no keyword and no parenthesis. The readings of a text are the
trees of this grammar that have its tokens.

* `sqlTokens` — the tokens of a text.
* **`tokensFrom_append_cons`** — a character that is in no word ends the word before it.
* **`SearchCondition.tokens_injective`** — tokens have at most one reading.
* `ReadAs` — the reading of a text.
* `SearchCondition.eval` — what a reading says when it is known which predicates hold.
-/

namespace AttributeFilter

/-! ### Tokens -/

/-- A token, as far as the grammar looks at it. -/
inductive SqlToken
  | part (text : List Char)
  | and
  | or
  | opening
  | closing
deriving Repr, DecidableEq

/-- The characters that SQL takes for blanks. -/
def sqlBlanks : List Char := [' ', '\t', '\n', '\r', '\x0b', '\x0c']

/-- Whether a character is part of a word: of a keyword, a name, a number or a parameter. -/
def continuesWord (c : Char) : Bool :=
  c.isAlphanum || c ∈ ['_', '$', '@', ':'] || 0x80 ≤ c.toNat

/-- The token of a character that is in no word. A blank is none. -/
def signTokens (c : Char) : List SqlToken :=
  if c ∈ sqlBlanks then [] else
  if c = '(' then [.opening] else
  if c = ')' then [.closing] else [.part [c]]

/-- The token of a word. The letters of a keyword may be in either case. -/
def wordTokens (word : List Char) : List SqlToken :=
  if word = [] then [] else
  if word.map Char.toLower = "and".toList then [.and] else
  if word.map Char.toLower = "or".toList then [.or] else [.part word]

/-- The tokens of a text, behind the beginning of a word. -/
def tokensFrom (word : List Char) : List Char → List SqlToken
  | [] => wordTokens word
  | c :: rest =>
    if continuesWord c then tokensFrom (word ++ [c]) rest
    else wordTokens word ++ (signTokens c ++ tokensFrom [] rest)

/-- The tokens of a text without quotes and comments. -/
def sqlTokens (text : String) : List SqlToken := tokensFrom [] text.toList

/-- **A character that is in no word ends the word before it**: what stands on its two sides is
split into tokens separately. -/
theorem tokensFrom_append_cons (word before after : List Char) {stop : Char}
    (stops : continuesWord stop = false) :
    tokensFrom word (before ++ stop :: after) =
      tokensFrom word before ++ (signTokens stop ++ tokensFrom [] after) := by
  induction before generalizing word with
  | nil => simp [tokensFrom, stops]
  | cons c before ih =>
    rw [List.cons_append, tokensFrom, tokensFrom, ih, ih]
    split <;> simp

/-- The tokens on the two sides of an AND. -/
theorem sqlTokens_and (before after : String) :
    sqlTokens (before ++ " AND " ++ after) = sqlTokens before ++ .and :: sqlTokens after := by
  have behind : tokensFrom [] ("AND".toList ++ ' ' :: after.toList) = .and :: sqlTokens after :=
    tokensFrom_append_cons [] _ _ rfl
  have written : (before ++ " AND " ++ after).toList =
      before.toList ++ ' ' :: ("AND".toList ++ ' ' :: after.toList) := by simp
  rw [sqlTokens, written, tokensFrom_append_cons _ _ _ rfl, behind]
  rfl

/-- The tokens in a pair of parentheses. -/
theorem sqlTokens_group (inner : String) :
    sqlTokens ("(" ++ inner ++ ")") = .opening :: (sqlTokens inner ++ [.closing]) := by
  have behind : tokensFrom [] (inner.toList ++ ')' :: []) = sqlTokens inner ++ [.closing] :=
    tokensFrom_append_cons [] _ _ rfl
  have written : ("(" ++ inner ++ ")").toList = [] ++ '(' :: (inner.toList ++ ')' :: []) := by simp
  rw [sqlTokens, written, tokensFrom_append_cons _ _ _ rfl, behind]
  rfl

theorem opening_not_mem_wordTokens (word : List Char) : .opening ∉ wordTokens word := by
  simp only [wordTokens]
  repeat' split
  all_goals simp

theorem opening_not_mem_signTokens {c : Char} (other : c ≠ '(') : .opening ∉ signTokens c := by
  simp only [signTokens, if_neg other]
  repeat' split
  all_goals simp

theorem opening_not_mem_tokensFrom {text : List Char} (free : '(' ∉ text) (word : List Char) :
    .opening ∉ tokensFrom word text := by
  induction text generalizing word with
  | nil => exact opening_not_mem_wordTokens word
  | cons c rest ih =>
    have later : '(' ∉ rest := List.not_mem_of_not_mem_cons free
    rw [tokensFrom]
    split
    · exact ih later _
    · simp only [List.mem_append, not_or]
      exact ⟨opening_not_mem_wordTokens word,
        opening_not_mem_signTokens (List.ne_of_not_mem_cons free).symm, ih later []⟩

/-! ### Readings -/

/-- A predicate, by the words and signs that it is written with. -/
structure Predicate where
  first : List Char
  rest : List (List Char)
deriving Repr, DecidableEq

mutual

/-- Terms with OR between neighbours. -/
inductive SearchCondition
  | last (term : BooleanTerm)
  | or (term : BooleanTerm) (rest : SearchCondition)

/-- Primaries with AND between neighbours. -/
inductive BooleanTerm
  | last (primary : BooleanPrimary)
  | and (primary : BooleanPrimary) (rest : BooleanTerm)

/-- A predicate, or a search condition in parentheses. -/
inductive BooleanPrimary
  | predicate (predicate : Predicate)
  | group (inner : SearchCondition)

end

/-- The tokens of a predicate. -/
def Predicate.tokens (predicate : Predicate) : List SqlToken :=
  (predicate.first :: predicate.rest).map .part

mutual

/-- The tokens of a search condition. -/
def SearchCondition.tokens : SearchCondition → List SqlToken
  | .last term => term.tokens
  | .or term rest => term.tokens ++ .or :: rest.tokens

/-- The tokens of a term. -/
def BooleanTerm.tokens : BooleanTerm → List SqlToken
  | .last primary => primary.tokens
  | .and primary rest => primary.tokens ++ .and :: rest.tokens

/-- The tokens of a primary. -/
def BooleanPrimary.tokens : BooleanPrimary → List SqlToken
  | .predicate predicate => predicate.tokens
  | .group inner => .opening :: (inner.tokens ++ [.closing])

end

mutual

/-- The number of predicates in a search condition. -/
def SearchCondition.size : SearchCondition → Nat
  | .last term => term.size
  | .or term rest => term.size + rest.size

/-- The number of predicates in a term. -/
def BooleanTerm.size : BooleanTerm → Nat
  | .last primary => primary.size
  | .and primary rest => primary.size + rest.size

/-- The number of predicates in a primary. -/
def BooleanPrimary.size : BooleanPrimary → Nat
  | .predicate _ => 1
  | .group inner => inner.size

end

mutual

/-- Whether a search condition holds whose first predicate has the given index. -/
def SearchCondition.eval (truth : Nat → Bool) (index : Nat) : SearchCondition → Bool
  | .last term => term.eval truth index
  | .or term rest => term.eval truth index || rest.eval truth (index + term.size)

/-- Whether a term holds whose first predicate has the given index. -/
def BooleanTerm.eval (truth : Nat → Bool) (index : Nat) : BooleanTerm → Bool
  | .last primary => primary.eval truth index
  | .and primary rest => primary.eval truth index && rest.eval truth (index + primary.size)

/-- Whether a primary holds whose first predicate has the given index. -/
def BooleanPrimary.eval (truth : Nat → Bool) (index : Nat) : BooleanPrimary → Bool
  | .predicate _ => truth index
  | .group inner => inner.eval truth index

end

mutual

/-- Where all predicates come to one verdict, so does the search condition. -/
theorem SearchCondition.eval_const {truth : Nat → Bool} {verdict : Bool} {index : Nat} :
    ∀ condition : SearchCondition,
      (∀ place, index ≤ place → place < index + condition.size → truth place = verdict) →
        condition.eval truth index = verdict
  | .last term, alike => BooleanTerm.eval_const term alike
  | .or term rest, alike => by
    rw [SearchCondition.size] at alike
    have here : term.eval truth index = verdict :=
      BooleanTerm.eval_const term fun place low high => alike place low (by omega)
    have there : rest.eval truth (index + term.size) = verdict :=
      SearchCondition.eval_const rest fun place low high => alike place (by omega) (by omega)
    rw [SearchCondition.eval, here, there, Bool.or_self]

/-- Where all predicates come to one verdict, so does the term. -/
theorem BooleanTerm.eval_const {truth : Nat → Bool} {verdict : Bool} {index : Nat} :
    ∀ term : BooleanTerm,
      (∀ place, index ≤ place → place < index + term.size → truth place = verdict) →
        term.eval truth index = verdict
  | .last primary, alike => BooleanPrimary.eval_const primary alike
  | .and primary rest, alike => by
    rw [BooleanTerm.size] at alike
    have here : primary.eval truth index = verdict :=
      BooleanPrimary.eval_const primary fun place low high => alike place low (by omega)
    have there : rest.eval truth (index + primary.size) = verdict :=
      BooleanTerm.eval_const rest fun place low high => alike place (by omega) (by omega)
    rw [BooleanTerm.eval, here, there, Bool.and_self]

/-- Where all predicates come to one verdict, so does the primary. -/
theorem BooleanPrimary.eval_const {truth : Nat → Bool} {verdict : Bool} {index : Nat} :
    ∀ primary : BooleanPrimary,
      (∀ place, index ≤ place → place < index + primary.size → truth place = verdict) →
        primary.eval truth index = verdict
  | .predicate _, alike => alike index (Nat.le_refl index) (Nat.lt_succ_self index)
  | .group inner, alike => SearchCondition.eval_const inner alike

end

/-! ### A text has one reading

A reading goes on as far as it can, so what follows it binds less tightly than the reading itself:
nothing but a parenthesis or the end follows a search condition, an OR may follow a term, and an AND
a primary as well. -/

/-- How loosely a token binds what stands on its two sides. -/
def SqlToken.looseness : SqlToken → Nat
  | .part _ | .opening => 0
  | .and => 1
  | .or => 2
  | .closing => 3

/-- Whether no token that binds more tightly than the level comes first. -/
def LooseFrom (level : Nat) (tokens : List SqlToken) : Prop :=
  ∀ token ∈ tokens.head?, level ≤ token.looseness

theorem LooseFrom.nil (level : Nat) : LooseFrom level [] := by simp [LooseFrom]

theorem looseFrom_cons {level : Nat} {token : SqlToken} {rest : List SqlToken} :
    LooseFrom level (token :: rest) ↔ level ≤ token.looseness := by simp [LooseFrom]

theorem LooseFrom.mono {level lower : Nat} {tokens : List SqlToken} (loose : LooseFrom level tokens)
    (le : lower ≤ level) : LooseFrom lower tokens :=
  fun token member => Nat.le_trans le (loose token member)

/-- The parts of a predicate are found again in tokens that begin with them. -/
theorem map_part_append_inj {rest rest' : List SqlToken} (loose : LooseFrom 1 rest)
    (loose' : LooseFrom 1 rest') :
    ∀ first second : List (List Char),
      first.map SqlToken.part ++ rest = second.map SqlToken.part ++ rest' →
        first = second ∧ rest = rest'
  | [], [], same => ⟨rfl, same⟩
  | [], part :: parts, same => by
    rw [List.map_nil, List.nil_append] at same
    subst same
    exact absurd (looseFrom_cons.mp loose) (Nat.not_succ_le_zero 0)
  | part :: parts, [], same => by
    rw [List.map_nil, List.nil_append] at same
    subst same
    exact absurd (looseFrom_cons.mp loose') (Nat.not_succ_le_zero 0)
  | part :: parts, part' :: parts', same => by
    obtain ⟨head, tail⟩ := List.cons.inj same
    obtain ⟨rfl, rests⟩ := map_part_append_inj loose loose' parts parts' tail
    exact ⟨congrArg (· :: parts) (SqlToken.part.inj head), rests⟩

mutual

/-- A search condition is found again in tokens that begin with it. -/
theorem SearchCondition.tokens_append_inj {rest rest' : List SqlToken} (loose : LooseFrom 3 rest)
    (loose' : LooseFrom 3 rest') :
    ∀ first second : SearchCondition, first.tokens ++ rest = second.tokens ++ rest' →
      first = second ∧ rest = rest'
  | .last term, .last term', same => by
    obtain ⟨rfl, rests⟩ := BooleanTerm.tokens_append_inj (loose.mono (by decide))
      (loose'.mono (by decide)) term term' same
    exact ⟨rfl, rests⟩
  -- One reading ends where the other goes on with OR, which may not follow a search condition.
  | .last term, .or term' others', same => by
    simp only [SearchCondition.tokens, List.append_assoc] at same
    have tails := (BooleanTerm.tokens_append_inj (loose.mono (by decide))
      (looseFrom_cons.mpr (by decide)) term term' same).2
    exact absurd (looseFrom_cons.mp (tails ▸ loose)) (by decide)
  | .or term others, .last term', same => by
    simp only [SearchCondition.tokens, List.append_assoc] at same
    have tails := (BooleanTerm.tokens_append_inj (looseFrom_cons.mpr (by decide))
      (loose'.mono (by decide)) term term' same).2
    exact absurd (looseFrom_cons.mp (tails ▸ loose')) (by decide)
  | .or term others, .or term' others', same => by
    simp only [SearchCondition.tokens, List.append_assoc] at same
    obtain ⟨rfl, tails⟩ := BooleanTerm.tokens_append_inj (looseFrom_cons.mpr (by decide))
      (looseFrom_cons.mpr (by decide)) term term' same
    obtain ⟨rfl, rests⟩ := SearchCondition.tokens_append_inj loose loose' others others'
      (List.cons.inj tails).2
    exact ⟨rfl, rests⟩

/-- A term is found again in tokens that begin with it. -/
theorem BooleanTerm.tokens_append_inj {rest rest' : List SqlToken} (loose : LooseFrom 2 rest)
    (loose' : LooseFrom 2 rest') :
    ∀ first second : BooleanTerm, first.tokens ++ rest = second.tokens ++ rest' →
      first = second ∧ rest = rest'
  | .last primary, .last primary', same => by
    obtain ⟨rfl, rests⟩ := BooleanPrimary.tokens_append_inj (loose.mono (by decide))
      (loose'.mono (by decide)) primary primary' same
    exact ⟨rfl, rests⟩
  | .last primary, .and primary' others', same => by
    simp only [BooleanTerm.tokens, List.append_assoc] at same
    have tails := (BooleanPrimary.tokens_append_inj (loose.mono (by decide))
      (looseFrom_cons.mpr (by decide)) primary primary' same).2
    exact absurd (looseFrom_cons.mp (tails ▸ loose)) (by decide)
  | .and primary others, .last primary', same => by
    simp only [BooleanTerm.tokens, List.append_assoc] at same
    have tails := (BooleanPrimary.tokens_append_inj (looseFrom_cons.mpr (by decide))
      (loose'.mono (by decide)) primary primary' same).2
    exact absurd (looseFrom_cons.mp (tails ▸ loose')) (by decide)
  | .and primary others, .and primary' others', same => by
    simp only [BooleanTerm.tokens, List.append_assoc] at same
    obtain ⟨rfl, tails⟩ := BooleanPrimary.tokens_append_inj (looseFrom_cons.mpr (by decide))
      (looseFrom_cons.mpr (by decide)) primary primary' same
    obtain ⟨rfl, rests⟩ := BooleanTerm.tokens_append_inj loose loose' others others'
      (List.cons.inj tails).2
    exact ⟨rfl, rests⟩

/-- A primary is found again in tokens that begin with it: a parenthesis begins no predicate. -/
theorem BooleanPrimary.tokens_append_inj {rest rest' : List SqlToken} (loose : LooseFrom 1 rest)
    (loose' : LooseFrom 1 rest') :
    ∀ first second : BooleanPrimary, first.tokens ++ rest = second.tokens ++ rest' →
      first = second ∧ rest = rest'
  | .predicate ⟨part, parts⟩, .predicate ⟨part', parts'⟩, same => by
    obtain ⟨parts, rests⟩ := map_part_append_inj loose loose' _ _ same
    obtain ⟨rfl, rfl⟩ := List.cons.inj parts
    exact ⟨rfl, rests⟩
  | .predicate _, .group inner', same => nomatch (List.cons.inj same).1
  | .group inner, .predicate _, same => nomatch (List.cons.inj same).1
  | .group inner, .group inner', same => by
    simp only [BooleanPrimary.tokens, List.cons_append, List.append_assoc] at same
    obtain ⟨rfl, rests⟩ := SearchCondition.tokens_append_inj (looseFrom_cons.mpr (by decide))
      (looseFrom_cons.mpr (by decide)) inner inner' (List.cons.inj same).2
    exact ⟨rfl, (List.cons.inj rests).2⟩

end

/-- **Tokens have at most one reading.** -/
theorem SearchCondition.tokens_injective : Function.Injective SearchCondition.tokens := by
  intro first second same
  refine (SearchCondition.tokens_append_inj (.nil 3) (.nil 3) first second ?_).1
  rw [List.append_nil, List.append_nil]
  exact same

/-- A text has one reading, and it is this one. -/
def ReadAs (text : String) (reading : SearchCondition) : Prop :=
  ∀ other : SearchCondition, other.tokens = sqlTokens text ↔ other = reading

theorem readAs_of_tokens {text : String} {reading : SearchCondition}
    (read : reading.tokens = sqlTokens text) : ReadAs text reading := by
  intro other
  constructor
  · intro read'
    exact SearchCondition.tokens_injective (read'.trans read.symm)
  · rintro rfl
    exact read

end AttributeFilter
