import ListQuery.Proofs.Sql.Lexer

/-!
# Reading conditions

The conditions of a statement are sequences of chunks.  Here they are read the way a
database reads them: `NOT` binds more strongly than `AND`, and `AND` more strongly than
`OR`; parentheses enclose a whole condition.

A condition is read at one of three levels, and each level is a function that reads as
much of a fragment as belongs to it and returns the rest.  `ReadsAs` says that a
fragment is read as a condition whatever follows it, as long as this begins with a word
that ends the level.  Fragments that are put together are read from their parts, so
nothing about the reader itself is used outside of this module.
-/

namespace ListQuery.Sql

/-! ## Terms and conditions -/

/-- What a comparison compares; `type` is the type it is converted to, if any. -/
inductive Term where
  | column (table name : String) (type : Option String)
  | parameter (value : Scalar) (type : Option String)
  | literal (value : Bool)
deriving DecidableEq

/-- A condition on a row. -/
inductive Condition where
  /-- A term that is a truth value itself. -/
  | term (term : Term)
  | compare (sign : Comparison) (left right : Term)
  /-- A comparison with at least one of several terms, or with all of them. -/
  | compareAny (sign : Comparison) (left : Term) (right : List Term)
  | compareAll (sign : Comparison) (left : Term) (right : List Term)
  | isNull (term : Term)
  | isDistinct (left right : Term)
  | between (term lower upper : Term)
  | ilike (term pattern : Term)
  | not (condition : Condition)
  | and (first second : Condition)
  | or (first second : Condition)
deriving DecidableEq

namespace Condition

/-- All of several conditions, of which there should be at least one. -/
def all : List Condition → Condition
  | [] => .term (.literal true)
  | [condition] => condition
  | condition :: next :: rest => .and condition (all (next :: rest))

/-- Any of several conditions, of which there should be at least one. -/
def any : List Condition → Condition
  | [] => .term (.literal false)
  | [condition] => condition
  | condition :: next :: rest => .or condition (any (next :: rest))

end Condition

/-! ## The reader -/

/-- The type of a conversion at the front of a fragment, if there is one. -/
def castType : Fragment → Option String × Fragment
  | .cast type :: rest => (some type, rest)
  | rest => (none, rest)

/-- A term at the front of a fragment, and what follows it. -/
def Term.read? : Fragment → Option (Term × Fragment)
  | .identifier table :: .token .dot :: .identifier name :: rest =>
    let (type, rest) := castType rest
    some (.column table name type, rest)
  | .parameter value :: rest =>
    let (type, rest) := castType rest
    some (.parameter value type, rest)
  | .token (.word .true) :: rest => some (.literal true, rest)
  | .token (.word .false) :: rest => some (.literal false, rest)
  | _ => none

/-- The bound values of an array up to its closing bracket, and what follows it. -/
def Term.items? : Fragment → Option (List Term × Fragment)
  | .parameter value :: .token .closeBracket :: rest => some ([.parameter value none], rest)
  | .parameter value :: .cast type :: .token .closeBracket :: rest =>
    some ([.parameter value (some type)], rest)
  | .parameter value :: .token .comma :: rest => do
    let (terms, rest) ← items? rest
    return (.parameter value none :: terms, rest)
  | .parameter value :: .cast type :: .token .comma :: rest => do
    let (terms, rest) ← items? rest
    return (.parameter value (some type) :: terms, rest)
  | _ => none

namespace Condition

/-- The rest of a comparison after its left term and its sign. -/
def comparison? (sign : Comparison) (left : Term) : Fragment → Option (Condition × Fragment)
  | .token (.call quantifier) :: .token .openParen :: .token (.word .array)
      :: .token .openBracket :: rest => do
    let (right, rest) ← Term.items? rest
    match quantifier, rest with
    | .any, .token .closeParen :: rest => return (.compareAny sign left right, rest)
    | .all, .token .closeParen :: rest => return (.compareAll sign left right, rest)
    | _, _ => none
  | rest => do
    let (right, rest) ← Term.read? rest
    return (.compare sign left right, rest)

/-- The rest of a condition after its left term. -/
def afterTerm? (left : Term) : Fragment → Option (Condition × Fragment)
  | .token (.compare sign) :: rest => comparison? sign left rest
  | .token (.word .is) :: .token (.word .null) :: rest => some (.isNull left, rest)
  | .token (.word .is) :: .token (.word .not) :: .token (.word .null) :: rest =>
    some (.not (.isNull left), rest)
  | .token (.word .is) :: .token (.word .distinct) :: .token (.word .fromWord) :: rest => do
    let (right, rest) ← Term.read? rest
    return (.isDistinct left right, rest)
  | .token (.word .is) :: .token (.word .not) :: .token (.word .distinct)
      :: .token (.word .fromWord) :: rest => do
    let (right, rest) ← Term.read? rest
    return (.not (.isDistinct left right), rest)
  | .token (.word .between) :: rest => do
    let (lower, rest) ← Term.read? rest
    match rest with
    | .token (.word .and) :: rest =>
      let (upper, rest) ← Term.read? rest
      return (.between left lower upper, rest)
    | _ => none
  | .token (.word .ilike) :: rest => do
    let (pattern, rest) ← Term.read? rest
    return (.ilike left pattern, rest)
  | rest => some (.term left, rest)

mutual

/-- A condition without `AND` and `OR` of its own. -/
def factor? : Nat → Fragment → Option (Condition × Fragment)
  | 0, _ => none
  | fuel + 1, fragment =>
    -- `NOT` takes the next factor only, and parentheses take a whole condition.
    match fragment with
    | .token (.word .not) :: rest => do
      let (condition, rest) ← factor? fuel rest
      return (.not condition, rest)
    | .token .openParen :: rest => do
      let (condition, rest) ← disjunction? fuel rest
      match rest with
      | .token .closeParen :: rest => return (condition, rest)
      | _ => none
    | fragment => do
      let (left, rest) ← Term.read? fragment
      afterTerm? left rest

/-- A condition without `OR` of its own. -/
def conjunction? : Nat → Fragment → Option (Condition × Fragment)
  | 0, _ => none
  | fuel + 1, fragment => do
    let (first, rest) ← factor? fuel fragment
    match rest with
    | .token (.word .and) :: rest =>
      let (second, rest) ← conjunction? fuel rest
      return (.and first second, rest)
    | rest => return (first, rest)

/-- Any condition. -/
def disjunction? : Nat → Fragment → Option (Condition × Fragment)
  | 0, _ => none
  | fuel + 1, fragment => do
    let (first, rest) ← conjunction? fuel fragment
    match rest with
    | .token (.word .or) :: rest =>
      let (second, rest) ← disjunction? fuel rest
      return (.or first second, rest)
    | rest => return (first, rest)

end

/-- The condition that a fragment is.  No chunk is looked at by more than three levels,
so three times the length bounds the rounds. -/
def read? (fragment : Fragment) : Option Condition := do
  let chunks ← fragment.expand?
  match ← disjunction? (3 * chunks.length + 2) chunks with
  | (condition, []) => return condition
  | _ => none

/-! ## Levels -/

/-- How strongly the parts of a condition are bound together. -/
inductive Level where
  | factor
  | conjunction
  | disjunction

/-- The reader of a level. -/
def Level.read? : Level → Nat → Fragment → Option (Condition × Fragment)
  | .factor => factor?
  | .conjunction => conjunction?
  | .disjunction => disjunction?

/-- How many levels lie below a level. -/
def Level.rank : Level → Nat
  | .factor => 0
  | .conjunction => 1
  | .disjunction => 2

/-- The words that end a level. -/
def Level.closers : Level → List Chunk
  | .factor => [.token .closeParen, .token (.word .or), .token (.word .and)]
  | .conjunction => [.token .closeParen, .token (.word .or)]
  | .disjunction => [.token .closeParen]

/-- Whether a level ends before a fragment. -/
def Level.EndsBefore (level : Level) (rest : Fragment) : Prop :=
  ∀ chunk ∈ rest.head?, chunk ∈ level.closers

/-- Whether a fragment is read as a condition at a level, whatever ends the level after
it. -/
def ReadsAs (level : Level) (fragment : Fragment) (condition : Condition) : Prop :=
  ∀ fuel rest, 3 * fragment.length + level.rank ≤ fuel → level.EndsBefore rest →
    level.read? fuel (fragment ++ rest) = some (condition, rest)

variable {fragment first second : Fragment} {condition left right : Condition}

theorem endsBefore_cons {level : Level} {chunk : Chunk} {rest : Fragment}
    (hchunk : chunk ∈ level.closers) : level.EndsBefore (chunk :: rest) := by
  simpa [Level.EndsBefore] using hchunk

theorem endsBefore_nil (level : Level) : level.EndsBefore [] := by
  simp [Level.EndsBefore]

/-- What ends a level ends the levels below. -/
theorem endsBefore_of_rank_le {level above : Level} {rest : Fragment}
    (hrank : level.rank ≤ above.rank) (hrest : above.EndsBefore rest) : level.EndsBefore rest := by
  have hclosers : above.closers ⊆ level.closers := by
    cases level <;> cases above <;>
      first
      | exact absurd hrank (by decide)
      | simp [Level.closers]
  exact fun chunk hchunk => hclosers (hrest chunk hchunk)

/-! ## From level to level -/

/-- A factor is a conjunction. -/
theorem ReadsAs.toConjunction (hfragment : ReadsAs .factor fragment condition) :
    ReadsAs .conjunction fragment condition := by
  intro fuel rest hfuel hrest
  obtain ⟨fuel, rfl⟩ : ∃ n, fuel = n + 1 := ⟨fuel - 1, by simp [Level.rank] at hfuel; omega⟩
  have hfactor := hfragment fuel rest (by simp [Level.rank] at hfuel ⊢; omega)
    (endsBefore_of_rank_le (by decide) hrest)
  simp only [Level.read?] at hfactor ⊢
  rw [conjunction?, hfactor]
  -- No `AND` follows, so the conjunction ends with this factor.
  cases rest with
  | nil => rfl
  | cons chunk rest =>
      have hcloser := hrest chunk rfl
      simp only [Level.closers, List.mem_cons, List.not_mem_nil, or_false] at hcloser
      rcases hcloser with rfl | rfl <;> rfl

/-- A conjunction is a disjunction. -/
theorem ReadsAs.toDisjunction (hfragment : ReadsAs .conjunction fragment condition) :
    ReadsAs .disjunction fragment condition := by
  intro fuel rest hfuel hrest
  obtain ⟨fuel, rfl⟩ : ∃ n, fuel = n + 1 := ⟨fuel - 1, by simp [Level.rank] at hfuel; omega⟩
  have hconjunction := hfragment fuel rest (by simp [Level.rank] at hfuel ⊢; omega)
    (endsBefore_of_rank_le (by decide) hrest)
  simp only [Level.read?] at hconjunction ⊢
  rw [disjunction?, hconjunction]
  -- No `OR` follows either.
  cases rest with
  | nil => rfl
  | cons chunk rest =>
      obtain rfl : chunk = .token .closeParen := by simpa [Level.closers] using hrest chunk rfl
      rfl

theorem ReadsAs.alone (hfragment : ReadsAs .factor fragment condition) :
    ReadsAs .disjunction fragment condition :=
  hfragment.toConjunction.toDisjunction

/-- A whole condition in parentheses is a factor. -/
theorem ReadsAs.parenthesized (hfragment : ReadsAs .disjunction fragment condition) :
    ReadsAs .factor fragment.parenthesized condition := by
  intro fuel rest hfuel hrest
  simp only [Fragment.parenthesized, List.length_cons, List.length_append, List.length_nil,
    Level.rank] at hfuel
  obtain ⟨fuel, rfl⟩ : ∃ n, fuel = n + 1 := ⟨fuel - 1, by omega⟩
  have hinner := hfragment fuel (.token .closeParen :: rest) (by simp [Level.rank]; omega)
    (endsBefore_cons (by simp [Level.closers]))
  simp only [Level.read?] at hinner ⊢
  rw [Fragment.parenthesized, List.cons_append, List.append_assoc, List.singleton_append, factor?,
    hinner]
  rfl

/-- The negation of a factor is a factor. -/
theorem ReadsAs.not (hfragment : ReadsAs .factor fragment condition) :
    ReadsAs .factor (Fragment.word .not ++ fragment) (.not condition) := by
  intro fuel rest hfuel hrest
  simp only [Fragment.word, List.singleton_append, List.length_cons, Level.rank] at hfuel
  obtain ⟨fuel, rfl⟩ : ∃ n, fuel = n + 1 := ⟨fuel - 1, by omega⟩
  have hinner := hfragment fuel rest (by simp [Level.rank]; omega) hrest
  simp only [Level.read?] at hinner ⊢
  rw [Fragment.word, List.singleton_append, List.cons_append, factor?, hinner]
  rfl

/-- A factor and a conjunction are a conjunction. -/
theorem ReadsAs.and (hfirst : ReadsAs .factor first left)
    (hsecond : ReadsAs .conjunction second right) :
    ReadsAs .conjunction (first ++ .token (.word .and) :: second) (.and left right) := by
  intro fuel rest hfuel hrest
  simp only [List.length_append, List.length_cons, Level.rank] at hfuel
  obtain ⟨fuel, rfl⟩ : ∃ n, fuel = n + 1 := ⟨fuel - 1, by omega⟩
  have hleft := hfirst fuel (.token (.word .and) :: (second ++ rest)) (by simp [Level.rank]; omega)
    (endsBefore_cons (by simp [Level.closers]))
  have hright := hsecond fuel rest (by simp [Level.rank]; omega) hrest
  simp only [Level.read?] at hleft hright ⊢
  rw [List.append_assoc, List.cons_append, conjunction?, hleft]
  simp [hright]

/-- A conjunction and a disjunction are a disjunction. -/
theorem ReadsAs.or (hfirst : ReadsAs .conjunction first left)
    (hsecond : ReadsAs .disjunction second right) :
    ReadsAs .disjunction (first ++ .token (.word .or) :: second) (.or left right) := by
  intro fuel rest hfuel hrest
  simp only [List.length_append, List.length_cons, Level.rank] at hfuel
  obtain ⟨fuel, rfl⟩ : ∃ n, fuel = n + 1 := ⟨fuel - 1, by omega⟩
  have hleft := hfirst fuel (.token (.word .or) :: (second ++ rest)) (by simp [Level.rank]; omega)
    (endsBefore_cons (by simp [Level.closers]))
  have hright := hsecond fuel rest (by simp [Level.rank]; omega) hrest
  simp only [Level.read?] at hleft hright ⊢
  rw [List.append_assoc, List.cons_append, disjunction?, hleft]
  simp [hright]

end Condition

end ListQuery.Sql
