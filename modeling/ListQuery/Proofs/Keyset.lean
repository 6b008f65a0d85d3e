import ListQuery.Keyset
import ListQuery.Proofs.Sql.Fragment

/-!
# The parts of a keyset condition

The condition that a row comes after given values is a disjunction of branches, and a
branch is a conjunction of tests of single entries.  `strictlyAfter_closed` goes
through these layers once, and `strictlyAfter_of_closed` is the case of a property
that tests, branches and the whole condition share.
-/

namespace ListQuery.Sql.Order

/-! ## Tests of an entry -/

/-- The sign between an entry and a value that it lies beyond. -/
def beyondSign (order : Order) : Comparison :=
  match order.direction with
  | .ascending => .gt
  | .descending => .lt

/-- The test whether an entry has no value. -/
def isNull (order : Order) : Fragment :=
  order.expression ++ Fragment.word .is ++ Fragment.word .null

/-- The test whether an entry has a value. -/
def isNotNull (order : Order) : Fragment :=
  order.expression ++ Fragment.word .is ++ Fragment.word .not ++ Fragment.word .null

/-- The test whether an entry lies beyond a value in its direction. -/
def exceeds (order : Order) (value : Scalar) : Fragment :=
  order.expression ++ Fragment.comparison order.beyondSign ++ Fragment.parameter value order.cast

/-- The test whether an entry is not distinct from a value. -/
def matchesValue (order : Order) (value : Scalar) : Fragment :=
  order.expression ++ Fragment.word .is ++ Fragment.word .not ++ Fragment.word .distinct
    ++ Fragment.word .fromWord ++ Fragment.parameter value order.cast

/-- Beyond a null lies every value if nulls come first, and nothing otherwise.  Beyond a
value lie the nulls as well, unless they come first. -/
theorem beyond?_eq (order : Order) (value : Scalar) :
    order.beyond? value =
      if value.isNull then if order.nullsFirst then some order.isNotNull else none
      else if order.nullsFirst then some (order.exceeds value)
      else some (Fragment.parenthesized
        (order.exceeds value ++ Fragment.word .or ++ order.isNull)) := by
  unfold beyond? exceeds beyondSign isNull isNotNull
  cases order.direction <;> simp

theorem agrees_eq (order : Order) (value : Scalar) :
    order.agrees value = if value.isNull then order.isNull else order.matchesValue value :=
  rfl

/-- The tests of an entry that a keyset condition is made of; a value is tested for only if it
is not null. -/
inductive Test (order : Order) : Fragment → Prop
  | isNull : Test order order.isNull
  | isNotNull : Test order order.isNotNull
  | matchesValue (value : Scalar) (hvalue : value.isNull = false) :
      Test order (order.matchesValue value)
  | exceeds (value : Scalar) (hvalue : value.isNull = false) : Test order (order.exceeds value)
  | exceedsOrNull (value : Scalar) (hvalue : value.isNull = false) :
      Test order (Fragment.parenthesized
        (order.exceeds value ++ Fragment.word .or ++ order.isNull))

variable {order : Order}

theorem test_agrees (value : Scalar) : order.Test (order.agrees value) := by
  rw [agrees_eq]
  split
  next => exact .isNull
  next hvalue => exact .matchesValue value (Bool.not_eq_true _ ▸ hvalue)

theorem test_of_beyond? {value : Scalar} {beyond : Fragment}
    (hbeyond : order.beyond? value = some beyond) : order.Test beyond := by
  rw [beyond?_eq] at hbeyond
  cases hvalue : value.isNull with
  | true =>
      rw [if_pos hvalue] at hbeyond
      split at hbeyond <;> cases hbeyond
      exact .isNotNull
  | false =>
      rw [if_neg (by simp [hvalue])] at hbeyond
      split at hbeyond <;> cases hbeyond
      · exact .exceeds value hvalue
      · exact .exceedsOrNull value hvalue

/-! ## Branches and their disjunction -/

/-- A branch is a conjunction of tests, those that were agreed on before among them. -/
theorem branches_cases {entries : List (Order × Scalar)} {agreed : List Fragment} :
    ∀ branch ∈ branches agreed entries, ∃ tests, tests ≠ [] ∧
      branch = Fragment.join (.word .and) tests ∧
      ∀ test ∈ tests, test ∈ agreed ∨ ∃ entry ∈ entries, entry.1.Test test := by
  induction entries generalizing agreed with
  | nil => simp [branches]
  | cons entry rest ih =>
      obtain ⟨order, value⟩ := entry
      -- The branches of later entries have also agreed on this one.
      have hlater : ∀ branch ∈ branches (agreed ++ [order.agrees value]) rest,
          ∃ tests, tests ≠ [] ∧ branch = Fragment.join (.word .and) tests ∧
            ∀ test ∈ tests, test ∈ agreed ∨ ∃ entry ∈ (order, value) :: rest,
              entry.1.Test test := by
        intro branch hbranch
        obtain ⟨tests, hsome, hjoin, htests⟩ := ih branch hbranch
        refine ⟨tests, hsome, hjoin, fun test htest => ?_⟩
        rcases htests test htest with hagreed | ⟨entry, hentry, hform⟩
        · rcases List.mem_append.mp hagreed with hagreed | hagreed
          · exact Or.inl hagreed
          · obtain rfl := List.mem_singleton.mp hagreed
            exact Or.inr ⟨(order, value), List.mem_cons_self, test_agrees value⟩
        · exact Or.inr ⟨entry, List.mem_cons_of_mem _ hentry, hform⟩
      rw [branches]
      -- An entry beyond whose value nothing lies has no branch of its own.
      cases hbeyond : order.beyond? value with
      | none => exact hlater
      | some beyond =>
          refine List.forall_mem_cons.mpr ⟨?_, hlater⟩
          refine ⟨agreed ++ [beyond], by simp, rfl, fun test htest => ?_⟩
          rcases List.mem_append.mp htest with hagreed | hlast
          · exact Or.inl hagreed
          · obtain rfl := List.mem_singleton.mp hlast
            exact Or.inr ⟨(order, value), List.mem_cons_self, test_of_beyond? hbeyond⟩

/-- What holds of conjunctions of the tests and then of disjunctions of those holds of
the condition to come after given values. -/
theorem strictlyAfter_closed {test branch whole : Fragment → Prop} {ordering : List Order}
    {values : List Scalar} (hfalse : whole (Fragment.word .false))
    (htest : ∀ order ∈ ordering, ∀ part, order.Test part → test part)
    (hand : ∀ tests, tests ≠ [] → (∀ part ∈ tests, test part) →
      branch (Fragment.join (.word .and) tests))
    (hsingle : ∀ part, branch part → whole part)
    (hor : ∀ branches, branches ≠ [] → (∀ part ∈ branches, branch part) →
      whole (Fragment.join (.word .or) (branches.map Fragment.parenthesized))) :
    whole (strictlyAfter ordering values) := by
  have hbranches : ∀ part ∈ branches [] (ordering.zip values), branch part := by
    intro part hpart
    obtain ⟨tests, hsome, rfl, htests⟩ := branches_cases part hpart
    refine hand tests hsome fun part hmem => ?_
    rcases htests part hmem with hnone | ⟨⟨order, value⟩, hentry, hform⟩
    · simp at hnone
    · exact htest order (List.of_mem_zip hentry).1 part hform
  -- A single branch stands by itself, and several are put in parentheses.
  unfold strictlyAfter
  cases hall : branches [] (ordering.zip values) with
  | nil => exact hfalse
  | cons first rest =>
      rw [hall] at hbranches
      cases rest with
      | nil => exact hsingle first (hbranches first List.mem_cons_self)
      | cons second others => exact hor (first :: second :: others) (by simp) hbranches

/-- What holds of the tests and is preserved by conjunction and disjunction holds of the
condition to come after given values. -/
theorem strictlyAfter_of_closed (holds : Fragment → Prop) {ordering : List Order}
    {values : List Scalar} (hfalse : holds (Fragment.word .false))
    (htest : ∀ order ∈ ordering, ∀ test, order.Test test → holds test)
    (hand : ∀ tests, tests ≠ [] → (∀ test ∈ tests, holds test) →
      holds (Fragment.join (.word .and) tests))
    (hor : ∀ branches, branches ≠ [] → (∀ branch ∈ branches, holds branch) →
      holds (Fragment.join (.word .or) (branches.map Fragment.parenthesized))) :
    holds (strictlyAfter ordering values) :=
  strictlyAfter_closed hfalse htest hand (fun _ hpart => hpart) hor

/-- The condition to come after given values is never the empty one. -/
theorem strictlyAfter_ne_nil (ordering : List Order) (values : List Scalar) :
    strictlyAfter ordering values ≠ [] := by
  refine strictlyAfter_of_closed (· ≠ []) (by simp [Fragment.word]) ?_ ?_ ?_
  · rintro order - test hform
    cases hform <;>
      simp [isNull, isNotNull, matchesValue, exceeds, Fragment.word, Fragment.parameter,
        Fragment.parenthesized]
  · intro tests hsome htests
    obtain ⟨first, rest, rfl⟩ := List.exists_cons_of_ne_nil hsome
    cases rest <;> simp [htests]
  · rintro branches hsome -
    obtain ⟨first, rest, rfl⟩ := List.exists_cons_of_ne_nil hsome
    cases rest <;> simp [Fragment.parenthesized]

end ListQuery.Sql.Order
