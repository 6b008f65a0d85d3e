import ListQuery.Proofs.Keyset
import ListQuery.Proofs.Predicate
import ListQuery.Proofs.Sql.Condition
import Mathlib.Data.List.Forall2

/-!
# The conditions that statements are made of

Every test that the library writes is read as the condition that it is meant to be, and
conjunctions and disjunctions of them are read as such.  A column, converted or not, and
a bound value are the terms of these tests.
-/

namespace ListQuery.Sql

open Condition

/-! ## Terms -/

/-- Whether a fragment is read as a term, unless a conversion follows. -/
def TermReads (fragment : Fragment) (term : Term) : Prop :=
  ∀ rest : Fragment, (∀ type, rest.head? ≠ some (.cast type)) →
    Term.read? (fragment ++ rest) = some (term, rest)

private theorem castType_castTo {type : Option String} {rest : Fragment}
    (hrest : ∀ type, rest.head? ≠ some (.cast type)) :
    castType (Fragment.castTo type ++ rest) = (type, rest) := by
  cases type with
  | some name => rfl
  | none =>
      cases rest with
      | nil => rfl
      | cons chunk rest =>
          cases chunk with
          | cast type => exact absurd rfl (hrest type)
          | _ => rfl

theorem termReads_column (table name : String) (type : Option String) :
    TermReads (Fragment.column table name ++ Fragment.castTo type) (.column table name type) := by
  intro rest hrest
  simp [Fragment.column, Term.read?, castType_castTo hrest]

theorem termReads_plainColumn (table name : String) :
    TermReads (Fragment.column table name) (.column table name none) := by
  simpa [Fragment.castTo] using termReads_column table name none

theorem termReads_parameter (value : Scalar) (type : Option String) :
    TermReads (Fragment.parameter value type) (.parameter value type) := by
  intro rest hrest
  simp [Fragment.parameter, Term.read?, castType_castTo hrest]

theorem termReads_false : TermReads (Fragment.word .false) (.literal false) :=
  fun _ _ => rfl

/-! ## Tests -/

private theorem factor?_of_term {fuel : Nat} {fragment rest : Fragment} {term : Term}
    (hterm : Term.read? fragment = some (term, rest)) :
    factor? (fuel + 1) fragment = afterTerm? term rest := by
  rw [factor?]
  · simp [hterm]
  · rintro rest' rfl
    cases hterm
  · rintro rest' rfl
    cases hterm

private theorem head_ne_cast {rest : Fragment} (hrest : Level.factor.EndsBefore rest) :
    ∀ type, rest.head? ≠ some (.cast type) := by
  intro type htype
  have hcloser := hrest (.cast type) htype
  simp [Level.closers] at hcloser

/-- A test is a term and what is said about it. -/
private theorem readsAs_of_afterTerm {left tail : Fragment} {term : Term} {condition : Condition}
    (hleft : TermReads left term) (hsome : left ++ tail ≠ [])
    (hcast : ∀ type, tail.head? ≠ some (.cast type))
    (htail : ∀ rest, Level.factor.EndsBefore rest →
      afterTerm? term (tail ++ rest) = some (condition, rest)) :
    ReadsAs .factor (left ++ tail) condition := by
  intro fuel rest hfuel hrest
  have hlength : 0 < (left ++ tail).length := List.length_pos_iff.mpr hsome
  obtain ⟨fuel, rfl⟩ : ∃ n, fuel = n + 1 := ⟨fuel - 1, by omega⟩
  -- A conversion after the term would be read as a part of the term.
  have hnext : ∀ type, (tail ++ rest).head? ≠ some (.cast type) := by
    cases tail with
    | nil => exact head_ne_cast hrest
    | cons chunk tail => exact hcast
  simp only [Level.read?]
  rw [List.append_assoc, factor?_of_term (hleft (tail ++ rest) hnext), htail rest hrest]

section

variable {left right upper : Fragment} {term other bound : Term}

theorem readsAs_term (hleft : TermReads left term) (hsome : left ≠ []) :
    ReadsAs .factor left (.term term) := by
  have hread : ReadsAs .factor (left ++ []) (.term term) := by
    refine readsAs_of_afterTerm hleft (by simpa using hsome) (by simp) fun rest hrest => ?_
    cases rest with
    | nil => rfl
    | cons chunk rest =>
        have hcloser := hrest chunk rfl
        simp only [Level.closers, List.mem_cons, List.not_mem_nil, or_false] at hcloser
        rcases hcloser with rfl | rfl | rfl <;> rfl
  simpa using hread

theorem readsAs_isNull (hleft : TermReads left term) :
    ReadsAs .factor (left ++ Fragment.word .is ++ Fragment.word .null) (.isNull term) := by
  rw [List.append_assoc]
  exact readsAs_of_afterTerm hleft (by simp [Fragment.word]) (by simp [Fragment.word])
    fun rest _ => rfl

theorem readsAs_isNotNull (hleft : TermReads left term) :
    ReadsAs .factor (left ++ Fragment.word .is ++ Fragment.word .not ++ Fragment.word .null)
      (.not (.isNull term)) := by
  simp only [List.append_assoc]
  exact readsAs_of_afterTerm hleft (by simp [Fragment.word]) (by simp [Fragment.word])
    fun rest _ => rfl

private theorem comparison?_of_term {sign : Comparison} {fragment rest : Fragment}
    (hright : Term.read? fragment = some (other, rest)) :
    comparison? sign term fragment = some (.compare sign term other, rest) := by
  rw [comparison?]
  · simp [hright]
  · rintro quantifier rest' rfl
    cases hright

theorem readsAs_compare (sign : Comparison) (hleft : TermReads left term)
    (hright : TermReads right other) :
    ReadsAs .factor (left ++ Fragment.comparison sign ++ right) (.compare sign term other) := by
  rw [List.append_assoc]
  refine readsAs_of_afterTerm hleft (by simp [Fragment.comparison]) (by simp [Fragment.comparison])
    fun rest hrest => ?_
  simp only [Fragment.comparison, List.cons_append, afterTerm?]
  exact comparison?_of_term (hright rest (head_ne_cast hrest))

theorem readsAs_isNotDistinct (hleft : TermReads left term) (hright : TermReads right other) :
    ReadsAs .factor
      (left ++ Fragment.word .is ++ Fragment.word .not ++ Fragment.word .distinct
        ++ Fragment.word .fromWord ++ right)
      (.not (.isDistinct term other)) := by
  simp only [List.append_assoc]
  refine readsAs_of_afterTerm hleft (by simp [Fragment.word]) (by simp [Fragment.word])
    fun rest hrest => ?_
  simp [Fragment.word, afterTerm?, hright rest (head_ne_cast hrest)]

theorem readsAs_between (hleft : TermReads left term) (hright : TermReads right other)
    (hupper : TermReads upper bound) :
    ReadsAs .factor
      (left ++ Fragment.word .between ++ right ++ Fragment.word .and ++ upper)
      (.between term other bound) := by
  simp only [List.append_assoc]
  refine readsAs_of_afterTerm hleft (by simp [Fragment.word]) (by simp [Fragment.word])
    fun rest hrest => ?_
  have hlower := hright (.token (.word .and) :: (upper ++ rest)) (by simp)
  simp [Fragment.word, afterTerm?, hlower, hupper rest (head_ne_cast hrest)]

theorem readsAs_ilike (hleft : TermReads left term) (hright : TermReads right other) :
    ReadsAs .factor (left ++ Fragment.word .ilike ++ right) (.ilike term other) := by
  rw [List.append_assoc]
  refine readsAs_of_afterTerm hleft (by simp [Fragment.word]) (by simp [Fragment.word])
    fun rest hrest => ?_
  simp [Fragment.word, afterTerm?, hright rest (head_ne_cast hrest)]

/-! ## Comparisons with a list -/

private theorem items?_parameters (value : Scalar) (values : List Scalar) (type : Option String)
    (rest : Fragment) :
    Term.items? (Fragment.parameters (value :: values) type ++ .token .closeBracket :: rest) =
      some ((value :: values).map (Term.parameter · type), rest) := by
  induction values generalizing value with
  | nil =>
      cases type <;> simp [Fragment.parameters, Fragment.parameter, Fragment.castTo, Term.items?]
  | cons next values ih =>
      have hnext := ih next
      simp only [Fragment.parameters, List.map_cons, Fragment.join_cons_cons] at hnext ⊢
      cases type <;>
        simp_all [Fragment.parameter, Fragment.castTo, Term.items?]

/-- The comparison with the values of a list that is not empty. -/
theorem readsAs_compareEach (sign : Comparison) (hleft : TermReads left term) (value : Scalar)
    (values : List Scalar) (type : Option String) {quantifier : Callee}
    {build : Comparison → Term → List Term → Condition}
    (hbuild : (quantifier = .any ∧ build = .compareAny) ∨
      (quantifier = .all ∧ build = .compareAll)) :
    ReadsAs .factor
      (left ++ Fragment.comparison sign ++ Fragment.call (.call quantifier)
        (Fragment.word .array ++ Fragment.ofToken .openBracket
          ++ Fragment.parameters (value :: values) type ++ Fragment.ofToken .closeBracket))
      (build sign term ((value :: values).map (Term.parameter · type))) := by
  rw [List.append_assoc]
  refine readsAs_of_afterTerm hleft (by simp [Fragment.comparison]) (by simp [Fragment.comparison])
    fun rest hrest => ?_
  have hitems := items?_parameters value values type (.token .closeParen :: rest)
  rcases hbuild with ⟨rfl, rfl⟩ | ⟨rfl, rfl⟩ <;>
    simp [Fragment.comparison, Fragment.call, Fragment.parenthesized, Fragment.word,
      Fragment.ofToken, afterTerm?, comparison?, hitems]

end

/-! ## Conjunctions and disjunctions -/

theorem readsAs_join_and {parts : List Fragment} {conditions : List Condition}
    (hparts : List.Forall₂ (ReadsAs .factor) parts conditions) (hsome : parts ≠ []) :
    ReadsAs .conjunction (Fragment.join (.word .and) parts) (Condition.all conditions) := by
  induction hparts with
  | nil => exact absurd rfl hsome
  | cons hfirst hrest ih =>
      cases hrest with
      | nil => simpa [Condition.all] using hfirst.toConjunction
      | cons hsecond hothers =>
          rw [Fragment.join_cons_cons]
          exact hfirst.and (ih (by simp))

theorem readsAs_join_or {parts : List Fragment} {conditions : List Condition}
    (hparts : List.Forall₂ (ReadsAs .conjunction) parts conditions) (hsome : parts ≠ []) :
    ReadsAs .disjunction (Fragment.join (.word .or) parts) (Condition.any conditions) := by
  induction hparts with
  | nil => exact absurd rfl hsome
  | cons hfirst hrest ih =>
      cases hrest with
      | nil => simpa [Condition.any] using hfirst.toDisjunction
      | cons hsecond hothers =>
          rw [Fragment.join_cons_cons]
          exact hfirst.or (ih (by simp))

/-! ## Whole conditions -/

/-- A fragment without clauses that is read as a condition at the highest level is one. -/
theorem read?_of_readsAs {fragment : Fragment} {condition : Condition}
    (hplain : fragment.IsPlain) (hreads : ReadsAs .disjunction fragment condition) :
    Condition.read? fragment = some condition := by
  have hread := hreads (3 * fragment.length + 2) [] (Nat.le_refl _) (endsBefore_nil _)
  simp only [List.append_nil, Level.read?] at hread
  simp [Condition.read?, Fragment.expand?_of_isPlain hplain, hread]

end ListQuery.Sql
