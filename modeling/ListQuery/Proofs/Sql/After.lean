import ListQuery.Proofs.Sql.Answer
import Mathlib.Data.Int.Order.Basic

/-!
# A keyset condition selects the rows beyond its values

For an ordering by columns, the condition to come strictly after given values is true
of a row exactly if the values of the row come after the given ones in the order that a
database sorts by, nulls placed as it places them.

The proof follows the recursion of `Order.branches`: a branch holds if everything that
was agreed on before holds and the row lies beyond the value of the branch's own entry,
so that together the branches spell out a lexicographic comparison.
-/

namespace ListQuery.Sql

open Condition

namespace Order

/-- Whether an entry is by a column. -/
def IsColumn (order : Order) : Prop :=
  ∃ table name, order.expression = Fragment.column table name

variable {order : Order} {ordering : List Order}

theorem isPlain_of_isColumn (horder : order.IsColumn) : order.expression.IsPlain := by
  obtain ⟨table, name, hexpression⟩ := horder
  simp [hexpression]

/-- The column of an entry, as a term. -/
theorem IsColumn.exists_term (horder : order.IsColumn) :
    ∃ table name, order.expression = Fragment.column table name ∧
      TermReads order.expression (.column table name none) := by
  obtain ⟨table, name, hexpression⟩ := horder
  exact ⟨table, name, hexpression, hexpression ▸ termReads_plainColumn table name⟩

/-! ## Keyset conditions can be read -/

private theorem or_eq_join (first second : Fragment) :
    first ++ Fragment.word .or ++ second = Fragment.join (.word .or) [first, second] := by
  simp [Fragment.word]

private theorem readable_exceeds (horder : order.IsColumn) (value : Scalar) :
    Readable .factor (order.exceeds value) := by
  obtain ⟨table, name, -, hterm⟩ := horder.exists_term
  exact ⟨by simp [exceeds, isPlain_of_isColumn horder], _,
    readsAs_compare order.beyondSign hterm (termReads_parameter value order.cast)⟩

private theorem readable_isNull (horder : order.IsColumn) : Readable .factor order.isNull := by
  obtain ⟨table, name, -, hterm⟩ := horder.exists_term
  exact ⟨by simp [isNull, isPlain_of_isColumn horder], _, readsAs_isNull hterm⟩

private theorem readable_exceedsOrNull (horder : order.IsColumn) (value : Scalar) :
    Readable .disjunction (Fragment.join (.word .or) [order.exceeds value, order.isNull]) := by
  refine Readable.join_or (fun part hpart => ?_) (by simp)
  rcases List.mem_pair.mp hpart with rfl | rfl
  · exact (readable_exceeds horder value).toConjunction
  · exact (readable_isNull horder).toConjunction

theorem readable_test (horder : order.IsColumn) {test : Fragment} (htest : order.Test test) :
    Readable .factor test := by
  have hplain := isPlain_of_isColumn horder
  obtain ⟨table, name, -, hterm⟩ := horder.exists_term
  cases htest with
  | isNull => exact readable_isNull horder
  | isNotNull => exact ⟨by simp [isNotNull, hplain], _, readsAs_isNotNull hterm⟩
  | matchesValue value =>
      exact ⟨by simp [matchesValue, hplain], _,
        readsAs_isNotDistinct hterm (termReads_parameter value order.cast)⟩
  | exceeds value => exact readable_exceeds horder value
  | exceedsOrNull value =>
      rw [or_eq_join]
      exact (readable_exceedsOrNull horder value).parenthesized

/-- The condition to come after given values can be read. -/
theorem readable_strictlyAfter {values : List Scalar}
    (hordering : ∀ order ∈ ordering, order.IsColumn) :
    Readable .disjunction (strictlyAfter ordering values) := by
  have hfalse : Readable .disjunction (Fragment.word .false) :=
    ⟨Fragment.isPlain_word .false, _,
      (readsAs_term termReads_false (by simp [Fragment.word])).alone⟩
  have htest : ∀ order ∈ ordering, ∀ test, order.Test test → Readable .factor test :=
    fun order horder test => readable_test (hordering order horder)
  have hand : ∀ tests, tests ≠ [] → (∀ test ∈ tests, Readable .factor test) →
      Readable .conjunction (Fragment.join (.word .and) tests) :=
    fun tests hsome htests => Readable.join_and htests hsome
  refine strictlyAfter_closed hfalse htest hand (fun part hpart => hpart.toDisjunction) ?_
  intro branches hsome hbranches
  refine Readable.join_or (List.forall_mem_map.mpr fun branch hbranch => ?_) (by simpa using hsome)
  exact (hbranches branch hbranch).toDisjunction.parenthesized.toConjunction

end Order

/-! ## Tests of a row -/

namespace Database

open Sql.Order

variable {V : Type} [LinearOrder V] {database : Database V} {record : Record V}
variable {order : Order} {value : Scalar}

/-- What a value of a cursor stands for in an entry: nothing if it is null. -/
def meaning (database : Database V) (order : Order) (value : Scalar) : Option V :=
  if value.isNull then none else database.bound value order.cast

/-- Whether a value of a cursor stands for something in an entry, unless it is null. -/
def Means (database : Database V) (order : Order) (value : Scalar) : Prop :=
  value.isNull = false → (database.bound value order.cast).isSome

omit [LinearOrder V] in
@[simp] theorem value_column (table name : String) :
    database.value record (Fragment.column table name) = record table name :=
  rfl

omit [LinearOrder V] in
private theorem term_eq_value {table name : String}
    (hexpression : order.expression = Fragment.column table name) :
    database.term record (.column table name none) = database.value record order.expression := by
  rw [hexpression]
  rfl

theorem satisfies_isNull (horder : order.IsColumn) :
    database.satisfies record order.isNull = true ↔
      database.value record order.expression = none := by
  have hplain := isPlain_of_isColumn horder
  obtain ⟨table, name, hexpression, hterm⟩ := horder.exists_term
  rw [Order.isNull, satisfies_iff (by simp [hplain])
    (readsAs_isNull hterm).alone, truth, term_eq_value hexpression]
  simp

theorem satisfies_isNotNull (horder : order.IsColumn) :
    database.satisfies record order.isNotNull = true ↔
      database.value record order.expression ≠ none := by
  have hplain := isPlain_of_isColumn horder
  obtain ⟨table, name, hexpression, hterm⟩ := horder.exists_term
  rw [Order.isNotNull, satisfies_iff (by simp [hplain])
    (readsAs_isNotNull hterm).alone, truth, truth,
    term_eq_value hexpression]
  simp [Option.isSome_iff_ne_none]

theorem satisfies_matchesValue (horder : order.IsColumn) :
    database.satisfies record (order.matchesValue value) = true ↔
      database.value record order.expression = database.bound value order.cast := by
  have hplain := isPlain_of_isColumn horder
  obtain ⟨table, name, hexpression, hterm⟩ := horder.exists_term
  rw [Order.matchesValue, satisfies_iff (by simp [hplain]) (readsAs_isNotDistinct hterm
    (termReads_parameter value order.cast)).alone, truth, truth,
    term_eq_value hexpression, term]
  simp

theorem satisfies_exceeds (horder : order.IsColumn) :
    database.satisfies record (order.exceeds value) = true ↔
      order.beyondSign.truth (database.value record order.expression)
        (database.bound value order.cast) = .true := by
  have hplain := isPlain_of_isColumn horder
  obtain ⟨table, name, hexpression, hterm⟩ := horder.exists_term
  rw [Order.exceeds, satisfies_iff (by simp [hplain]) (readsAs_compare order.beyondSign hterm
    (termReads_parameter value order.cast)).alone, truth,
    term_eq_value hexpression, term]

theorem satisfies_exceedsOrNull (horder : order.IsColumn) :
    database.satisfies record (Fragment.parenthesized
        (order.exceeds value ++ Fragment.word .or ++ order.isNull)) = true ↔
      order.beyondSign.truth (database.value record order.expression)
        (database.bound value order.cast) = .true ∨
      database.value record order.expression = none := by
  rw [or_eq_join, satisfies_parenthesized (readable_exceedsOrNull horder value),
    satisfies_join_or (fun part hpart => ?_) (by simp)]
  · simp [satisfies_exceeds horder, satisfies_isNull horder]
  · rcases List.mem_pair.mp hpart with rfl | rfl
    · exact (readable_exceeds horder value).toConjunction
    · exact (readable_isNull horder).toConjunction

/-! ## A single entry -/

/-- How a row lies to a value in an entry. -/
def place (database : Database V) (record : Record V) (order : Order) (value : Scalar) : Ordering :=
  (Sorting.ofOrder order).compareValues (database.value record order.expression)
    (database.meaning order value)

/-- A row agrees with a value if both take the same place. -/
theorem satisfies_agrees (horder : order.IsColumn) :
    database.satisfies record (order.agrees value) = true ↔
      database.place record order value = .eq := by
  rw [agrees_eq, place, Sorting.compareValues_eq_eq, meaning]
  split
  · exact satisfies_isNull horder
  · exact satisfies_matchesValue horder

private theorem truth_beyondSign_iff {found bound : V} :
    order.beyondSign.truth (some found) (some bound) = .true ↔
      (Sorting.ofOrder order).compareValues (some found) (some bound) = .gt := by
  obtain ⟨field, expression, direction, nulls, cast⟩ := order
  cases direction with
  | ascending =>
      simp [beyondSign, Comparison.truth, Comparison.holds, Sorting.ofOrder, Sorting.compareValues]
  | descending =>
      have hswap : compare bound found = .gt ↔ compare found bound = .lt :=
        Std.OrientedCmp.gt_iff_lt
      simp [beyondSign, Comparison.truth, Comparison.holds, Sorting.ofOrder, Sorting.compareValues,
        hswap]

/-- A row satisfies the test to lie beyond a value if it does, and without such a test
no row does. -/
theorem satisfies_beyond? (horder : order.IsColumn) (hmeans : database.Means order value) :
    (∃ beyond, order.beyond? value = some beyond ∧ database.satisfies record beyond = true) ↔
      database.place record order value = .gt := by
  rw [beyond?_eq, place, meaning]
  -- Nulls lie before all values or beyond them, as the entry says.
  by_cases hnull : value.isNull = true
  · rw [if_pos hnull, if_pos hnull]
    cases hfirst : order.nullsFirst with
    | true =>
        simp only [if_true, Option.some.injEq, exists_eq_left', satisfies_isNotNull horder]
        cases database.value record order.expression <;>
          simp [Sorting.compareValues, Sorting.ofOrder, hfirst]
    | false =>
        cases database.value record order.expression <;>
          simp [Sorting.compareValues, Sorting.ofOrder, hfirst]
  · rw [if_neg hnull, if_neg hnull]
    obtain ⟨bound, hbound⟩ := Option.isSome_iff_exists.mp (hmeans (by simpa using hnull))
    rw [hbound]
    cases hfirst : order.nullsFirst with
    | true =>
        simp only [if_true, Option.some.injEq, exists_eq_left', satisfies_exceeds horder, hbound]
        cases database.value record order.expression with
        | none => simp [Comparison.truth, Sorting.compareValues, Sorting.ofOrder, hfirst]
        | some found => exact truth_beyondSign_iff
    | false =>
        simp only [Bool.false_eq_true, if_false, Option.some.injEq, exists_eq_left',
          satisfies_exceedsOrNull horder, hbound]
        cases database.value record order.expression with
        | none => simp [Sorting.compareValues, Sorting.ofOrder, hfirst]
        | some found => simp [truth_beyondSign_iff]

/-! ## All entries -/

/-- The branch of an entry is satisfied by the rows that agree before it and lie beyond its
value; the later branches ask for agreement in this entry as well. -/
private theorem exists_branch_cons {rest : List (Order × Scalar)} {agreed : List Fragment}
    (hcolumn : order.IsColumn) (hmeans : database.Means order value)
    (hagreed : ∀ test ∈ agreed, Readable .factor test) :
    (∃ branch ∈ branches agreed ((order, value) :: rest),
        database.satisfies record branch = true) ↔
      ((∀ test ∈ agreed, database.satisfies record test = true) ∧
        database.place record order value = .gt) ∨
      ∃ branch ∈ branches (agreed ++ [order.agrees value]) rest,
        database.satisfies record branch = true := by
  have hbeyond : _ ↔ database.place record order value = .gt := satisfies_beyond? hcolumn hmeans
  rw [branches, ← hbeyond]
  cases hfound : order.beyond? value with
  | none => simp
  | some beyond =>
      have hparts : ∀ test ∈ agreed ++ [beyond], Readable .factor test :=
        List.forall_mem_append.mpr ⟨hagreed,
          List.forall_mem_singleton.mpr (readable_test hcolumn (test_of_beyond? hfound))⟩
      have hbranch : database.satisfies record
            (Fragment.join (.word .and) (agreed ++ [beyond])) = true ↔
          (∀ test ∈ agreed, database.satisfies record test = true) ∧
            database.satisfies record beyond = true := by
        rw [satisfies_join_and hparts (by simp), List.forall_mem_append,
          List.forall_mem_singleton]
      simp [hbranch]

/-- A row satisfies one of the branches if it satisfies all that was agreed on before
and comes after the values of the entries. -/
theorem satisfies_branches {entries : List (Order × Scalar)} {agreed : List Fragment}
    (hcolumns : ∀ entry ∈ entries, entry.1.IsColumn)
    (hmeans : ∀ entry ∈ entries, database.Means entry.1 entry.2)
    (hagreed : ∀ test ∈ agreed, Readable .factor test) :
    (∃ branch ∈ branches agreed entries, database.satisfies record branch = true) ↔
      (∀ test ∈ agreed, database.satisfies record test = true) ∧
      (entries.map fun entry => database.place record entry.1 entry.2).foldr Ordering.then .eq =
        .gt := by
  induction entries generalizing agreed with
  | nil => simp [branches]
  | cons entry rest ih =>
      obtain ⟨order, value⟩ := entry
      obtain ⟨hcolumn, hcolumns⟩ := List.forall_mem_cons.mp hcolumns
      obtain ⟨hmean, hmeans⟩ := List.forall_mem_cons.mp hmeans
      have hextended : ∀ test ∈ agreed ++ [order.agrees value], Readable .factor test :=
        List.forall_mem_append.mpr ⟨hagreed,
          List.forall_mem_singleton.mpr (readable_test hcolumn (test_agrees value))⟩
      have hagrees : database.satisfies record (order.agrees value) = true ↔
          database.place record order value = .eq := satisfies_agrees hcolumn
      -- The row lies beyond this value, or it agrees and lies beyond a later one.
      rw [exists_branch_cons hcolumn hmean hagreed, ih hcolumns hmeans hextended, List.map_cons,
        List.foldr_cons, Ordering.then_eq_gt, List.forall_mem_append, List.forall_mem_singleton,
        hagrees, and_assoc, ← and_or_left]

private theorem satisfies_false :
    database.satisfies record (Fragment.word .false) = false := by
  have hread : Condition.read? (Fragment.word .false) = some (.term (.literal false)) := by
    decide
  simp [satisfies, hread, truth, term, Comparison.truth, Comparison.holds, database.literal_ne]

/-- A disjunction of branches is true of a row where one of them is. -/
theorem satisfies_anyOf {parts : List Fragment}
    (hparts : ∀ part ∈ parts, Readable .disjunction part) :
    database.satisfies record (anyOf parts) = true ↔
      ∃ part ∈ parts, database.satisfies record part = true := by
  match parts with
  | [] => simp [anyOf, satisfies_false]
  | [part] => simp [anyOf]
  | first :: second :: rest => exact satisfies_join_parenthesized hparts (by simp)

/-- Tuples are compared place by place. -/
theorem compareTuples_eq_foldr {ordering : List Order} {values : List Scalar}
    (hlength : values.length = ordering.length) :
    Sorting.compareTuples (ordering.map Sorting.ofOrder)
        (database.tuple (ordering.map Sorting.ofOrder) record)
        (List.zipWith database.meaning ordering values) =
      ((ordering.zip values).map fun entry => database.place record entry.1 entry.2).foldr
        Ordering.then .eq := by
  induction ordering generalizing values with
  | nil => cases values <;> rfl
  | cons order rest ih =>
      cases values with
      | nil => cases hlength
      | cons value values =>
          have hrest := ih (by simpa using hlength)
          simp only [List.map_cons, tuple, List.zipWith_cons_cons, Sorting.compareTuples,
            List.zip_cons_cons, List.foldr_cons] at hrest ⊢
          rw [hrest]
          rfl

/-- A row satisfies the condition to come after given values exactly if it comes after
them. -/
theorem satisfies_strictlyAfter {ordering : List Order} {values : List Scalar}
    (hcolumns : ∀ order ∈ ordering, order.IsColumn) (hlength : values.length = ordering.length)
    (hmeans : ∀ entry ∈ ordering.zip values, database.Means entry.1 entry.2) :
    database.satisfies record (strictlyAfter ordering values) = true ↔
      Sorting.compareTuples (ordering.map Sorting.ofOrder)
        (database.tuple (ordering.map Sorting.ofOrder) record)
        (List.zipWith database.meaning ordering values) = .gt := by
  have hentries : ∀ entry ∈ ordering.zip values, entry.1.IsColumn :=
    fun entry hentry => hcolumns entry.1 (List.of_mem_zip hentry).1
  have hreadable : ∀ branch ∈ branches [] (ordering.zip values), Readable .disjunction branch := by
    intro branch hbranch
    obtain ⟨tests, hsome, rfl, htests⟩ := branches_cases branch hbranch
    refine (Readable.join_and (fun test htest => ?_) hsome).toDisjunction
    rcases htests test htest with hnone | ⟨entry, hentry, hform⟩
    · simp at hnone
    · exact readable_test (hentries entry hentry) hform
  rw [strictlyAfter, satisfies_anyOf hreadable,
    satisfies_branches hentries hmeans (by simp), compareTuples_eq_foldr hlength]
  simp

/-- A tuple does not come after itself. -/
theorem compareTuples_self (sortings : List Sorting) (values : List (Option V)) :
    Sorting.compareTuples sortings values values = .eq := by
  induction sortings generalizing values with
  | nil => cases values <;> rfl
  | cons sorting rest ih =>
      cases values with
      | nil => rfl
      | cons value values =>
          rw [Sorting.compareTuples, ih, Sorting.compareValues_eq_eq.mpr rfl]
          rfl

/-- The condition to come after given values is read as one that is true of a row exactly if
the tuple of the row comes after that of the values.  Of an equal tuple it is never true, and
without entries it is false. -/
theorem exists_truth_strictlyAfter {ordering : List Order} {values : List Scalar}
    (hcolumns : ∀ order ∈ ordering, order.IsColumn) (hlength : values.length = ordering.length)
    (hmeans : ∀ entry ∈ ordering.zip values, database.Means entry.1 entry.2) :
    ∃ condition, Condition.read? (strictlyAfter ordering values) = some condition ∧
      (∀ record, database.truth record condition = .true ↔
        Sorting.compareTuples (ordering.map Sorting.ofOrder)
          (database.tuple (ordering.map Sorting.ofOrder) record)
          (List.zipWith database.meaning ordering values) = .gt) ∧
      (∀ record,
        database.tuple (ordering.map Sorting.ofOrder) record =
          List.zipWith database.meaning ordering values →
        database.truth record condition ≠ .true) ∧
      (ordering = [] → ∀ record, database.truth record condition = .false) := by
  have hreadable : Readable .disjunction (strictlyAfter ordering values) :=
    readable_strictlyAfter hcolumns
  obtain ⟨condition, hread⟩ := Option.isSome_iff_exists.mp hreadable.isSome_read?
  have htruth : ∀ record, database.truth record condition = .true ↔
      Sorting.compareTuples (ordering.map Sorting.ofOrder)
        (database.tuple (ordering.map Sorting.ofOrder) record)
        (List.zipWith database.meaning ordering values) = .gt := by
    intro record
    rw [← satisfies_strictlyAfter hcolumns hlength hmeans]
    simp [satisfies, hread]
  refine ⟨condition, hread, htruth, fun record hequal => ?_, fun hempty record => ?_⟩
  · rw [Ne, htruth, hequal, compareTuples_self]
    decide
  · subst hempty
    have hliteral : Condition.read? (strictlyAfter [] values) =
        some (.term (.literal false)) := by
      rw [strictlyAfter, List.zip_nil_left]
      decide
    obtain rfl := Option.some.inj (hread.symm.trans hliteral)
    have hunequal : Comparison.eq.holds (database.literal false) (database.literal true) = false := by
      simp [Comparison.holds, database.literal_ne]
    rw [truth, term, Comparison.truth, hunequal]
    rfl

/-! ## A sample -/

/-- A database of integers, in which only whole numbers can be bound. -/
def numbers : Database Int where
  rows _ _ := []
  literal known := if known then 1 else 0
  literal_ne := by decide
  bound
    | .int value, _ => some value.toInt
    | .null, _ | .bool _, _ | .float _, _ | .text _, _ => none
  convert _ value := some value
  matchesPattern value pattern := value = pattern
  compute _ _ := none
  output _ := .null

/-- The greatest price first, and among equal prices rows without a number first. -/
def byPrice : List Order :=
  [⟨"price", Fragment.column "root" "price", .descending, none, none⟩,
    ⟨"number", Fragment.column "root" "number", .ascending, some .first, none⟩]

/-- After the price of five without a number come the rows with a number and this price, and
those with a lower one. -/
theorem exists_truth_strictlyAfter_byPrice :
    ∃ condition, Condition.read? (strictlyAfter byPrice [.int 5, .null]) = some condition ∧
      ∀ record, numbers.truth record condition = .true ↔
        Sorting.compareTuples (byPrice.map Sorting.ofOrder)
          (numbers.tuple (byPrice.map Sorting.ofOrder) record)
          [some 5, none] = .gt := by
  have hcolumns : ∀ order ∈ byPrice, order.IsColumn :=
    List.forall_mem_cons.mpr ⟨⟨_, _, rfl⟩, List.forall_mem_singleton.mpr ⟨_, _, rfl⟩⟩
  have hmeans : ∀ entry ∈ byPrice.zip [.int 5, .null], numbers.Means entry.1 entry.2 :=
    List.forall_mem_cons.mpr ⟨fun _ => rfl, List.forall_mem_singleton.mpr nofun⟩
  obtain ⟨condition, hread, htruth, -, -⟩ := exists_truth_strictlyAfter hcolumns rfl hmeans
  exact ⟨condition, hread, htruth⟩

end Database

end ListQuery.Sql
