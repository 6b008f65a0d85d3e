import ListQuery.Proofs.Sql.Satisfaction
import ListQuery.Proofs.Statement
import Mathlib.Data.List.Pairwise

/-!
# Sorted answers

The ordering that a database reads off a statement is the one that the statement was
given, and reversing every entry of it reverses the order of any two rows.  Rows that
the ordering tells apart have one sorted sequence only, so whatever is known to be
sorted and to have the right rows is the answer.
-/

namespace ListQuery.Sql

open Std

/-! ## Entries as they are read -/

/-- An entry is read off its text the way it was meant. -/
theorem Sorting.read?_orderFragment (order : Order) :
    Sorting.read? (Select.orderFragment order) = some (Sorting.ofOrder order) := by
  obtain ⟨field, expression, direction, nulls, cast⟩ := order
  rcases nulls with _ | (_ | _ | _) <;> cases direction <;>
    simp [Select.orderFragment, Select.nullsFragment, Fragment.word, Sorting.read?,
      Sorting.ofOrder, Order.nullsFirst, nullsComeFirst]

/-! ## Comparisons of values -/

namespace Sorting

variable {V : Type} [LinearOrder V]

instance (sorting : Sorting) : OrientedCmp (sorting.compareValues (V := V)) where
  eq_swap {first second} := by
    cases first <;> cases second <;> simp only [compareValues]
    · rfl
    · split <;> rfl
    · split <;> rfl
    · split
      · exact OrientedCmp.eq_swap
      · exact OrientedCmp.eq_swap

private theorem compareValues_some (sorting : Sorting) (first second : V) :
    sorting.compareValues (some first) (some second) =
      if sorting.descending then compare second first else compare first second :=
  rfl

instance (sorting : Sorting) : TransCmp (sorting.compareValues (V := V)) where
  isLE_trans {first second third} hfirst hsecond := by
    have hvalues : ∀ x y z : V, (sorting.compareValues (some x) (some y)).isLE →
        (sorting.compareValues (some y) (some z)).isLE →
        (sorting.compareValues (some x) (some z)).isLE := by
      intro x y z hxy hyz
      rw [compareValues_some] at hxy hyz ⊢
      by_cases hdescending : sorting.descending = true
      · rw [if_pos hdescending] at hxy hyz ⊢
        exact TransCmp.isLE_trans hyz hxy
      · rw [if_neg hdescending] at hxy hyz ⊢
        exact TransCmp.isLE_trans hxy hyz
    cases first <;> cases second <;> cases third
    case some.some.some x y z => exact hvalues x y z hfirst hsecond
    all_goals
      cases hnulls : sorting.nullsFirst <;> simp_all [compareValues]

/-- Only equal values take the same place. -/
theorem compareValues_eq_eq {sorting : Sorting} {first second : Option V} :
    sorting.compareValues first second = .eq ↔ first = second := by
  cases first <;> cases second <;> simp only [compareValues]
  · split <;> simp
  · split <;> simp
  · split
    · rw [Std.compare_eq_iff_eq, Option.some.injEq, eq_comm]
    · rw [Std.compare_eq_iff_eq, Option.some.injEq]

/-- A reversed entry orders two values the other way round. -/
theorem compareValues_reversed (order : Order) (first second : Option V) :
    (ofOrder order.reversed).compareValues first second =
      (ofOrder order).compareValues second first := by
  obtain ⟨field, expression, direction, nulls, cast⟩ := order
  rcases nulls with _ | (_ | _ | _) <;> cases direction <;> cases first <;> cases second <;>
    simp [ofOrder, Order.reversed, Order.nullsFirst, nullsComeFirst, Direction.reversed,
      NullPlacement.reversed, compareValues]

end Sorting

/-! ## Comparisons of rows -/

namespace Database

variable {V : Type} [LinearOrder V] (database : Database V)

theorem compareRecords_nil (first second : Record V) :
    database.compareRecords [] first second = .eq :=
  rfl

theorem compareRecords_cons (sorting : Sorting) (rest : List Sorting) :
    database.compareRecords (sorting :: rest) =
      compareLex (fun first second => sorting.compareValues
        (database.value first sorting.expression) (database.value second sorting.expression))
        (database.compareRecords rest) :=
  rfl

instance (sortings : List Sorting) : TransCmp (database.compareRecords sortings) := by
  induction sortings with
  | nil =>
      exact
        { eq_swap := rfl
          isLE_trans := fun _ _ => rfl }
  | cons sorting rest ih =>
      rw [compareRecords_cons]
      have hhead : TransCmp fun first second : Record V => sorting.compareValues
          (database.value first sorting.expression) (database.value second sorting.expression) :=
        { eq_swap := OrientedCmp.eq_swap
          isLE_trans := TransCmp.isLE_trans }
      infer_instance

/-- Rows in the same place have the same values in all entries. -/
theorem compareRecords_eq_eq {sortings : List Sorting} {first second : Record V} :
    database.compareRecords sortings first second = .eq ↔
      ∀ sorting ∈ sortings,
        database.value first sorting.expression = database.value second sorting.expression := by
  induction sortings with
  | nil => simp [compareRecords_nil]
  | cons sorting rest ih =>
      rw [compareRecords_cons, compareLex, Ordering.then_eq_eq, Sorting.compareValues_eq_eq, ih]
      simp

/-- A reversed ordering orders two rows the other way round. -/
theorem compareRecords_reversed (ordering : List Order) (first second : Record V) :
    database.compareRecords ((ordering.map Order.reversed).map Sorting.ofOrder) first second =
      database.compareRecords (ordering.map Sorting.ofOrder) second first := by
  induction ordering with
  | nil => rfl
  | cons order rest ih =>
      simp only [List.map_cons, compareRecords_cons, compareLex, ih,
        Sorting.compareValues_reversed]
      rfl

/-! ## Sorted rows -/

/-- Whether rows stand in strictly ascending order. -/
def Ascending (sortings : List Sorting) (records : List (Record V)) : Prop :=
  records.Pairwise fun first second => database.compareRecords sortings first second = .lt

/-- Whether the ordering tells any two of the rows apart. -/
def Distinguishes (sortings : List Sorting) (records : List (Record V)) : Prop :=
  records.Pairwise fun first second => database.compareRecords sortings first second ≠ .eq

theorem sort_perm (sortings : List Sorting) (records : List (Record V)) :
    (database.sort sortings records).Perm records :=
  List.mergeSort_perm _ _

theorem pairwise_sort (sortings : List Sorting) (records : List (Record V)) :
    (database.sort sortings records).Pairwise fun first second =>
      (database.compareRecords sortings first second).isLE = true := by
  refine List.pairwise_mergeSort ?_ ?_ records
  · exact fun first second third hfirst hsecond => TransCmp.isLE_trans hfirst hsecond
  · intro first second
    have hswap : database.compareRecords sortings second first =
        (database.compareRecords sortings first second).swap := OrientedCmp.eq_swap
    rw [hswap]
    cases database.compareRecords sortings first second <;> rfl

variable {database} {sortings : List Sorting} {records sorted : List (Record V)}

theorem distinguishes_of_ascending (hrecords : database.Ascending sortings records) :
    database.Distinguishes sortings records :=
  hrecords.imp fun hlt heq => by rw [hlt] at heq; cases heq

/-- Which rows are told apart does not depend on how they are arranged. -/
theorem distinguishes_of_perm {others : List (Record V)} (hperm : others.Perm records)
    (hrecords : database.Distinguishes sortings records) :
    database.Distinguishes sortings others := by
  refine (List.Perm.pairwise_iff ?_ hperm).mpr hrecords
  intro first second hne heq
  exact hne (OrientedCmp.eq_symm heq)

/-- Rows that are told apart are equal if they are in the same place. -/
theorem eq_of_distinguishes (hrecords : database.Distinguishes sortings records)
    {first second : Record V} (hfirst : first ∈ records) (hsecond : second ∈ records)
    (hequal : database.compareRecords sortings first second = .eq) : first = second := by
  by_contra hne
  -- Being told apart is symmetric, so the order of the two in the list does not matter.
  have hsymmetric : Symm fun x y : Record V => database.compareRecords sortings x y ≠ .eq :=
    ⟨fun x y hxy hyx => hxy (OrientedCmp.eq_symm hyx)⟩
  exact List.Pairwise.forall hrecords hfirst hsecond hne hequal

/-- Rows that are told apart are sorted without ties. -/
theorem ascending_sort (hrecords : database.Distinguishes sortings records) :
    database.Ascending sortings (database.sort sortings records) := by
  have hdistinct := distinguishes_of_perm (database.sort_perm sortings records) hrecords
  refine (hdistinct.and (database.pairwise_sort sortings records)).imp ?_
  rintro first second ⟨hne, hle⟩
  cases horder : database.compareRecords sortings first second with
  | lt => rfl
  | eq => exact absurd horder hne
  | gt => simp [horder] at hle

/-- There is one way only to sort rows without ties. -/
theorem sort_eq_of_ascending (hsorted : database.Ascending sortings sorted)
    (hperm : sorted.Perm records) : database.sort sortings records = sorted := by
  have hsort := (database.sort_perm sortings records).trans hperm.symm
  refine List.Perm.eq_of_pairwise ?_ (database.pairwise_sort sortings records)
    (hsorted.imp fun hlt => by rw [hlt]; rfl) hsort
  intro first second hfirst hsecond hle hge
  refine eq_of_distinguishes (distinguishes_of_ascending hsorted) (hsort.mem_iff.mp hfirst)
    hsecond ?_
  exact OrientedCmp.isLE_antisymm hle hge

/-- The rows that lie beyond a row of a sorted sequence are those that follow it. -/
theorem filter_beyond {before after : List (Record V)} {record : Record V}
    (hsorted : database.Ascending sortings (before ++ record :: after)) :
    (before ++ record :: after).filter
      (fun other => database.compareRecords sortings other record = .gt) = after := by
  obtain ⟨-, hrest, hacross⟩ := List.pairwise_append.mp hsorted
  obtain ⟨hfollow, -⟩ := List.pairwise_cons.mp hrest
  have hbefore : before.filter
      (fun other => database.compareRecords sortings other record = .gt) = [] := by
    refine List.filter_eq_nil_iff.mpr fun other hother => ?_
    simp [hacross other hother record List.mem_cons_self]
  have hafter : after.filter
      (fun other => database.compareRecords sortings other record = .gt) = after := by
    refine List.filter_eq_self.mpr fun other hother => ?_
    simp [OrientedCmp.gt_iff_lt.mpr (hfollow other hother)]
  have hself : database.compareRecords sortings record record = .eq := ReflCmp.compare_self
  rw [List.filter_append, hbefore, List.filter_cons_of_neg (by simp [hself]), hafter,
    List.nil_append]

/-- The rows that lie beyond one of several rows are sorted as the part of the sorted
sequence after it. -/
theorem sort_filter_beyond {before after : List (Record V)} {record : Record V}
    (hrecords : database.Distinguishes sortings records)
    (hsort : database.sort sortings records = before ++ record :: after) :
    database.sort sortings (records.filter
      fun other => database.compareRecords sortings other record = .gt) = after := by
  have hsorted : database.Ascending sortings (before ++ record :: after) :=
    hsort ▸ ascending_sort hrecords
  -- What follows the row is sorted, and has the rows that lie beyond it.
  refine sort_eq_of_ascending ?_ ?_
  · exact (List.pairwise_cons.mp (List.pairwise_append.mp hsorted).2.1).2
  · have hperm := (database.sort_perm sortings records).filter
      fun other => decide (database.compareRecords sortings other record = .gt)
    rwa [hsort, filter_beyond hsorted] at hperm

/-- Sorting the other way round gives the sorted rows in reverse. -/
theorem sort_reversed {ordering : List Order}
    (hrecords : database.Distinguishes (ordering.map Sorting.ofOrder) records) :
    database.sort ((ordering.map Order.reversed).map Sorting.ofOrder) records =
      (database.sort (ordering.map Sorting.ofOrder) records).reverse := by
  refine sort_eq_of_ascending ?_ ((List.reverse_perm _).trans (database.sort_perm _ _))
  refine List.pairwise_reverse.mpr ((ascending_sort hrecords).imp fun hlt => ?_)
  rwa [compareRecords_reversed]

/-! ## Answers -/

/-- At most the given number of rows. -/
def cutAt {α : Type} (limit : Option UInt32) (rows : List α) : List α :=
  match limit with
  | some limit => rows.take limit.toNat
  | none => rows

private theorem isSome_mapM {α β : Type} {read : α → Option β} {inputs : List α}
    (hread : ∀ input ∈ inputs, (read input).isSome) : (inputs.mapM read).isSome := by
  induction inputs with
  | nil => rfl
  | cons first rest ih =>
      obtain ⟨hfirst, hrest⟩ := List.forall_mem_cons.mp hread
      obtain ⟨value, hvalue⟩ := Option.isSome_iff_exists.mp hfirst
      obtain ⟨values, hvalues⟩ := Option.isSome_iff_exists.mp (ih hrest)
      simp [List.mapM_cons, hvalue, hvalues]

private theorem mapM_read?_orderFragment (ordering : List Order) :
    ordering.mapM (fun order => Sorting.read? (Select.orderFragment order)) =
      some (ordering.map Sorting.ofOrder) := by
  induction ordering with
  | nil => rfl
  | cons order rest ih =>
      rw [List.mapM_cons, Sorting.read?_orderFragment, ih]
      rfl

/-- The answer to a statement whose conditions can be read: the matching rows, sorted by
the ordering and cut off at the limit. -/
theorem answer?_eq {statement : Select}
    (hconditions : ∀ condition ∈ statement.conditions, (Condition.read? condition).isSome) :
    database.answer? statement =
      some ((cutAt statement.limit (database.sort (statement.ordering.map Sorting.ofOrder)
        (database.matching statement))).map (database.project statement.columns)) := by
  obtain ⟨conditions, hread⟩ := Option.isSome_iff_exists.mp (isSome_mapM hconditions)
  unfold answer? cutAt
  rw [hread, mapM_read?_orderFragment]
  cases statement.limit <;> rfl

end Database

end ListQuery.Sql
