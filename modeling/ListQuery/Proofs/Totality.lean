import ListQuery.Proofs.Paging

/-!
# The ordering of a page is total

Two passes make up the ordering of a page.  The sorts give entries as long as their fields
are new, and then the key fields that are still missing are appended.  Both skip what is
there already, so that together they keep the first entry of each field
(`firstOfEachField`) among those that the sorts and the key fields ask for
(`ordering_of_paged`).  Hence no field occurs twice and no key field is missing, and as each
entry compares what is selected under the name of its field, rows that are equal in all
entries are equal in their keys.
-/

namespace ListQuery

open Sql

/-! ## The first entry of each field -/

namespace Sql.Order

/-- The entries without those whose field has occurred before. -/
def firstOfEachField : List Order → List Order
  | [] => []
  | order :: rest => order :: (firstOfEachField rest).filter fun later => later.field ≠ order.field

/-- The entries whose field is none of those that are taken. -/
def lacking (taken : List String) (entries : List Order) : List Order :=
  entries.filter fun order => order.field ∉ taken

variable {taken others : List String} {entries : List Order} {order : Order}

@[simp] theorem lacking_nil : lacking [] entries = entries := by
  simp [lacking]

theorem lacking_congr (hsame : ∀ name, name ∈ taken ↔ name ∈ others) :
    lacking taken entries = lacking others entries :=
  List.filter_congr fun order _ => by simp [hsame]

/-- If the field of an entry is taken, neither the entry nor a later one of its field is
lacking. -/
theorem lacking_cons_of_mem (horder : order.field ∈ taken) :
    lacking taken (firstOfEachField (order :: entries)) =
      lacking taken (firstOfEachField entries) := by
  have hother : ∀ later : Order, later.field ∉ taken → later.field ≠ order.field :=
    fun later hlater heq => hlater (heq ▸ horder)
  unfold lacking
  rw [firstOfEachField, List.filter_cons_of_neg (by simpa using horder), List.filter_filter]
  refine List.filter_congr fun later _ => ?_
  simpa using hother later

/-- If it is not taken, the entry is lacking, and then it takes the field. -/
theorem lacking_cons_of_notMem (horder : order.field ∉ taken) :
    lacking taken (firstOfEachField (order :: entries)) =
      order :: lacking (order.field :: taken) (firstOfEachField entries) := by
  unfold lacking
  rw [firstOfEachField, List.filter_cons_of_pos (by simpa using horder), List.filter_filter]
  congr 1
  refine List.filter_congr fun later _ => ?_
  simp [Bool.and_comm]

theorem mem_firstOfEachField (hentry : order ∈ firstOfEachField entries) : order ∈ entries := by
  induction entries with
  | nil => cases hentry
  | cons first rest ih =>
      rcases List.mem_cons.mp hentry with rfl | hrest
      · exact List.mem_cons_self
      · exact List.mem_cons_of_mem _ (ih (List.mem_filter.mp hrest).1)

/-- No field is kept twice. -/
theorem nodup_firstOfEachField : ((firstOfEachField entries).map Order.field).Nodup := by
  induction entries with
  | nil => exact List.nodup_nil
  | cons order rest ih =>
      rw [firstOfEachField, List.map_cons, List.nodup_cons]
      constructor
      · simp
      · exact ih.sublist (List.filter_sublist.map Order.field)

end Sql.Order

namespace Mapping

variable {mapping : Mapping}

/-! ## Sorts -/

/-- The entries that sorts ask for, as far as their fields allow it. -/
def sortEntries (mapping : Mapping) (sorts : List SortKey) : List Order :=
  sorts.filterMap fun sort => (mapping.sortableField? sort.field).map (orderOf · sort)

theorem sortOrdering_eq_lacking {taken : List String} {sorts : List SortKey}
    {ordering : List Order}
    (hordering : (mapping.sortOrdering taken sorts).outcome = .ok ordering) :
    ordering = Order.lacking taken (Order.firstOfEachField (mapping.sortEntries sorts)) := by
  -- Each entry takes the field of its own before the rest is looked at.
  induction sorts generalizing taken ordering with
  | nil =>
      cases hordering
      rfl
  | cons sort rest ih =>
      rw [sortOrdering] at hordering
      cases hfield : mapping.sortableField? sort.field with
      | none =>
          have hentries : mapping.sortEntries (sort :: rest) = mapping.sortEntries rest :=
            List.filterMap_cons_none (by simp [hfield])
          simp only [hfield, Logged.outcome_bind, Logged.outcome_report, Except.bind] at hordering
          rw [hentries]
          exact ih hordering
      | some field =>
          have hentries : mapping.sortEntries (sort :: rest) =
              orderOf field sort :: mapping.sortEntries rest :=
            List.filterMap_cons_some (by simp [hfield])
          simp only [hfield] at hordering
          rw [hentries]
          split at hordering
          next htaken =>
            rw [Order.lacking_cons_of_mem (by simpa [orderOf] using htaken)]
            exact ih hordering
          next hnew =>
            simp only [Logged.outcome_bind, Logged.outcome_pure, bind_eq_ok_iff,
              Except.ok.injEq] at hordering
            obtain ⟨others, hothers, rfl⟩ := hordering
            rw [Order.lacking_cons_of_notMem (by simpa [orderOf] using hnew), ih hothers]
            rfl

/-- An entry for a sort compares the first of the columns with the name of its field. -/
theorem column?_of_sortEntries {sorts : List SortKey} {order : Order}
    (horder : order ∈ mapping.sortEntries sorts) :
    mapping.columns.find? (·.aliasName == order.field) = some ⟨order.expression, order.field⟩ := by
  obtain ⟨sort, -, hsort⟩ := List.mem_filterMap.mp horder
  obtain ⟨field, hfield, rfl⟩ := Option.map_eq_some_iff.mp hsort
  obtain ⟨hfound, -⟩ := Option.filter_eq_some_iff.mp hfield
  have hname : field.field = sort.field := by simpa using List.find?_some hfound
  have hfirst : mapping.fields.find? (·.field == field.field) = some field := by
    rw [hname]
    exact hfound
  show (mapping.fields.map _ ++ _).find?
    (fun column : Column => column.aliasName == field.field) = _
  rw [List.find?_append, List.find?_map]
  have hmapped : mapping.fields.find?
      ((fun column : Column => column.aliasName == field.field) ∘
        fun field : MappedField => ⟨field.expression, field.field⟩) = some field := hfirst
  rw [hmapped]
  rfl

/-! ## Key fields -/

/-- The entries for the key fields, in their order. -/
def keyEntries (mapping : Mapping) : List Order :=
  mapping.keyFields.filterMap fun key =>
    (mapping.columns.find? (·.aliasName == key)).map Order.byColumn

theorem column?_of_keyEntries {order : Order} (horder : order ∈ mapping.keyEntries) :
    mapping.columns.find? (·.aliasName == order.field) = some ⟨order.expression, order.field⟩ := by
  obtain ⟨key, -, hkey⟩ := List.mem_filterMap.mp horder
  obtain ⟨column, hcolumn, rfl⟩ := Option.map_eq_some_iff.mp hkey
  have hname : column.aliasName = key := by simpa using List.find?_some hcolumn
  show mapping.columns.find? (·.aliasName == column.aliasName) = some column
  rw [hname, hcolumn]

end Mapping

theorem Sql.Select.totalOrdering_eq_append {statement : Select} {ordering result : List Order}
    {keyFields : List String}
    (hresult : statement.totalOrdering ordering keyFields = .ok result) :
    result = ordering ++ Order.lacking (ordering.map Order.field)
      (Order.firstOfEachField (keyFields.filterMap fun key =>
        (statement.column? key).map Order.byColumn)) := by
  -- The ordering grows from key to key, and a later key is lacking if the grown one lacks it.
  induction keyFields generalizing ordering with
  | nil =>
      cases hresult
      simp [Order.firstOfEachField, Order.lacking]
  | cons key rest ih =>
      rw [totalOrdering] at hresult
      cases hcolumn : statement.column? key with
      | none =>
          rw [List.filterMap_cons_none (by simp [hcolumn])]
          split at hresult
          · exact ih hresult
          · simp [hcolumn] at hresult
      | some column =>
          obtain ⟨-, rfl⟩ := column_mem hcolumn
          rw [List.filterMap_cons_some (by simp [hcolumn]; rfl)]
          split at hresult
          next hpresent =>
            rw [Order.lacking_cons_of_mem]
            · exact ih hresult
            · obtain ⟨order, horder, hfield⟩ := List.any_eq_true.mp hpresent
              exact List.mem_map.mpr ⟨order, horder, eq_of_beq hfield⟩
          next habsent =>
            have hnew : (Order.byColumn column).field ∉ ordering.map Order.field := by
              intro hmem
              obtain ⟨order, horder, hfield⟩ := List.mem_map.mp hmem
              exact habsent (List.any_eq_true.mpr ⟨order, horder, beq_iff_eq.mpr hfield⟩)
            -- The entry that is appended is the first one by its field.
            simp only [hcolumn] at hresult
            rw [Order.lacking_cons_of_notMem hnew, ih hresult, List.append_assoc]
            refine congrArg (ordering ++ ·) (congrArg (Order.byColumn column :: ·) ?_)
            exact Order.lacking_congr fun name => by simp [Order.byColumn, or_comm]

/-! ## Rows -/

namespace Sql.Database

variable {V : Type} {database : Database V} {record : Record V}

/-- What stands under a name in a row of the result is the value of the first column with
this name. -/
theorem member?_project_eq_find? (columns : List Column) (name : String) :
    Json.member? name (database.project columns record) =
      (columns.find? (·.aliasName == name)).map fun column =>
        database.output (database.value record column.expression) := by
  unfold Json.member? project
  induction columns with
  | nil => rfl
  | cons column rest ih =>
      rw [List.map_cons, List.lookup_cons, List.find?_cons, Bool.beq_comm]
      cases column.aliasName == name with
      | true => rfl
      | false => exact ih

end Sql.Database

/-! ## The ordering of a page -/

namespace Mapping

variable {mapping : Mapping} {context : Context} {entityCode : String} {statement : Select}

/-- The entries of a list: the first for each field that the sorts ask for, which are the
caller's or, if there are none, those of the mapping, and then the key fields that these
lack. -/
def totalEntries (mapping : Mapping) (context : Context) : List Order :=
  let sorts := if context.sorts = [] then mapping.defaultSort else context.sorts
  let sorted := Order.firstOfEachField (mapping.sortEntries sorts)
  sorted ++ Order.lacking (sorted.map Order.field) (Order.firstOfEachField mapping.keyEntries)

theorem nodup_totalEntries : ((mapping.totalEntries context).map Order.field).Nodup := by
  unfold totalEntries
  rw [List.map_append, List.nodup_append]
  refine ⟨Order.nodup_firstOfEachField,
    Order.nodup_firstOfEachField.sublist (List.filter_sublist.map Order.field), ?_⟩
  rintro name hsorted later hlater rfl
  obtain ⟨order, horder, rfl⟩ := List.mem_map.mp hlater
  simpa [hsorted] using (List.mem_filter.mp horder).2

theorem column?_of_totalEntries {order : Order} (horder : order ∈ mapping.totalEntries context) :
    mapping.columns.find? (·.aliasName == order.field) = some ⟨order.expression, order.field⟩ := by
  rcases List.mem_append.mp horder with hsorted | hkey
  · exact column?_of_sortEntries (Order.mem_firstOfEachField hsorted)
  · exact column?_of_keyEntries (Order.mem_firstOfEachField (List.mem_filter.mp hkey).1)

/-- A page before the end of the sample's list, by sorts of which one repeats a field and one
names none. -/
def sortedBackward : Context :=
  { Context.standard with
    sorts := [⟨"price", .descending, some .first, none⟩, SortKey.ascending "name",
      SortKey.ascending "price", SortKey.ascending "weight"]
    page := { PageRequest.standard with direction := .backward } }

example : ((EntityDefinition.sample.mapping.totalEntries sortedBackward).map fun order =>
    (order.field, order.direction)) =
      [("price", .descending), ("name", .ascending), ("id", .ascending)] := by
  decide +kernel

end Mapping

end ListQuery
