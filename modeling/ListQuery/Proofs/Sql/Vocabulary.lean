import ListQuery.Proofs.Ordering
import ListQuery.Proofs.Predicate
import ListQuery.Proofs.Sql.Clause
import Mathlib.Data.List.Basic

/-!
# The words of a statement come from the mapping

Whatever a caller asks for, the names, clauses and types that are written into the
statement of a page are those of the mapping or constants of the library.
`Mapping.Admits` is this vocabulary; it does not mention the context at all.  Every
way of building a fragment stays inside it, and so does the whole statement, but
for the number of its limit.

So a text of the caller that is no word of the mapping can be part of a statement
only as a bound value.
-/

namespace ListQuery

open Sql

/-! ## The vocabulary of a mapping -/

/-- The pieces of a clause between its question marks. -/
def SecurityFilter.pieces (filter : SecurityFilter) : List String :=
  (filter.clause.toList.splitOn '?').map String.ofList

namespace Mapping

/-- The names of a mapping, and the one name that every statement selects. -/
def names (mapping : Mapping) : List String :=
  keyAlias :: mapping.schema :: mapping.table :: mapping.aliasName :: mapping.keyFields
    ++ mapping.fields.flatMap (fun field => [field.field, field.column, field.table])
    ++ mapping.joins.flatMap (fun join => [join.table, join.aliasName])

/-- The texts of a mapping that are written as they stand, and the two literals that
every statement has. -/
def clauses (mapping : Mapping) : List String :=
  "''" :: "'::'" :: mapping.joins.map MappedJoin.on
    ++ mapping.securityFilters.flatMap SecurityFilter.pieces

/-- The types that values or columns are converted to. -/
def castTypes (mapping : Mapping) : List String :=
  "text" :: mapping.fields.filterMap fun field => field.type.parameterCast

/-- Whether a chunk is a word of the mapping, a sign of the closed vocabulary, or a
placeholder. -/
def Admits (mapping : Mapping) : Chunk → Prop
  | .token _ | .parameter _ => True
  | .identifier name => name ∈ mapping.names
  | .verbatim text => text ∈ mapping.clauses
  | .cast type => type ∈ mapping.castTypes
  | .integer _ => False

/-- Whether a fragment consists of such chunks. -/
def AdmitsAll (mapping : Mapping) (fragment : Fragment) : Prop :=
  ∀ chunk ∈ fragment, mapping.Admits chunk

variable {mapping : Mapping} {first second fragment : Fragment}

@[simp] theorem admits_token (token : Token) : mapping.Admits (.token token) := trivial

@[simp] theorem admits_parameter (value : Scalar) : mapping.Admits (.parameter value) := trivial

@[simp] theorem admits_identifier (name : String) :
    mapping.Admits (.identifier name) ↔ name ∈ mapping.names :=
  Iff.rfl

@[simp] theorem admits_verbatim (text : String) :
    mapping.Admits (.verbatim text) ↔ text ∈ mapping.clauses :=
  Iff.rfl

@[simp] theorem admits_cast (type : String) :
    mapping.Admits (.cast type) ↔ type ∈ mapping.castTypes :=
  Iff.rfl

/-! ## Building fragments inside the vocabulary -/

@[simp] theorem admitsAll_nil : mapping.AdmitsAll [] := by
  simp [AdmitsAll]

@[simp] theorem admitsAll_cons (chunk : Chunk) (rest : Fragment) :
    mapping.AdmitsAll (chunk :: rest) ↔ mapping.Admits chunk ∧ mapping.AdmitsAll rest := by
  simp [AdmitsAll]

@[simp] theorem admitsAll_append :
    mapping.AdmitsAll (first ++ second) ↔ mapping.AdmitsAll first ∧ mapping.AdmitsAll second := by
  simp [AdmitsAll, or_imp, forall_and]

@[simp] theorem admitsAll_parenthesized :
    mapping.AdmitsAll fragment.parenthesized ↔ mapping.AdmitsAll fragment := by
  simp [Fragment.parenthesized]

theorem admitsAll_join {separator : Token} {fragments : List Fragment}
    (hparts : ∀ part ∈ fragments, mapping.AdmitsAll part) :
    mapping.AdmitsAll (Fragment.join separator fragments) :=
  Fragment.forall_mem_join (admits_token separator) hparts

@[simp] theorem admitsAll_word (keyword : Keyword) : mapping.AdmitsAll (Fragment.word keyword) := by
  simp [Fragment.word]

@[simp] theorem admitsAll_ofToken (token : Token) :
    mapping.AdmitsAll (Fragment.ofToken token) := by
  simp [Fragment.ofToken]

@[simp] theorem admitsAll_comparison (sign : Comparison) :
    mapping.AdmitsAll (Fragment.comparison sign) := by
  simp [Fragment.comparison]

@[simp] theorem admitsAll_call (function : Token) (arguments : Fragment) :
    mapping.AdmitsAll (Fragment.call function arguments) ↔ mapping.AdmitsAll arguments := by
  simp [Fragment.call]

@[simp] theorem admitsAll_column (table name : String) :
    mapping.AdmitsAll (Fragment.column table name) ↔
      table ∈ mapping.names ∧ name ∈ mapping.names := by
  simp [Fragment.column]

@[simp] theorem admitsAll_named (name : String) :
    mapping.AdmitsAll (fragment.named name) ↔
      mapping.AdmitsAll fragment ∧ name ∈ mapping.names := by
  simp [Fragment.named]

/-- A conversion is written inside the vocabulary if its type is one of the mapping. -/
@[simp] theorem admitsAll_castTo (type : Option String) :
    mapping.AdmitsAll (Fragment.castTo type) ↔ ∀ name ∈ type, name ∈ mapping.castTypes := by
  cases type <;> simp [Fragment.castTo]

@[simp] theorem admitsAll_parameter (value : Scalar) (type : Option String) :
    mapping.AdmitsAll (Fragment.parameter value type) ↔
      ∀ name ∈ type, name ∈ mapping.castTypes := by
  simp [Fragment.parameter]

theorem admitsAll_parameters (values : List Scalar) {type : Option String}
    (htype : ∀ name ∈ type, name ∈ mapping.castTypes) :
    mapping.AdmitsAll (Fragment.parameters values type) := by
  refine admitsAll_join fun part hpart => ?_
  obtain ⟨value, -, rfl⟩ := List.mem_map.mp hpart
  simpa using htype

/-! ## The pieces of a clause -/

theorem admitsAll_verbatim {text : List Char} (htext : String.ofList text ∈ mapping.clauses) :
    mapping.AdmitsAll (Fragment.verbatim text) := by
  unfold Fragment.verbatim
  split
  · exact admitsAll_nil
  · simpa using htext

/-- A clause with as many values as question marks is written piece by piece. -/
theorem admitsAll_ofClauseChars {text chars : List Char} {values : List Scalar}
    (hcount : chars.count '?' = values.length)
    (hpieces : ∀ piece ∈ chars.splitOnPPrepend (· == '?') text,
      String.ofList piece ∈ mapping.clauses) :
    mapping.AdmitsAll (Fragment.ofClauseChars text chars values) := by
  fun_induction Fragment.ofClauseChars text chars values with
  | case1 text values =>
      exact admitsAll_verbatim (hpieces _ (by simp))
  | case2 text rest value values ih =>
      rw [List.splitOnPPrepend_cons_pos rfl] at hpieces
      have hrest := ih (by simpa using hcount) fun piece hpiece =>
        hpieces piece (List.mem_cons_of_mem _ (by simpa using hpiece))
      simpa [hrest] using admitsAll_verbatim (hpieces _ List.mem_cons_self)
  | case3 text rest ih => simp at hcount
  | case4 text c rest values hvalue hvalues ih =>
      have hc := Fragment.ne_mark hvalue hvalues
      rw [List.splitOnPPrepend_cons_neg (by simpa using hc)] at hpieces
      exact ih (by simpa [hc] using hcount) hpieces

theorem admitsAll_condition {filter : SecurityFilter} (hfilter : filter ∈ mapping.securityFilters)
    (hcount : filter.placeholders = filter.values.length) :
    mapping.AdmitsAll filter.condition := by
  refine admitsAll_ofClauseChars hcount fun piece hpiece => ?_
  have hmem : String.ofList piece ∈ filter.pieces :=
    List.mem_map_of_mem (by simpa [List.splitOn] using hpiece)
  simp only [clauses, List.mem_append, List.mem_flatMap]
  exact Or.inr ⟨filter, hfilter, hmem⟩

/-! ## Columns -/

theorem field_mem_names {field : MappedField} (hfield : field ∈ mapping.fields) :
    field.field ∈ mapping.names ∧ field.column ∈ mapping.names ∧ field.table ∈ mapping.names := by
  simp only [names, List.mem_append, List.mem_flatMap]
  exact ⟨Or.inl (Or.inr ⟨field, hfield, by simp⟩), Or.inl (Or.inr ⟨field, hfield, by simp⟩),
    Or.inl (Or.inr ⟨field, hfield, by simp⟩)⟩

theorem parameterCast_mem_castTypes {field : MappedField} (hfield : field ∈ mapping.fields) :
    ∀ name ∈ field.type.parameterCast, name ∈ mapping.castTypes := by
  intro name hname
  exact List.mem_cons_of_mem _ (List.mem_filterMap.mpr ⟨field, hfield, hname⟩)

@[simp] theorem text_mem_castTypes : "text" ∈ mapping.castTypes := by
  simp [castTypes]

theorem admitsAll_expression {field : MappedField} (hfield : field ∈ mapping.fields) :
    mapping.AdmitsAll field.expression := by
  simp [MappedField.expression, field_mem_names hfield]

theorem admitsAll_keyText : mapping.AdmitsAll mapping.keyText := by
  have hliterals : "''" ∈ mapping.clauses ∧ "'::'" ∈ mapping.clauses := by simp [clauses]
  have hpart : ∀ name ∈ mapping.keyFields, mapping.AdmitsAll (mapping.keyPart name) := by
    intro name hname
    have hexpression : mapping.AdmitsAll (mapping.keyExpression name) := by
      unfold keyExpression
      split
      next field hfield => exact admitsAll_expression (List.mem_of_find?_eq_some hfield)
      next => simp [names, hname]
    simp [keyPart, hexpression, hliterals]
  have hparts : mapping.AdmitsAll (Fragment.join .comma (mapping.keyFields.map mapping.keyPart)) :=
    admitsAll_join (List.forall_mem_map.mpr hpart)
  simp [keyText, hparts, hliterals]

/-- The columns of a statement are named and computed from the mapping's fields. -/
theorem admits_columns : ∀ column ∈ mapping.columns,
    mapping.AdmitsAll column.expression ∧ column.aliasName ∈ mapping.names := by
  intro column hcolumn
  rcases List.mem_append.mp hcolumn with hcolumn | hcolumn
  · obtain ⟨field, hfield, rfl⟩ := List.mem_map.mp hcolumn
    exact ⟨admitsAll_expression hfield, (field_mem_names hfield).1⟩
  · obtain rfl := List.mem_singleton.mp hcolumn
    exact ⟨admitsAll_keyText, by simp [names]⟩

/-! ## Conditions -/

theorem admitsAll_form {field : MappedField} {condition : Fragment}
    (hfield : field ∈ mapping.fields) (hform : field.Form condition) :
    mapping.AdmitsAll condition := by
  have hexpression := admitsAll_expression hfield
  have hcast := parameterCast_mem_castTypes hfield
  cases hform with
  | isNull => simp [MappedField.isNull, hexpression]
  | isNotNull => simp [MappedField.isNotNull, hexpression]
  | compare sign value => simpa [MappedField.compare, hexpression] using hcast
  | compareEach sign hquantifier value values =>
      simp [MappedField.compareEach, hexpression, admitsAll_parameters (value :: values) hcast]
  | between lower upper => simpa [MappedField.between, hexpression] using hcast
  | matchesPattern pattern =>
      cases htextual : field.type.isTextual <;>
        simp [MappedField.matchesPattern, hexpression, htextual]

/-- The conditions of a draft are written with the words of the mapping. -/
theorem admitsAll_stipulates {condition : Fragment} (hcondition : mapping.Stipulates condition) :
    mapping.AdmitsAll condition := by
  cases hcondition with
  | filter hfield hform => exact admitsAll_form hfield hform
  | negatedFilter hfield hform => simpa using admitsAll_form hfield hform
  | security hfilter hcount => exact admitsAll_condition hfilter hcount
  | search hfields hsome pattern =>
      exact admitsAll_join (List.forall_mem_map.mpr fun field hfield =>
        admitsAll_form (hfields field hfield) (.matchesPattern pattern))

/-! ## Ordering and cursor -/

/-- Whether an entry of an ordering is written with words of the mapping. -/
def AdmitsOrder (mapping : Mapping) (order : Order) : Prop :=
  mapping.AdmitsAll order.expression ∧ ∀ name ∈ order.cast, name ∈ mapping.castTypes

theorem admitsOrder_of_arranges {order : Order} (horder : mapping.Arranges order) :
    mapping.AdmitsOrder order := by
  cases horder with
  | sort hfield sort => exact ⟨admitsAll_expression hfield, parameterCast_mem_castTypes hfield⟩
  | key hcolumn hkey => exact ⟨(admits_columns _ hcolumn).1, by simp [Order.byColumn]⟩

/-- Whatever a cursor holds, its condition is written with the words of the ordering. -/
theorem admitsAll_strictlyAfter {ordering : List Order} {values : List Scalar}
    (hordering : ∀ order ∈ ordering, mapping.AdmitsOrder order) :
    mapping.AdmitsAll (Order.strictlyAfter ordering values) := by
  refine Order.strictlyAfter_of_closed mapping.AdmitsAll (by simp) ?_ ?_ ?_
  · intro order horder test hform
    obtain ⟨hexpression, hcast⟩ := hordering order horder
    have hexceeds : ∀ value, mapping.AdmitsAll (order.exceeds value) := by
      intro value
      simpa [Order.exceeds, hexpression] using hcast
    cases hform with
    | isNull => simp [Order.isNull, hexpression]
    | isNotNull => simp [Order.isNotNull, hexpression]
    | matchesValue value => simpa [Order.matchesValue, hexpression] using hcast
    | exceeds value => exact hexceeds value
    | exceedsOrNull value => simp [hexceeds, Order.isNull, hexpression]
  · exact fun tests _ htests => admitsAll_join htests
  · intro branches _ hbranches
    exact admitsAll_join (List.forall_mem_map.mpr fun branch hbranch =>
      admitsAll_parenthesized.mpr (hbranches branch hbranch))

/-! ## The whole statement -/

theorem admitsAll_orderFragment {order : Order} (horder : mapping.AdmitsOrder order) :
    mapping.AdmitsAll (Select.orderFragment order) := by
  have hnulls : ∀ nulls, mapping.AdmitsAll (Select.nullsFragment nulls) := by
    intro nulls
    rcases nulls with _ | (_ | _ | _) <;> simp [Select.nullsFragment]
  simp [Select.orderFragment, horder.1, hnulls]

theorem admitsAll_source : mapping.AdmitsAll (Select.tableFragment mapping.source) := by
  simp [Select.tableFragment, source, names]

theorem admitsAll_joinFragment : ∀ join ∈ mapping.sqlJoins,
    mapping.AdmitsAll (Select.joinFragment join) := by
  refine List.forall_mem_map.mpr fun join hjoin => ?_
  have hnames : join.table ∈ mapping.names ∧ join.aliasName ∈ mapping.names := by
    simp only [names, List.mem_append, List.mem_flatMap]
    exact ⟨Or.inr ⟨join, hjoin, by simp⟩, Or.inr ⟨join, hjoin, by simp⟩⟩
  have hschema : mapping.schema ∈ mapping.names := by simp [names]
  have hclause : join.on ∈ mapping.clauses := by
    simp only [clauses, List.mem_append, List.mem_cons, List.mem_map]
    exact Or.inl (Or.inr (Or.inr ⟨join, hjoin, rfl⟩))
  simp [Select.joinFragment, Select.tableFragment, hnames, hschema, hclause]

private theorem admitsAll_clausesFragment {α : Type} {separator : Token} {parts : List α}
    {heading : Fragment} {write : α → Fragment} (hheading : mapping.AdmitsAll heading)
    (hparts : ∀ part ∈ parts, mapping.AdmitsAll (write part)) :
    mapping.AdmitsAll (if parts.isEmpty then []
      else heading ++ Fragment.join separator (parts.map write)) := by
  split
  · exact admitsAll_nil
  · exact admitsAll_append.mpr ⟨hheading, admitsAll_join (List.forall_mem_map.mpr hparts)⟩

/-- The fragment of a statement before its limit. -/
theorem admitsAll_fragment {statement : Select} (hcolumns : statement.columns = mapping.columns)
    (hsource : statement.source = mapping.source) (hjoins : statement.joins = mapping.sqlJoins)
    (hconditions : ∀ condition ∈ statement.conditions, mapping.AdmitsAll condition)
    (hordering : ∀ order ∈ statement.ordering, mapping.AdmitsOrder order) :
    mapping.AdmitsAll ({ statement with limit := none } : Select).fragment := by
  have hselected : mapping.AdmitsAll (Select.columnsFragment mapping.columns) := by
    unfold Select.columnsFragment
    split
    · simp
    · refine admitsAll_join (List.forall_mem_map.mpr fun column hcolumn => ?_)
      simpa using admits_columns column hcolumn
  have hjoined : mapping.AdmitsAll (mapping.sqlJoins.flatMap Select.joinFragment) := by
    intro chunk hchunk
    obtain ⟨join, hjoin, hchunk⟩ := List.mem_flatMap.mp hchunk
    exact admitsAll_joinFragment join hjoin chunk hchunk
  have hwhere : mapping.AdmitsAll (Select.conditionsFragment statement.conditions) :=
    admitsAll_clausesFragment (admitsAll_word _) fun condition hcondition =>
      admitsAll_parenthesized.mpr (hconditions condition hcondition)
  have hordered : mapping.AdmitsAll (Select.orderingFragment statement.ordering) :=
    admitsAll_clausesFragment (by simp) fun order horder =>
      admitsAll_orderFragment (hordering order horder)
  simp [Select.fragment, hcolumns, hsource, hjoins, hselected, hjoined, hwhere, hordered,
    admitsAll_source, Select.limitFragment]

variable {context : Context} {entityCode : String} {statement : Select}

theorem admitsAll_paged (hpaged : (mapping.paged context entityCode).outcome = .ok statement) :
    mapping.AdmitsAll ({ statement with limit := none } : Select).fragment := by
  obtain ⟨draft, ordering, conditions, hdraft, htotal, hcursor, rfl⟩ := paged_eq_ok_iff.mp hpaged
  have hordering : ∀ order ∈ context.page.direction.orient ordering, mapping.AdmitsOrder order :=
    context.page.direction.forall_mem_orient
      (fun order horder =>
        admitsOrder_of_arranges ((totalOrdering_arranges hdraft htotal).1 order horder))
      fun _ hadmits => hadmits
  have hconditions : ∀ condition ∈ draft.statement.conditions ++ conditions,
      mapping.AdmitsAll condition := by
    intro condition hcondition
    rcases List.mem_append.mp hcondition with hcondition | hcondition
    · exact admitsAll_stipulates (mem_conditions_cases hdraft condition hcondition)
    · obtain ⟨values, rfl⟩ := mem_cursorConditions hcursor condition hcondition
      exact admitsAll_strictlyAfter hordering
  obtain ⟨_, _, _, _, -, -, -, -, rfl⟩ := draft_eq_ok_iff.mp hdraft
  exact admitsAll_fragment rfl rfl rfl hconditions hordering

/-- Whatever the caller asks for, the statement of a page is written with the words of
the mapping up to its limit, which is one more than the size of the page.  A text that
is no word of the mapping is therefore no name, no clause and no type of the
statement. -/
theorem fragment_of_paged
    (hpaged : (mapping.paged context entityCode).outcome = .ok statement) :
    (∃ body, statement.fragment = body ++
        [.token (.word .limit), .integer (min (context.page.limit.toNat + 1) 0xFFFFFFFF)] ∧
      mapping.AdmitsAll body) ∧
    ∀ text, text ∉ mapping.names → text ∉ mapping.clauses → text ∉ mapping.castTypes →
      ∀ chunk ∈ statement.fragment,
        chunk ≠ .identifier text ∧ chunk ≠ .verbatim text ∧ chunk ≠ .cast text := by
  have hbody := admitsAll_paged hpaged
  have hlimit : statement.limit = some (fetchLimit context.page.limit) := by
    obtain ⟨draft, ordering, conditions, -, -, -, rfl⟩ := paged_eq_ok_iff.mp hpaged
    rfl
  have hfragment : statement.fragment = ({ statement with limit := none } : Select).fragment ++
      [.token (.word .limit), .integer (min (context.page.limit.toNat + 1) 0xFFFFFFFF)] := by
    simp [Select.fragment, hlimit, Select.limitFragment, fetchLimit_toNat, Fragment.word]
  refine ⟨⟨_, hfragment, hbody⟩, fun text hname hclause htype chunk hchunk => ?_⟩
  rw [hfragment] at hchunk
  rcases List.mem_append.mp hchunk with hchunk | hchunk
  · have hadmits := hbody chunk hchunk
    refine ⟨?_, ?_, ?_⟩
    · rintro rfl
      exact hname hadmits
    · rintro rfl
      exact hclause hadmits
    · rintro rfl
      exact htype hadmits
  · rcases List.mem_cons.mp hchunk with rfl | hchunk
    · simp
    · obtain rfl := List.mem_singleton.mp hchunk
      simp

/-- A request that puts the same text into a filter, a sort, a search, the code of the list
and its cursor. -/
def intrusion : Context :=
  let text := "'; DROP TABLE item; --"
  { listCode := some text
    filters := [⟨"name", .contains, some (.scalar (.text text)), true, some text⟩,
      ⟨text, .isNull, none, false, none⟩]
    sorts := [⟨text, .ascending, none, none⟩, ⟨"name", .descending, some .last, none⟩]
    page := ⟨.forward,
      some "eyJlbnRpdHkiOiJpdGVtIiwia2V5IjpbIjciXSwic29ydCI6WyInOyBEUk9QIFRBQkxFIGl0ZW07IC0tIiwiNyJdfQ",
      none, 50⟩
    search := some ⟨text, none, none⟩
    viewPreferences := none
    session := none }

/-- The statement binds the text and writes it nowhere. -/
theorem fragment_of_intrusion : ∃ statement,
    (EntityDefinition.sample.mapping.paged intrusion "item").outcome = .ok statement ∧
    ∀ chunk ∈ statement.fragment, chunk ≠ .identifier "'; DROP TABLE item; --" ∧
      chunk ≠ .verbatim "'; DROP TABLE item; --" ∧ chunk ≠ .cast "'; DROP TABLE item; --" := by
  obtain ⟨statement, hpaged⟩ := exists_ok_of_isOk
    (show (EntityDefinition.sample.mapping.paged intrusion "item").outcome.isOk = true by
      decide +kernel)
  exact ⟨statement, hpaged, (fragment_of_paged hpaged).2 _ (by decide +kernel)
    (by decide +kernel) (by decide +kernel)⟩

end Mapping

end ListQuery
