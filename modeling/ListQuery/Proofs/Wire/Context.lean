import ListQuery.Proofs.Binary64.Nearest
import ListQuery.Proofs.Wire.Document

/-!
# Contexts are read back as they are written

Sorts, searches and page requests are read back whatever they are.  A filter is if its
operand is, and operands are if they have been read from a document themselves, of whatever
kind (`Operand.isNormal_of_read?`): then none of their doubles is an infinity or a NaN, which
would be written as null, and the entries of a record stand in the order of their names.

With the objects that a context keeps as they are it is the same: what has been read from a
plain document is read again.
-/

namespace ListQuery

open Wire

/-! ## Scalars -/

namespace Scalar

theorem isNonFinite_ofNumber (number : Json.Number) : (ofNumber number).isNonFinite = false := by
  cases number with
  | float value finite => simp [ofNumber, isNonFinite, finite]
  | integer value fits =>
      simp only [ofNumber]
      split
      · rfl
      next hlarge =>
        have hfinite := Binary64.isFinite_ofInt (by omega : 0 ≤ value) fits.2
        simp [isNonFinite, hfinite]

/-- No document is read as an infinity or a NaN. -/
theorem isNonFinite_of_read? {σ : Type} [Document σ] {doc : σ} {scalar : Scalar}
    (hread : read? doc = some scalar) : scalar.isNonFinite = false := by
  unfold read? at hread
  split at hread <;> cases hread
  · rfl
  · rfl
  · exact isNonFinite_ofNumber _
  · rfl

/-- A scalar with a JSON text is read back if its doubles are. -/
theorem read?_toDoc {scalar : Scalar} (hscalar : scalar.isNonFinite = false)
    (hfloats : ∀ x ∈ scalar.toJson.floats, x.IsReadBack) :
    read? scalar.toJson.toDoc = some scalar := by
  rw [← readBack?_eq]
  cases scalar with
  | float x =>
      have hfinite : x.isFinite = true := by simpa [isNonFinite] using hscalar
      have hjson : toJson (.float x) = .number (.float x hfinite) := by
        simp [toJson, Json.ofBinary64, Json.Number.ofBinary64?, hfinite]
      rw [hjson] at hfloats
      exact readBack?_float (hfloats x (List.mem_singleton.mpr rfl))
  | null | bool | int | text => exact readBack?_of_ne_float (by simp)

/-- Only null is written as null. -/
theorem toJson_ne_null {scalar : Scalar} (hscalar : scalar.isNonFinite = false)
    (hnull : scalar ≠ .null) : scalar.toJson ≠ .null := by
  cases scalar with
  | null => exact absurd rfl hnull
  | float x =>
      have hfinite : x.isFinite = true := by simpa [isNonFinite] using hscalar
      simp [toJson, Json.ofBinary64, Json.Number.ofBinary64?, hfinite]
  | bool | int | text => simp [toJson, Json.ofInt64]

/-- Scalars with a JSON text are read back from a list if their doubles are. -/
theorem list?_toDoc {scalars : List Scalar}
    (hscalars : ∀ scalar ∈ scalars, scalar.isNonFinite = false)
    (hfloats : ∀ x ∈ (Json.array (scalars.map toJson)).floats, x.IsReadBack) :
    list? read? (Json.array (scalars.map toJson)).toDoc = some scalars :=
  Wire.list?_toDoc fun scalar hscalar => read?_toDoc (hscalars scalar hscalar) fun x hx =>
    hfloats x (Json.mem_floats_of_mem_array (List.mem_map_of_mem hscalar) hx)

theorem isNonFinite_of_list? {σ : Type} [Document σ] {doc : σ} {scalars : List Scalar}
    (hread : list? read? doc = some scalars) :
    ∀ scalar ∈ scalars, scalar.isNonFinite = false := by
  intro scalar hscalar
  obtain ⟨items, -, item, -, hitem⟩ := exists_of_list? hread hscalar
  exact isNonFinite_of_read? hitem

theorem view?_of_read?_null {σ : Type} [Document σ] {doc : σ} (hread : read? doc = some .null) :
    Document.view? doc = some .null := by
  unfold read? at hread
  split at hread
  next hview => exact hview
  next => cases hread
  next number _ =>
    have hnull := isNull_ofNumber number
    rw [Option.some.inj hread] at hnull
    cases hnull
  next => cases hread
  all_goals cases hread

end Scalar

/-! ## Operands -/

namespace Operand

/-- The entry of a record that a member is. -/
def pair? (member : Option String × Json.Doc) : Option (String × Scalar) := do
  return (← member.1, ← Scalar.read? member.2)

theorem read?_array (items : List Json.Doc) :
    read? (Json.Doc.array items) = (items.mapM Scalar.read?).map .list := rfl

theorem read?_object (members : List (Option String × Json.Doc)) :
    read? (Json.Doc.object members) =
      (members.mapM pair?).bind fun entries => some (.record (Json.orderedMembers entries)) := rfl

/-- What is read as a scalar is an operand as well. -/
theorem read?_of_read? {doc : Json.Doc} {value : Scalar} (hread : Scalar.read? doc = some value) :
    read? doc = some (.scalar value) := by
  unfold read?
  split
  next items hview =>
    rw [Scalar.read?, hview] at hread
    cases hread
  next members hview =>
    rw [Scalar.read?, hview] at hread
    cases hread
  next => rw [hread, Option.map_some]

/-- Whether an operand has the form that reading gives it. -/
def IsNormal : Operand → Prop
  | .scalar value => value.isNonFinite = false
  | .list values => ∀ value ∈ values, value.isNonFinite = false
  | .record entries => Json.IsOrdered entries ∧ ∀ entry ∈ entries, entry.2.isNonFinite = false

/-- Operands are read in their normal form. -/
theorem isNormal_of_read? {σ : Type} [Document σ] {doc : σ} {operand : Operand}
    (hread : read? doc = some operand) : operand.IsNormal := by
  unfold read? at hread
  split at hread
  next items hview =>
    obtain ⟨values, hvalues, rfl⟩ := Option.map_eq_some_iff.mp hread
    intro value hvalue
    obtain ⟨item, -, hitem⟩ := exists_of_mapM hvalues hvalue
    exact Scalar.isNonFinite_of_read? hitem
  next members hview =>
    obtain ⟨entries, hentries, hread⟩ := Option.bind_eq_some_iff.mp hread
    cases hread
    -- Members are put in order as they are read.
    refine ⟨Json.isOrdered_orderedMembers entries, fun entry hentry => ?_⟩
    obtain ⟨member, -, hmember⟩ := exists_of_mapM hentries (Json.mem_orderedMembers hentry)
    obtain ⟨name, -, hmember⟩ := Option.bind_eq_some_iff.mp hmember
    obtain ⟨value, hvalue, hmember⟩ := Option.bind_eq_some_iff.mp hmember
    cases hmember
    exact Scalar.isNonFinite_of_read? hvalue
  next =>
    obtain ⟨value, hvalue, rfl⟩ := Option.map_eq_some_iff.mp hread
    exact Scalar.isNonFinite_of_read? hvalue

/-- A normal operand is read back if its doubles are. -/
theorem read?_toDoc {operand : Operand} (hnormal : operand.IsNormal)
    (hfloats : ∀ x ∈ operand.toJson.floats, x.IsReadBack) :
    read? operand.toJson.toDoc = some operand := by
  cases operand with
  | scalar value => exact read?_of_read? (Scalar.read?_toDoc hnormal hfloats)
  | list values =>
      have hvalues : ∀ value ∈ values, Scalar.read? value.toJson.toDoc = some value :=
        fun value hvalue => Scalar.read?_toDoc (hnormal value hvalue) fun x hx =>
          hfloats x (Json.mem_floats_of_mem_array (List.mem_map_of_mem hvalue) hx)
      have hdoc : (toJson (.list values)).toDoc =
          .array (values.map fun value => value.toJson.toDoc) := by
        rw [toJson, Json.toDoc, Json.itemsToDoc_eq_map, List.map_map]
        rfl
      rw [hdoc, read?_array, mapM_map_eq_some hvalues, Option.map_some]
  | record entries =>
      obtain ⟨hordered, hfinite⟩ := hnormal
      have hentries : ∀ entry ∈ entries, pair? (some entry.1, entry.2.toJson.toDoc) =
          some entry := by
        intro entry hentry
        have hvalue := Scalar.read?_toDoc (hfinite entry hentry) fun x hx =>
          hfloats x (Json.mem_floats_of_mem_object (List.mem_map_of_mem hentry) hx)
        simp [pair?, hvalue]
      have hdoc : (toJson (.record entries)).toDoc =
          .object (entries.map fun entry => (some entry.1, entry.2.toJson.toDoc)) := by
        rw [toJson, Json.toDoc, Json.membersToDoc_eq_map, List.map_map]
        rfl
      rw [hdoc, read?_object, mapM_map_eq_some hentries, Option.bind_some,
        Json.orderedMembers_of_isOrdered hordered]

/-- Only null is read as null. -/
theorem view?_of_read?_null {σ : Type} [Document σ] {doc : σ}
    (hread : read? doc = some (.scalar .null)) : Document.view? doc = some .null := by
  apply Scalar.view?_of_read?_null
  unfold read? at hread
  split at hread
  next items hview =>
    obtain ⟨values, -, heq⟩ := Option.map_eq_some_iff.mp hread
    cases heq
  next members hview =>
    obtain ⟨entries, -, heq⟩ := Option.bind_eq_some_iff.mp hread
    cases heq
  next =>
    obtain ⟨value, hvalue, heq⟩ := Option.map_eq_some_iff.mp hread
    cases heq
    exact hvalue

theorem nullable?_toDoc {operand : Operand} (hnormal : operand.IsNormal)
    (hnull : operand ≠ .scalar .null) (hfloats : ∀ x ∈ operand.toJson.floats, x.IsReadBack) :
    nullable? read? operand.toJson.toDoc = some (some operand) := by
  have hjson : operand.toJson ≠ .null := by
    cases operand with
    | scalar value => exact Scalar.toJson_ne_null hnormal fun heq => hnull (congrArg _ heq)
    | list | record => simp [toJson]
  rw [Wire.nullable?_toDoc hjson hfloats, read?_toDoc hnormal hfloats, Option.map_some]

end Operand

/-! ## Filters -/

@[simp]
theorem FilterOperator.find?_name (operator : FilterOperator) :
    FilterOperator.all.find? (·.name == operator.name) = some operator := by
  cases operator <;> rfl

namespace Filter

/-- Whether a filter has the form that reading gives it: an operand is not null, since null
in its place is none. -/
def IsNormal (filter : Filter) : Prop :=
  ∀ operand, filter.value = some operand → operand.IsNormal ∧ operand ≠ .scalar .null

theorem isNormal_of_read? {σ : Type} [Document σ] {doc : σ} {filter : Filter}
    (hread : read? doc = some filter) : filter.IsNormal := by
  obtain ⟨parts, -, hread⟩ := Option.bind_eq_some_iff.mp hread
  obtain ⟨field, -, hread⟩ := Option.bind_eq_some_iff.mp hread
  obtain ⟨operator, -, hread⟩ := Option.bind_eq_some_iff.mp hread
  obtain ⟨value, hvalue, hread⟩ := Option.bind_eq_some_iff.mp hread
  obtain ⟨negate, -, hread⟩ := Option.bind_eq_some_iff.mp hread
  obtain ⟨context, -, hread⟩ := Option.bind_eq_some_iff.mp hread
  cases hread
  rintro operand rfl
  obtain ⟨part, -, hpart, hoperand⟩ := exists_of_optional hvalue
  refine ⟨Operand.isNormal_of_read? hoperand, ?_⟩
  rintro rfl
  exact hpart (Operand.view?_of_read?_null hoperand)

theorem read?_toDoc {filter : Filter} (hnormal : filter.IsNormal)
    (hfloats : ∀ x ∈ filter.toJson.floats, x.IsReadBack) :
    read? filter.toJson.toDoc = some filter := by
  obtain ⟨parts, hparts, hfind, hmem⟩ := parts?_toDoc filter.toJson
    ["field", "operator", "value", "negate", "context"]
    [("field", some (.text filter.field)), ("operator", some (.text filter.operator.name)),
      ("value", filter.value.map Operand.toJson), ("negate", some (.bool filter.negate)),
      ("context", filter.context.map .text)]
    (by simp [toJson]) rfl (by decide)
  have hvalue : ∀ operand, filter.value = some operand →
      nullable? Operand.read? operand.toJson.toDoc = some (some operand) := fun operand hoperand =>
    Operand.nullable?_toDoc (hnormal operand hoperand).1 (hnormal operand hoperand).2
      fun x hx => hfloats x (hmem "value" operand.toJson (by simp [hoperand]) x hx)
  rw [read?, hparts]
  simp +contextual [hfind, List.lookup_cons, choice?_toDoc, hvalue]

end Filter

/-! ## Sorts, searches and pages -/

@[simp]
theorem Direction.find?_name (direction : Direction) :
    Direction.all.find? (·.name == direction.name) = some direction := by
  cases direction <;> rfl

@[simp]
theorem NullPlacement.find?_name (nulls : NullPlacement) :
    NullPlacement.all.find? (·.name == nulls.name) = some nulls := by
  cases nulls <;> rfl

@[simp]
theorem SearchMode.find?_name (mode : SearchMode) :
    SearchMode.all.find? (·.name == mode.name) = some mode := by
  cases mode <;> rfl

@[simp]
theorem PageDirection.find?_name (direction : PageDirection) :
    PageDirection.all.find? (·.name == direction.name) = some direction := by
  cases direction <;> rfl

theorem SortKey.read?_toDoc (sort : SortKey) : read? sort.toJson.toDoc = some sort := by
  obtain ⟨parts, hparts, hfind, -⟩ := parts?_toDoc sort.toJson
    ["field", "direction", "nulls", "context"]
    [("field", some (.text sort.field)), ("direction", some (.text sort.direction.name)),
      ("nulls", sort.nulls.map fun nulls => .text nulls.name),
      ("context", sort.context.map .text)]
    (by simp [toJson]) rfl (by decide)
  rw [read?, hparts]
  simp [hfind, List.lookup_cons, choice?_toDoc]

@[simp]
theorem Search.nullable?_toDoc {α : Type} {read : Json.Doc → Option α} (search : Search) :
    nullable? read search.toJson.toDoc = (read search.toJson.toDoc).map some := rfl

theorem Search.read?_toDoc (search : Search) : read? search.toJson.toDoc = some search := by
  obtain ⟨parts, hparts, hfind, -⟩ := parts?_toDoc search.toJson ["term", "fields", "mode"]
    [("term", some (.text search.term)), ("fields", search.fields.map Json.ofTexts),
      ("mode", search.mode.map fun mode => .text mode.name)]
    (by simp [toJson]) rfl (by decide)
  rw [read?, hparts]
  simp [hfind, List.lookup_cons, choice?_toDoc]

theorem PageRequest.read?_toDoc (page : PageRequest) : read? page.toJson.toDoc = some page := by
  obtain ⟨parts, hparts, hfind, -⟩ := parts?_toDoc page.toJson
    ["direction", "after", "before", "limit"]
    [("direction", some (.text page.direction.name)), ("after", page.after.map .text),
      ("before", page.before.map .text), ("limit", some (.ofNat page.limit.toNat))]
    (by simp [toJson]) rfl (by decide)
  rw [read?, hparts]
  simp [hfind, List.lookup_cons, choice?_toDoc]

/-! ## Contexts -/

namespace Context

/-- Whether the objects that a context keeps as they are, are plain in a document. -/
def keepsPlain (doc : Json.Doc) : Bool :=
  partIs memberNames "viewPreferences" Json.Doc.isPlainBelow doc &&
    partIs memberNames "session" Json.Doc.isPlainBelow doc

/-- Whether a context has the form that reading gives it. -/
structure IsNormal (context : Context) : Prop where
  filters : ∀ filter ∈ context.filters, filter.IsNormal
  viewPreferences : KeepsMembers 1 context.viewPreferences
  session : KeepsMembers 1 context.session

/-- The filters of a context are read from documents of their own. -/
theorem isNormal_filters_of_read? {σ : Type} [JsonDocument σ] {doc : σ} {context : Context}
    (hread : read? doc = some context) : ∀ filter ∈ context.filters, filter.IsNormal := by
  obtain ⟨parts, -, hread⟩ := Option.bind_eq_some_iff.mp hread
  obtain ⟨listCode, -, hread⟩ := Option.bind_eq_some_iff.mp hread
  obtain ⟨filters, hfilters, hread⟩ := Option.bind_eq_some_iff.mp hread
  obtain ⟨sorts, -, hread⟩ := Option.bind_eq_some_iff.mp hread
  obtain ⟨page, -, hread⟩ := Option.bind_eq_some_iff.mp hread
  obtain ⟨search, -, hread⟩ := Option.bind_eq_some_iff.mp hread
  obtain ⟨viewPreferences, -, hread⟩ := Option.bind_eq_some_iff.mp hread
  obtain ⟨session, -, hread⟩ := Option.bind_eq_some_iff.mp hread
  cases hread
  intro filter hfilter
  obtain rfl | ⟨part, -, hlist⟩ := exists_of_withDefault hfilters
  · cases hfilter
  · obtain ⟨items, -, item, -, hitem⟩ := exists_of_list? hlist hfilter
    exact Filter.isNormal_of_read? hitem

theorem isNormal_of_read? {doc : Json.Doc} {context : Context} (hread : read? doc = some context)
    (hplain : keepsPlain doc = true) : context.IsNormal := by
  have hfilters := isNormal_filters_of_read? hread
  obtain ⟨parts, hparts, hread⟩ := Option.bind_eq_some_iff.mp hread
  obtain ⟨listCode, -, hread⟩ := Option.bind_eq_some_iff.mp hread
  obtain ⟨filters, -, hread⟩ := Option.bind_eq_some_iff.mp hread
  obtain ⟨sorts, -, hread⟩ := Option.bind_eq_some_iff.mp hread
  obtain ⟨page, -, hread⟩ := Option.bind_eq_some_iff.mp hread
  obtain ⟨search, -, hread⟩ := Option.bind_eq_some_iff.mp hread
  obtain ⟨viewPreferences, hviewPreferences, hread⟩ := Option.bind_eq_some_iff.mp hread
  obtain ⟨session, hsession, hread⟩ := Option.bind_eq_some_iff.mp hread
  cases hread
  obtain ⟨hview, hkept⟩ := Bool.and_eq_true_iff.mp hplain
  exact ⟨hfilters, keepsMembers_of_optional (by decide) hview hparts hviewPreferences,
    keepsMembers_of_optional (by decide) hkept hparts hsession⟩

theorem read?_toDoc {context : Context} (hnormal : context.IsNormal)
    (hfloats : ∀ x ∈ context.toJson.floats, x.IsReadBack) :
    read? context.toJson.toDoc = some context := by
  obtain ⟨parts, hparts, hfind, hmem⟩ := parts?_toDoc context.toJson memberNames
    [("listCode", context.listCode.map .text),
      ("filters", some (.array (context.filters.map Filter.toJson))),
      ("sorts", some (.array (context.sorts.map SortKey.toJson))),
      ("pagination", some context.page.toJson), ("search", context.search.map Search.toJson),
      ("viewPreferences", context.viewPreferences.map .object),
      ("session", context.session.map .object)]
    (by simp [toJson]) rfl (by decide)
  have hfilters : list? Filter.read? (Json.array (context.filters.map Filter.toJson)).toDoc =
      some context.filters := by
    refine list?_toDoc fun filter hfilter => Filter.read?_toDoc (hnormal.filters filter hfilter) ?_
    exact fun x hx => hfloats x (hmem "filters" _ (by simp) x
      (Json.mem_floats_of_mem_array (List.mem_map_of_mem hfilter) hx))
  have hsorts : list? SortKey.read? (Json.array (context.sorts.map SortKey.toJson)).toDoc =
      some context.sorts := list?_toDoc fun sort _ => SortKey.read?_toDoc sort
  have hviewPreferences : ∀ members, context.viewPreferences = some members →
      jsonObject? 1 (Json.object members).toDoc = some members := fun members hmembers =>
    jsonObject?_toDoc (by decide) (hnormal.viewPreferences members hmembers)
      fun x hx => hfloats x (hmem "viewPreferences" _ (by simp [hmembers]) x hx)
  have hsession : ∀ members, context.session = some members →
      jsonObject? 1 (Json.object members).toDoc = some members := fun members hmembers =>
    jsonObject?_toDoc (by decide) (hnormal.session members hmembers)
      fun x hx => hfloats x (hmem "session" _ (by simp [hmembers]) x hx)
  rw [read?, hparts]
  simp +contextual [hfind, List.lookup_cons, hfilters, hsorts, PageRequest.read?_toDoc,
    Search.read?_toDoc, hviewPreferences, hsession]

end Context

end ListQuery
