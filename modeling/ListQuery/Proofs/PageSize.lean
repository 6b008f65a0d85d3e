import ListQuery.Proofs.Request
import ListQuery.Proofs.Wire.Document

/-!
# The page size of a request

The configured page size is put among the members of a context before these are read.  What is
read from an object depends on one of its members only through what this member is read as
(`PageRequest.read?_insertMember`, `Context.read?_insertMember`), so the configured size turns
up in the context as the page size and nowhere else.

A size that a caller gives stays as it is, and the configured one is not used.  A page request
may also be given by position, as an array of its members.  If there is no size in it, the page
has the standard size, whatever is configured.
-/

namespace ListQuery

open Wire

/-! ## Putting a member in -/

namespace Json

variable {α : Type} {name other : String} {value : α} {members : List (String × α)}

theorem lookup_insertMember_self : (insertMember name value members).lookup name = some value := by
  induction members with
  | nil => simp [insertMember]
  | cons entry rest ih =>
      rw [insertMember]
      split
      · simp
      · split
        · simp
        next hother => rw [List.lookup_cons, beq_false_of_ne hother, ih]

theorem lookup_insertMember_of_ne (hother : other ≠ name) :
    (insertMember name value members).lookup other = members.lookup other := by
  induction members with
  | nil => simp [insertMember, hother]
  | cons entry rest ih =>
      rw [insertMember]
      split
      · rw [List.lookup_cons, beq_false_of_ne hother]
      · split
        next hname =>
          rw [List.lookup_cons, List.lookup_cons, ← hname, beq_false_of_ne hother]
        next => rw [List.lookup_cons, List.lookup_cons, ih]

/-- The names do not depend on what is put in. -/
theorem map_fst_insertMember (value another : α) (members : List (String × α)) :
    (insertMember name value members).map Prod.fst =
      (insertMember name another members).map Prod.fst := by
  induction members with
  | nil => rfl
  | cons entry rest ih =>
      simp only [insertMember]
      split
      · rfl
      · split
        · rfl
        · rw [List.map_cons, List.map_cons, ih]

end Json

/-- An object gives its members as they are, unless a declared one is repeated. -/
theorem Wire.parts?_object (names : List String) (members : List (String × Json)) :
    parts? names (Json.object members) =
      if repeatsDeclared names (members.map Prod.fst) then none else some ⟨members, false⟩ := by
  have hmembers : (members.map fun member => (some member.1, member.2)).mapM
      (fun member : Option String × Json => member.1.map (·, member.2)) = some members :=
    mapM_map_eq_some fun _ _ => rfl
  unfold parts?
  simp only [Document.view?]
  rw [hmembers]
  simp [Document.isIgnorable]

section

variable {name other : String} {value : Json} {members : List (String × Json)}

theorem Wire.find?_insertMember_self :
    Parts.find? ⟨Json.insertMember name value members, false⟩ name = some value :=
  Json.lookup_insertMember_self

theorem Wire.find?_insertMember_of_ne (hother : other ≠ name) :
    Parts.find? ⟨Json.insertMember name value members, false⟩ other = members.lookup other :=
  Json.lookup_insertMember_of_ne hother

end

/-- A page is read from an object with a size in it as it is read without one, and has the
size. -/
theorem PageRequest.read?_insertMember (members : List (String × Json)) (value : Json) :
    PageRequest.read? (Json.object (Json.insertMember "limit" value members)) =
      (uint32? value).bind fun limit =>
        (PageRequest.read? (Json.object (Json.insertMember "limit" (Json.ofNat 0) members))).map
          fun page => { page with limit := limit } := by
  have hzero : uint32? (Json.ofNat 0) = some 0 := uint32?_ofNat 0
  unfold PageRequest.read?
  rw [parts?_object, parts?_object, Json.map_fst_insertMember value (Json.ofNat 0)]
  split
  · cases uint32? value <;> rfl
  · simp (disch := decide) only [bind, pure, Option.bind_some, Parts.optional, Parts.withDefault,
      find?_insertMember_self, find?_insertMember_of_ne, hzero]
    cases uint32? value with
    | none => simp only [Option.bind_none, Option.bind_fun_none]
    | some limit =>
        simp only [Option.bind_some, Option.map_bind, Function.comp_def, Option.map_some]

/-- A context is read from an object with a page request in it as it is read with an empty one,
and has the page that is read from the request. -/
theorem Context.read?_insertMember (members : List (String × Json)) (value : Json) :
    Context.read? (Json.object (Json.insertMember "pagination" value members)) =
      (PageRequest.read? value).bind fun page =>
        (Context.read? (Json.object (Json.insertMember "pagination" (.object []) members))).map
          fun context => { context with page := page } := by
  have hempty : PageRequest.read? (Json.object []) = some PageRequest.standard := rfl
  unfold Context.read?
  rw [parts?_object, parts?_object, Json.map_fst_insertMember value (.object [])]
  split
  · cases PageRequest.read? value <;> rfl
  · simp (disch := decide) only [bind, pure, Option.bind_some, Parts.optional, Parts.withDefault,
      find?_insertMember_self, find?_insertMember_of_ne, hempty]
    cases PageRequest.read? value with
    | none => simp only [Option.bind_none, Option.bind_fun_none]
    | some page =>
        simp only [Option.bind_some, Option.map_bind, Function.comp_def, Option.map_some]

/-! ## What is read as a page size -/

theorem Wire.eq_number_of_view? {value : Json} {number : Json.Number}
    (hview : Document.view? value = some (.number number)) : value = .number number := by
  cases value <;> cases hview
  rfl

theorem Wire.eq_number_of_uint32? {value : Json} {n : UInt32} (hread : uint32? value = some n) :
    ∃ fits, value = .number (.integer n.toNat fits) := by
  obtain ⟨bound, hbound, rfl⟩ := Option.map_eq_some_iff.mp hread
  unfold natBelow? at hbound
  split at hbound
  next whole fits hview =>
    split at hbound
    next hrange =>
      cases hbound
      have hwhole : ((UInt32.ofNat whole.toNat).toNat : Int) = whole := by
        rw [UInt32.toNat_ofNat_of_lt' hrange.2]
        exact Int.toNat_of_nonneg hrange.1
      rw [eq_number_of_view? hview]
      simp only [hwhole]
      exact ⟨fits, trivial⟩
    next => cases hbound
  next => cases hbound

namespace Context

variable {members : List (String × Json)} {context : Context}

/-- The page of a context is read from its page request. -/
theorem page_of_read? (hread : Context.read? (Json.object members) = some context) :
    (⟨members, false⟩ : Parts Json).withDefault "pagination" .standard PageRequest.read? =
      some context.page := by
  unfold Context.read? at hread
  rw [parts?_object] at hread
  split at hread
  · cases hread
  · simp only [bind, pure, Option.bind_some, Option.bind_eq_some_iff] at hread
    obtain ⟨_, -, _, -, _, -, page, hpage, _, -, _, -, _, -, hcontext⟩ := hread
    cases hcontext
    exact hpage

end Context

/-- The size of a page is read from its own member, which may be given by position. -/
theorem PageRequest.limit_of_read? {value : Json} {page : PageRequest}
    (hread : PageRequest.read? value = some page) :
    ∃ parts, parts? ["direction", "after", "before", "limit"] value = some parts ∧
      parts.withDefault "limit" standardPageSize uint32? = some page.limit := by
  obtain ⟨parts, hparts, hread⟩ := Option.bind_eq_some_iff.mp hread
  simp only [bind, pure, Option.bind_eq_some_iff] at hread
  obtain ⟨_, -, _, -, _, -, limit, hlimit, hpage⟩ := hread
  cases hpage
  exact ⟨parts, hparts, hlimit⟩

theorem PageRequest.limit_of_read?_object {members : List (String × Json)} {page : PageRequest}
    (hread : PageRequest.read? (Json.object members) = some page) :
    (⟨members, false⟩ : Parts Json).withDefault "limit" standardPageSize uint32? =
      some page.limit := by
  obtain ⟨parts, hparts, hlimit⟩ := limit_of_read? hread
  rw [parts?_object] at hparts
  split at hparts <;> cases hparts
  exact hlimit

theorem PageRequest.limit_of_read?_array {items : List Json} {page : PageRequest}
    (hread : PageRequest.read? (Json.array items) = some page) :
    (match items[3]? with
      | some value => uint32? value
      | none => some standardPageSize) = some page.limit := by
  obtain ⟨parts, hparts, hlimit⟩ := limit_of_read? hread
  unfold parts? at hparts
  simp only [Document.view?] at hparts
  split at hparts <;> cases hparts
  rw [← hlimit]
  rcases items with _ | ⟨_, _ | ⟨_, _ | ⟨_, _ | ⟨_, _⟩⟩⟩⟩ <;> rfl

/-! ## The page size of a context -/

namespace Context

variable {given : Option Json} {members : List (String × Json)} {limit : UInt32}
variable {context : Context}

/-- The page size that a caller gives among the members of a context, if there is one: a member
of the page request, or its fourth item. -/
def limitGiven? (members : List (String × Json)) : Option Json :=
  match Json.member? "pagination" members with
  | some (.object page) => Json.member? "limit" page
  | some (.array items) => items[3]?
  | _ => none

/-- Whether the page request is given by position. -/
def isPagePositional (members : List (String × Json)) : Bool :=
  match Json.member? "pagination" members with
  | some (.array _) => true
  | _ => false

theorem ofGiven_eq_ok_iff (hgiven : givenMembers given = .ok members) :
    ofGiven given limit = .ok context ↔
      Context.read? (Json.object (membersWithLimit limit members)) = some context := by
  rw [ofGiven_of_givenMembers hgiven]
  cases Context.read? (Json.object (membersWithLimit limit members)) <;> simp

theorem exists_givenMembers (hcontext : ofGiven given limit = .ok context) :
    ∃ members, givenMembers given = .ok members := by
  cases hmembers : givenMembers given with
  | ok members => exact ⟨members, rfl⟩
  | error fault =>
      simp only [ofGiven, hmembers, bind, Except.bind] at hcontext
      cases hcontext

/-- The page request that the configured size is put in, if it is put in one. -/
def unsizedPage? (members : List (String × Json)) : Option (List (String × Json)) :=
  match Json.member? "pagination" members with
  | none | some .null => some []
  | some (.object page) => if (Json.member? "limit" page).isSome then none else some page
  | some _ => none

theorem membersWithLimit_of_unsized {page : List (String × Json)}
    (hpage : unsizedPage? members = some page) :
    limitGiven? members = none ∧ isPagePositional members = false ∧
      ∀ limit, membersWithLimit limit members = Json.insertMember "pagination"
        (.object (Json.insertMember "limit" (.ofNat limit.toNat) page)) members := by
  unfold unsizedPage? at hpage
  unfold limitGiven? isPagePositional membersWithLimit
  split at hpage
  next hnone =>
    cases hpage
    rw [hnone]
    exact ⟨rfl, rfl, fun _ => rfl⟩
  next hnull =>
    cases hpage
    rw [hnull]
    exact ⟨rfl, rfl, fun _ => rfl⟩
  next given hgiven =>
    cases hsize : Json.member? "limit" given with
    | some size => simp [hsize] at hpage
    | none =>
        simp only [hsize, Option.isSome_none, Bool.false_eq_true, if_false] at hpage
        cases hpage
        simp [hgiven, hsize, pageWithLimit]
  next => cases hpage

/-- Where it is not put in, there is a size already or the page request is no object. -/
theorem membersWithLimit_of_not_unsized (hpage : unsizedPage? members = none) :
    ∃ kept value, (∀ limit, membersWithLimit limit members = kept) ∧
      kept.lookup "pagination" = some value ∧
      ∀ page, PageRequest.read? value = some page →
        (∀ size, limitGiven? members = some size → uint32? size = some page.limit) ∧
        (limitGiven? members = none →
          isPagePositional members = true ∧ page.limit = standardPageSize) := by
  unfold unsizedPage? at hpage
  unfold limitGiven? isPagePositional membersWithLimit
  cases hvalue : Json.member? "pagination" members with
  | none => simp [hvalue] at hpage
  | some value =>
      rw [hvalue] at hpage
      cases value with
      | null => cases hpage
      | object given =>
          cases hsize : Json.member? "limit" given with
          | none => simp [hsize] at hpage
          | some size =>
              -- The size that is given is kept.
              simp only [hsize, pageWithLimit]
              refine ⟨Json.insertMember "pagination" (.object given) members, .object given,
                fun _ => rfl, Json.lookup_insertMember_self,
                fun page hread => ⟨fun other hother => ?_, nofun⟩⟩
              have hlimit := PageRequest.limit_of_read?_object hread
              rw [Parts.withDefault, Parts.find?, show given.lookup "limit" = some size from hsize]
                at hlimit
              cases hother
              exact hlimit
      | array items =>
          -- A page by position has no name for its size.
          refine ⟨members, .array items, fun _ => rfl, hvalue, fun page hread => ?_⟩
          have hlimit := PageRequest.limit_of_read?_array hread
          refine ⟨fun size hsize => ?_, fun hnone => ⟨rfl, ?_⟩⟩
          · simpa only [hsize] using hlimit
          · simp only [hnone] at hlimit
            exact (Option.some.inj hlimit).symm
      | bool | number | text =>
          -- Anything else is no page at all.
          exact ⟨members, _, fun _ => rfl, hvalue, fun page hread => by cases hread⟩

/-- Where the configured size is put in, it is the page size and nothing else depends on it. -/
theorem read?_of_limit_put_in (page : List (String × Json))
    (hmembers : ∀ limit, membersWithLimit limit members = Json.insertMember "pagination"
      (.object (Json.insertMember "limit" (.ofNat limit.toNat) page)) members)
    (hread : Context.read? (Json.object (membersWithLimit limit members)) = some context) :
    context.page.limit = limit ∧
      ∀ other, Context.read? (Json.object (membersWithLimit other members)) =
        some { context with page := { context.page with limit := other } } := by
  have hlimit : ∀ limit, Context.read? (Json.object (membersWithLimit limit members)) = _ :=
    fun limit => by
      rw [hmembers, Context.read?_insertMember, PageRequest.read?_insertMember, uint32?_ofNat,
        Option.bind_some]
  rw [hlimit] at hread
  obtain ⟨page, hpage, hcontext⟩ := Option.bind_eq_some_iff.mp hread
  obtain ⟨unlimited, hunlimited, rfl⟩ := Option.map_eq_some_iff.mp hpage
  obtain ⟨unpaged, hunpaged, rfl⟩ := Option.map_eq_some_iff.mp hcontext
  refine ⟨rfl, fun other => ?_⟩
  rw [hlimit, hunlimited, hunpaged]
  rfl

/-- A page size that the caller gives is kept exactly, and the configured one is not used.
Without one, the configured size is the size of the page, and nothing else depends on it, except
that a page request by position has the standard size then. -/
theorem pageSize_of_ofGiven (hcontext : ofGiven given limit = .ok context) :
    ∃ members, givenMembers given = .ok members ∧
      (∀ value, limitGiven? members = some value →
        (∃ fits, value = .number (.integer context.page.limit.toNat fits)) ∧
          ∀ other, ofGiven given other = .ok context) ∧
      (limitGiven? members = none → isPagePositional members = false →
        context.page.limit = limit ∧ ∀ other, ofGiven given other =
          .ok { context with page := { context.page with limit := other } }) ∧
      (limitGiven? members = none → isPagePositional members = true →
        context.page.limit = standardPageSize ∧ ∀ other, ofGiven given other = .ok context) := by
  obtain ⟨members, hgiven⟩ := exists_givenMembers hcontext
  refine ⟨members, hgiven, ?_⟩
  rw [ofGiven_eq_ok_iff hgiven] at hcontext
  simp only [ofGiven_eq_ok_iff hgiven]
  cases hpage : unsizedPage? members with
  | some page =>
      obtain ⟨hnone, hnamed, hmembers⟩ := membersWithLimit_of_unsized hpage
      rw [hnone, hnamed]
      refine ⟨fun value hsome => ?_, fun _ _ => read?_of_limit_put_in page hmembers hcontext,
        fun _ hpositional => ?_⟩
      · cases hsome
      · cases hpositional
  | none =>
      obtain ⟨kept, value, hmembers, hvalue, hsize⟩ := membersWithLimit_of_not_unsized hpage
      simp only [hmembers] at hcontext ⊢
      have hread := page_of_read? hcontext
      simp only [Parts.withDefault, Parts.find?, hvalue] at hread
      obtain ⟨hsome, hnone⟩ := hsize context.page hread
      refine ⟨fun size hgivenSize => ?_, fun hmissing hnamed => ?_, fun hmissing _ => ?_⟩
      · exact ⟨eq_number_of_uint32? (hsome size hgivenSize), fun _ => hcontext⟩
      · rw [(hnone hmissing).1] at hnamed
        cases hnamed
      · exact ⟨(hnone hmissing).2, fun _ => hcontext⟩

/-- A context for the first page, which is given by name. -/
def firstPageByName : Json :=
  .object [("pagination", .object [("direction", .text "forward")])]

/-- The same by position. -/
def firstPageByPosition : Json :=
  .object [("pagination", .array [.text "forward"])]

/-- By name the page has the size that is configured, and another one if another is. -/
theorem pageSize_of_ofGiven_firstPageByName :
    ofGiven (some firstPageByName) 7 =
      .ok { Context.standard with page := { PageRequest.standard with limit := 7 } } ∧
    ofGiven (some firstPageByName) 9 =
      .ok { Context.standard with page := { PageRequest.standard with limit := 9 } } := by
  have hcontext : ofGiven (some firstPageByName) 7 =
      .ok { Context.standard with page := { PageRequest.standard with limit := 7 } } := rfl
  obtain ⟨members, hmembers, -, hmissing, -⟩ := pageSize_of_ofGiven hcontext
  cases hmembers
  exact ⟨hcontext, (hmissing rfl rfl).2 9⟩

/-- By position it has the standard size although another is configured. -/
theorem not_pageSize_firstPageByPosition : ¬∀ given limit members context,
    givenMembers given = .ok members → limitGiven? members = none →
      ofGiven given limit = .ok context → context.page.limit = limit := by
  intro hall
  have hlimit := hall (some firstPageByPosition) 7 _ Context.standard rfl rfl rfl
  cases hlimit

end Context

end ListQuery
