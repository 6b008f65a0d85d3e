import ListQuery.Proofs.Json.Value
import ListQuery.Request

/-!
# A context and its text mean the same

A request gives a context either as an object or as the text of one.  The two differ in how
the members of the context are found and in nothing else.  So a text gives the context that
its value gives, or the request is rejected for the same reason (`Context.ofGiven_text`).

An object that is read back from its text may therefore be replaced by this text, alone and
in a whole request (`Request.ofGiven_render`).  `Json.read?_render` says which objects are.
-/

namespace ListQuery

/-! ## Texts with a value are not blank -/

theorem Text.isDigit_of_isBlank {c : Char} (hc : Text.isBlank c = true) : c.isDigit = false := by
  rw [← Bool.not_eq_true]
  intro hdigit
  have hlower : 48 ≤ c.toNat := (Char.isDigit_iff_toNat.mp hdigit).1
  have hupper : c.toNat ≤ 57 := (Char.isDigit_iff_toNat.mp hdigit).2
  simp only [Text.isBlank, Bool.or_eq_true, Bool.and_eq_true, decide_eq_true_eq,
    beq_iff_eq] at hc
  omega

theorem Json.Doc.value?_of_isBlank {c : Char} (hc : Text.isBlank c = true) (fuel : Nat)
    (rest : List Char) : value? fuel (c :: rest) = none := by
  have hne : ∀ other : Char, Text.isBlank other = false → c ≠ other := Text.ne_of_class hc
  cases fuel with
  | zero => rfl
  | succ fuel =>
      have hdigits : digits (c :: rest) = ([], c :: rest) := by
        simp [digits, List.span_eq_takeWhile_dropWhile, Text.isDigit_of_isBlank hc]
      have hnumeral : numeral? (c :: rest) = none := by
        unfold numeral?
        split
        next heq => exact absurd (List.cons.inj heq).1 (hne '-' rfl)
        next => rw [unsignedNumeral?, whole?, hdigits]; rfl
      -- A blank is none of the characters that a value begins with.
      unfold value?
      split
      next heq => exact absurd (List.cons.inj heq).1 (hne _ rfl)
      next heq => exact absurd (List.cons.inj heq).1 (hne _ rfl)
      next heq => exact absurd (List.cons.inj heq).1 (hne _ rfl)
      next heq => exact absurd (List.cons.inj heq).1 (hne _ rfl)
      next heq => exact absurd (List.cons.inj heq).1 (hne _ rfl)
      next heq => exact absurd (List.cons.inj heq).1 (hne _ rfl)
      next => rw [hnumeral]; rfl

/-- A text with a value is not blank. -/
theorem Json.isBlank_of_read? {text : String} {value : Json} (hread : read? text = some value) :
    text.toList.all Text.isBlank = false := by
  rw [← Bool.not_eq_true]
  intro hblank
  have hskipped : ∀ c ∈ Doc.skipBlank text.toList, Text.isBlank c = true := fun c hc =>
    List.all_eq_true.mp hblank c ((List.dropWhile_sublist _).subset hc)
  have hvalue : ∀ fuel, Doc.value? fuel (Doc.skipBlank text.toList) = none := by
    intro fuel
    cases hchars : Doc.skipBlank text.toList with
    | nil => cases fuel <;> rfl
    | cons c rest =>
        exact Doc.value?_of_isBlank (hskipped c (hchars ▸ List.mem_cons_self)) fuel rest
  rw [read?, readWithin?, Doc.read?, hvalue] at hread
  cases hread

/-! ## Contexts -/

theorem Wire.uint32?_ofNat (n : UInt32) : Wire.uint32? (Json.ofNat n.toNat) = some n := by
  have hbound := n.toNat_lt
  have hmod : n.toNat % 0x10000000000000000 = n.toNat := Nat.mod_eq_of_lt (by omega)
  show (Wire.natBelow? 0x100000000 (Json.ofNat n.toNat)).map UInt32.ofNat = some n
  unfold Wire.natBelow? Json.ofNat
  simp only [Wire.Document.view?, hmod]
  simp [hbound]

namespace Context

variable {text : String} {members : List (String × Json)}

/-- The members are all that counts of what a context is given by. -/
theorem ofGiven_of_givenMembers {given : Option Json}
    (hgiven : givenMembers given = .ok members) (limit : UInt32) :
    ofGiven given limit =
      (Context.read? (Json.object (membersWithLimit limit members))).elim
        (.error .contextMismatch) .ok := by
  simp only [ofGiven, hgiven, bind, Except.bind]
  cases Context.read? (Json.object (membersWithLimit limit members)) <;> rfl

theorem givenMembers_text (hread : Json.read? text = some (.object members)) :
    givenMembers (some (.text text)) = .ok members := by
  simp only [givenMembers, Json.isBlank_of_read? hread, hread]
  rfl

/-- A text gives the context that its value gives. -/
theorem ofGiven_text (hread : Json.read? text = some (.object members)) (limit : UInt32) :
    ofGiven (some (.text text)) limit = ofGiven (some (.object members)) limit := by
  have hobject : givenMembers (some (.object members)) = .ok members := rfl
  rw [ofGiven_of_givenMembers (givenMembers_text hread), ofGiven_of_givenMembers hobject]

/-- The members of an object can be rejected for their form only. -/
theorem eq_contextMismatch_of_ofGiven {limit : UInt32} {fault : RequestFault}
    (hfault : ofGiven (some (.object members)) limit = .error fault) :
    fault = .contextMismatch := by
  have hobject : givenMembers (some (.object members)) = .ok members := rfl
  rw [ofGiven_of_givenMembers hobject] at hfault
  cases hcontext : Context.read? (Json.object (membersWithLimit limit members)) <;>
    rw [hcontext] at hfault <;> cases hfault
  rfl

end Context

/-! ## Requests -/

namespace Request

variable {text : String} {members : List (String × Json)}

theorem member?_append_cons {name other : String} {value : Json}
    (before after : List (String × Json)) :
    Json.member? name (before ++ (other, value) :: after) =
      (Json.member? name before).or
        (if name = other then some value else Json.member? name after) := by
  unfold Json.member?
  rw [List.lookup_append, List.lookup_cons]
  by_cases heq : name = other
  · simp [heq]
  · have hbeq : (name == other) = false := beq_eq_false_iff_ne.mpr heq
    simp [heq, hbeq]

/-- The text of a context may stand in a request in place of the context. -/
theorem ofJson_text (hread : Json.read? text = some (.object members))
    (before after : List (String × Json)) (limit : UInt32) :
    ofJson (.object (before ++ ("context", .text text) :: after)) limit =
      ofJson (.object (before ++ ("context", .object members) :: after)) limit := by
  have hcode : Json.member? "appCode" (before ++ ("context", .text text) :: after) =
      Json.member? "appCode" (before ++ ("context", .object members) :: after) := by
    simp [member?_append_cons]
  have hcontext : Context.ofGiven
      (Json.member? "context" (before ++ ("context", .text text) :: after)) limit =
        Context.ofGiven
          (Json.member? "context" (before ++ ("context", .object members) :: after)) limit := by
    rw [member?_append_cons, member?_append_cons, if_pos rfl, if_pos rfl]
    cases Json.member? "context" before with
    | some value => rfl
    | none => exact Context.ofGiven_text hread limit
  simp only [ofJson, hcode, hcontext]

/-- An object and the text that it is written as mean the same as a context, as long as the
object is read back from this text: either gives the same context, or is rejected for the
same reason, which the field named `context` is blamed for.  This also holds of a request
around the context, whether given by its value or as a text itself. -/
theorem ofGiven_render {members : List (String × Json)}
    (hread : Json.read? (Json.object members).render = some (.object members)) (limit : UInt32) :
    Context.ofGiven (some (.object members)) limit =
        Context.ofGiven (some (.text (Json.object members).render)) limit ∧
      (∀ fault, Context.ofGiven (some (.object members)) limit = .error fault →
        fault.rejection.field = some "context") ∧
      (∀ before after : List (String × Json),
        ofJson (.object (before ++ ("context", .object members) :: after)) limit =
          ofJson (.object (before ++ ("context", .text (Json.object members).render) :: after))
            limit) ∧
      ∀ (before after : List (String × Json)) (body bodyOfText : String),
        Json.read? body = some (.object (before ++ ("context", .object members) :: after)) →
        Json.read? bodyOfText =
          some (.object (before ++ ("context", .text (Json.object members).render) :: after)) →
        ofText body limit = ofText bodyOfText limit := by
  refine ⟨(Context.ofGiven_text hread limit).symm, fun fault hfault => ?_,
    fun before after => (ofJson_text hread before after limit).symm,
    fun before after body bodyOfText hbody htext => ?_⟩
  · rw [Context.eq_contextMismatch_of_ofGiven hfault]
    rfl
  · rw [ofText, ofText, hbody, htext]
    exact (ofJson_text hread before after limit).symm

/-- The members of a context that asks for a page without saying how long it is. -/
def pagedMembers : List (String × Json) :=
  [("pagination", .object [("after", .text "\"\n"), ("direction", .text "backward")]),
    ("search", .null)]

theorem ofGiven_render_paged :
    Json.read? (Json.object pagedMembers).render = some (.object pagedMembers) ∧
      Context.ofGiven (some (.text (Json.object pagedMembers).render)) 7 =
        .ok { Context.standard with page := ⟨.backward, some "\"\n", none, 7⟩ } := by
  have hpage : Json.IsNormal 126
      (.object [("after", .text "\"\n"), ("direction", .text "backward")]) := by
    refine .object ?_ (by decide) ?_
    · exact List.pairwise_pair.mpr (by decide)
    · simp [Json.IsNormal.text]
  have hnormal : (Json.object pagedMembers).IsNormal Json.maximumNesting := by
    refine .object ?_ (by decide) ?_
    · exact List.pairwise_pair.mpr (by decide)
    · simp [pagedMembers, hpage, Json.IsNormal.null]
  have hread := Json.read?_render hnormal fun x hx => by
    simp [pagedMembers, Json.floats, Json.membersFloats] at hx
  refine ⟨hread, (ofGiven_render hread 7).1.symm.trans ?_⟩
  rfl

end Request

end ListQuery
