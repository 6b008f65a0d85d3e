import ListQuery.Proofs.Json.Value

/-!
# Structures are read back as they are written

What is written of a structure is an object with the members that have a value, in their
order (`present`).  Its document gives every member by name, and gives nothing for a member
that was left out (`parts?_toDoc`).  So a structure is read back if each of its members
is.
-/

namespace ListQuery.Wire

open Json

section

variable {α : Type}

/-! ## Leaves -/

@[simp]
theorem text?_toDoc (value : String) : text? (Json.text value).toDoc = some value := by
  -- As a term this would be a definitional step of `simp`, which discharges no condition.
  rfl

@[simp]
theorem bool?_toDoc (value : Bool) : bool? (Json.bool value).toDoc = some value := rfl

theorem view?_toDoc_ofNat {n : Nat} (hn : n < 0x10000000000000000) :
    ∃ fits, Document.view? (Json.ofNat n).toDoc = some (.number (.integer n fits)) := by
  have hmod : n % 0x10000000000000000 = n := Nat.mod_eq_of_lt hn
  refine ⟨by omega, ?_⟩
  have hnumber : (Json.ofNat n).toDoc =
      .numeral (Number.numeral (.integer n (by omega))) := by
    simp only [Json.ofNat, hmod, toDoc]
  rw [hnumber]
  exact congrArg (Option.map View.number) (Number.toNumber?_numeral_integer _)

@[simp]
theorem uint32?_toDoc (n : UInt32) : uint32? (Json.ofNat n.toNat).toDoc = some n := by
  have hbound := n.toNat_lt
  obtain ⟨fits, hview⟩ := view?_toDoc_ofNat (n := n.toNat) (by omega)
  unfold uint32? natBelow?
  rw [hview]
  simp [hbound]

@[simp]
theorem uint64?_toDoc (n : UInt64) : uint64? (Json.ofNat n.toNat).toDoc = some n := by
  have hbound := n.toNat_lt
  obtain ⟨fits, hview⟩ := view?_toDoc_ofNat (n := n.toNat) (by omega)
  unfold uint64? natBelow?
  rw [hview]
  simp [hbound]

/-- A choice is read back if its name is the name of no other. -/
theorem choice?_toDoc {values : List α} {name : α → String} {value : α}
    (hfind : values.find? (name · == name value) = some value) :
    choice? values name (Json.text (name value)).toDoc = some value := hfind

theorem mapM_eq_some_map {β γ : Type} {f : β → Option γ} {g : β → γ} {items : List β}
    (hitems : ∀ item ∈ items, f item = some (g item)) : items.mapM f = some (items.map g) := by
  induction items with
  | nil => rfl
  | cons item rest ih =>
      rw [List.mapM_cons, hitems item List.mem_cons_self,
        ih fun other hother => hitems other (List.mem_cons_of_mem _ hother)]
      rfl

/-- Values that are read back one by one are read back together. -/
theorem mapM_map_eq_some {β γ : Type} {read : β → Option γ} {write : γ → β} {values : List γ}
    (hvalues : ∀ value ∈ values, read (write value) = some value) :
    (values.map write).mapM read = some values := by
  rw [List.mapM_map]
  exact (mapM_eq_some_map (g := id) hvalues).trans (congrArg some (List.map_id values))

theorem list?_toDoc {read : Doc → Option α} {write : α → Json} {values : List α}
    (hread : ∀ value ∈ values, read (write value).toDoc = some value) :
    list? read (Json.array (values.map write)).toDoc = some values := by
  rw [toDoc, itemsToDoc_eq_map, List.map_map]
  exact mapM_map_eq_some hread

@[simp]
theorem list?_text?_toDoc (texts : List String) :
    list? text? (Json.ofTexts texts).toDoc = some texts :=
  list?_toDoc fun value _ => text?_toDoc value

/-! ## Members that may be null -/

variable {read : Doc → Option α}

@[simp]
theorem nullable?_text (value : String) :
    nullable? read (Json.text value).toDoc = (read (Json.text value).toDoc).map some := rfl

@[simp]
theorem nullable?_object (members : List (String × Json)) :
    nullable? read (Json.object members).toDoc = (read (Json.object members).toDoc).map some := rfl

@[simp]
theorem nullable?_ofTexts (texts : List String) :
    nullable? read (Json.ofTexts texts).toDoc = (read (Json.ofTexts texts).toDoc).map some := rfl

@[simp]
theorem nullable?_uint32?_toDoc (n : UInt32) :
    nullable? uint32? (Json.ofNat n.toNat).toDoc = some (some n) := by
  have hbound := n.toNat_lt
  obtain ⟨fits, hview⟩ := view?_toDoc_ofNat (n := n.toNat) (by omega)
  unfold nullable?
  rw [hview, uint32?_toDoc]
  rfl

@[simp]
theorem nullable?_text?_toDoc (value : Option String) :
    nullable? text? (Json.ofText? value).toDoc = some value := by
  cases value <;> rfl

/-- What is not written as null is not read as null. -/
theorem nullable?_toDoc {value : Json} (hvalue : value ≠ .null)
    (hfloats : ∀ x ∈ value.floats, x.IsReadBack) :
    nullable? read value.toDoc = (read value.toDoc).map some := by
  cases value with
  | null => exact absurd rfl hvalue
  | bool | text | array | object => rfl
  | number value =>
      have hview : Document.view? (Json.number value).toDoc = some (.number value) :=
        congrArg (Option.map View.number) (Number.toNumber?_numeral hfloats)
      rw [nullable?, hview]

/-! ## Structures -/

/-- The members that have a value. -/
def present (entries : List (String × Option Json)) : List (String × Json) :=
  entries.filterMap fun entry => entry.2.map (entry.1, ·)

@[simp]
theorem present_nil : present [] = [] := rfl

@[simp]
theorem present_cons_none (name : String) (entries : List (String × Option Json)) :
    present ((name, none) :: entries) = present entries := rfl

@[simp]
theorem present_cons_some (name : String) (value : Json) (entries : List (String × Option Json)) :
    present ((name, some value) :: entries) = (name, value) :: present entries := rfl

@[simp]
theorem present_cons_map (name : String) (write : α → Json) (value : Option α)
    (entries : List (String × Option Json)) :
    present ((name, value.map write) :: entries) =
      memberOf? name write value ++ present entries := by
  cases value <;> rfl

/-- A part that is kept as it is, is written as it is. -/
theorem present_cons_option (name : String) (value : Option Json)
    (entries : List (String × Option Json)) :
    present ((name, value) :: entries) = memberOf? name id value ++ present entries := by
  cases value <;> rfl

theorem map_fst_present_sublist (entries : List (String × Option Json)) :
    ((present entries).map Prod.fst).Sublist (entries.map Prod.fst) := by
  induction entries with
  | nil => exact List.Sublist.refl _
  | cons entry rest ih =>
      obtain ⟨name, value⟩ := entry
      cases value with
      | none => exact ih.cons name
      | some value => exact ih.cons_cons name

theorem lookup_present {entries : List (String × Option Json)}
    (hentries : (entries.map Prod.fst).Nodup) (name : String) :
    (present entries).lookup name = (entries.lookup name).join := by
  induction entries with
  | nil => rfl
  | cons entry rest ih =>
      obtain ⟨other, value⟩ := entry
      obtain ⟨hother, hrest⟩ : other ∉ rest.map Prod.fst ∧ _ := List.nodup_cons.mp hentries
      cases hname : name == other with
      | true =>
          obtain rfl := beq_iff_eq.mp hname
          cases value with
          | some value => simp
          | none =>
              -- The member was left out, and no later one has its name.
              have habsent : (present rest).lookup name = none := by
                rw [List.lookup_eq_none_iff]
                intro entry hentry
                have hmem := (map_fst_present_sublist rest).subset (List.mem_map_of_mem hentry)
                refine bne_iff_ne.mpr ?_
                rintro rfl
                exact hother hmem
              simpa using habsent
      | false =>
          cases value with
          | none => simpa [List.lookup_cons, hname] using ih hrest
          | some value => simpa [List.lookup_cons, hname] using ih hrest

theorem repeatsDeclared_of_nodup {names given : List String} (hgiven : given.Nodup) :
    repeatsDeclared names given = false := by
  induction given with
  | nil => rfl
  | cons name rest ih =>
      obtain ⟨hname, hrest⟩ := List.nodup_cons.mp hgiven
      simp [repeatsDeclared, hname, ih hrest]

theorem lookup_map_toDoc (members : List (String × Json)) (name : String) :
    (members.map fun entry => (entry.1, entry.2.toDoc)).lookup name =
      (members.lookup name).map toDoc := by
  induction members with
  | nil => rfl
  | cons entry rest ih =>
      obtain ⟨other, value⟩ := entry
      rw [List.map_cons, List.lookup_cons, List.lookup_cons, ih]
      cases name == other <;> rfl

/-- The document of an object gives the members that have a value, each by its name. -/
theorem parts?_toDoc (value : Json) (names : List String) (entries : List (String × Option Json))
    (hvalue : value = .object (present entries)) (hnames : entries.map Prod.fst = names)
    (hnodup : names.Nodup) :
    ∃ parts, parts? names value.toDoc = some parts ∧
      (∀ name, parts.find? name = (entries.lookup name).join.map toDoc) ∧
      ∀ name part, (name, some part) ∈ entries → ∀ x ∈ part.floats, x ∈ value.floats := by
  subst hnames hvalue
  -- The members of a document have names, so none is left out and none repeats.
  have hmembers : ∀ members : List (String × Json),
      (membersToDoc members).mapM (fun entry => entry.1.map (·, entry.2)) =
        some (members.map fun entry => (entry.1, entry.2.toDoc)) := by
    intro members
    rw [membersToDoc_eq_map, List.mapM_map]
    exact mapM_eq_some_map fun _ _ => rfl
  have hdeclared : ∀ members : List (String × Json),
      (members.map fun entry => (entry.1, entry.2.toDoc)).map Prod.fst = members.map Prod.fst :=
    fun members => List.map_map
  have hrepeats : repeatsDeclared (entries.map Prod.fst) ((present entries).map Prod.fst) = false :=
    repeatsDeclared_of_nodup ((map_fst_present_sublist entries).nodup hnodup)
  refine ⟨⟨(present entries).map fun entry => (entry.1, entry.2.toDoc), false⟩, ?_, ?_, ?_⟩
  · have hview : Document.view? (Json.object (present entries)).toDoc =
        some (.members (membersToDoc (present entries))) := rfl
    unfold parts?
    rw [hview]
    simp only [hmembers, Option.bind_eq_bind, Option.bind_some, hdeclared, hrepeats]
    simp [Document.isIgnorable]
  · exact fun name => (lookup_map_toDoc _ name).trans (congrArg _ (lookup_present hnodup name))
  · intro name part hpart x hx
    have hmem : (name, part) ∈ present entries :=
      List.mem_filterMap.mpr ⟨(name, some part), hpart, rfl⟩
    exact mem_floats_of_mem_object hmem hx

/-! ## Members by their names -/

namespace Parts

variable {parts : Parts Doc} {name : String}

@[simp]
theorem required_eq : parts.required name read = (parts.find? name).bind read := rfl

@[simp]
theorem withDefault_eq {standard : α} :
    parts.withDefault name standard read = ((parts.find? name).map read).getD (some standard) := by
  unfold withDefault
  cases parts.find? name <;> rfl

@[simp]
theorem optional_eq :
    parts.optional name read = ((parts.find? name).map (nullable? read)).getD (some none) :=
  withDefault_eq

theorem optionalByName_of_find? {doc : Doc} (hfind : parts.find? name = some doc) :
    parts.optionalByName name read = nullable? read doc := by
  rw [optionalByName, hfind]

/-- A member that is read back if it has a value is read back. -/
@[simp]
theorem getD_map {f : α → Option (Option α)} {value : Option α}
    (hvalue : ∀ known, value = some known → f known = some (some known)) :
    (value.map f).getD (some none) = some value := by
  cases value with
  | none => rfl
  | some known => exact hvalue known rfl

end Parts

/-! ## What a reader has read -/

theorem exists_of_mapM {β γ : Type} {f : β → Option γ} {items : List β} {values : List γ}
    (hread : items.mapM f = some values) {value : γ} (hvalue : value ∈ values) :
    ∃ item ∈ items, f item = some value := by
  induction items generalizing values with
  | nil =>
      cases hread
      cases hvalue
  | cons first rest ih =>
      rw [List.mapM_cons] at hread
      obtain ⟨known, hknown, hread⟩ := Option.bind_eq_some_iff.mp hread
      obtain ⟨others, hothers, hread⟩ := Option.bind_eq_some_iff.mp hread
      cases hread
      rcases List.mem_cons.mp hvalue with rfl | hvalue
      · exact ⟨first, List.mem_cons_self, hknown⟩
      · obtain ⟨item, hitem, hvalue⟩ := ih hothers hvalue
        exact ⟨item, List.mem_cons_of_mem _ hitem, hvalue⟩

section

variable {σ : Type} {read : σ → Option α}

/-- A member has the value by default or is given. -/
theorem exists_of_withDefault {parts : Parts σ} {name : String} {standard value : α}
    (hread : parts.withDefault name standard read = some value) :
    value = standard ∨ ∃ doc, parts.find? name = some doc ∧ read doc = some value := by
  unfold Parts.withDefault at hread
  cases hfind : parts.find? name with
  | none =>
      rw [hfind] at hread
      exact .inl (Option.some.inj hread).symm
  | some doc =>
      rw [hfind] at hread
      exact .inr ⟨doc, rfl, hread⟩

variable [Document σ]

/-- The values of a list are those of the items of an array. -/
theorem exists_of_list? {doc : σ} {values : List α} (hread : list? read doc = some values)
    {value : α} (hvalue : value ∈ values) :
    ∃ items, Document.view? doc = some (.items items) ∧ ∃ item ∈ items, read item = some value := by
  unfold list? at hread
  split at hread
  next items hview => exact ⟨items, hview, exists_of_mapM hread hvalue⟩
  next => cases hread

theorem of_nullable? {doc : σ} {value : α} (hread : nullable? read doc = some (some value)) :
    read doc = some value ∧ Document.view? doc ≠ some .null := by
  unfold nullable? at hread
  split at hread
  next => cases hread
  next hnull hview =>
    obtain ⟨known, hknown, heq⟩ := Option.map_eq_some_iff.mp hread
    cases heq
    exact ⟨hknown, fun hnull' => hnull (Option.some.inj (hview.symm.trans hnull'))⟩
  next => cases hread

/-- A member that may be null or absent and has a value is given. -/
theorem exists_of_optional {parts : Parts σ} {name : String} {value : α}
    (hread : parts.optional name read = some (some value)) :
    ∃ doc, parts.find? name = some doc ∧ Document.view? doc ≠ some .null ∧
      read doc = some value := by
  obtain heq | ⟨doc, hfind, hread⟩ := exists_of_withDefault hread
  · cases heq
  · obtain ⟨hvalue, hdoc⟩ := of_nullable? hread
    exact ⟨doc, hfind, hdoc, hvalue⟩

end

theorem eq_array_of_view? {doc : Doc} {items : List Doc}
    (hview : Document.view? doc = some (.items items)) : doc = .array items := by
  cases doc with
  | array others =>
      cases hview
      rfl
  | numeral n =>
      obtain ⟨number, -, heq⟩ := Option.map_eq_some_iff.mp hview
      cases heq
  | text content => cases content <;> cases hview
  | null | bool | object => cases hview

/-! ## Parts kept as they are -/

/-- Whether a member of a structure passes a test, if it is given. -/
def partIs (names : List String) (name : String) (test : Doc → Bool) (doc : Doc) : Bool :=
  ((parts? names doc).bind (·.find? name)).all test

theorem of_partIs {names : List String} {name : String} {test : Doc → Bool} {doc part : Doc}
    {parts : Parts Doc} (htest : partIs names name test doc = true)
    (hparts : parts? names doc = some parts) (hpart : parts.find? name = some part) :
    test part = true := by
  rw [partIs, hparts, Option.bind_some, hpart] at htest
  exact htest

variable {enclosing : Nat} {names : List String} {name : String} {doc : Doc} {parts : Parts Doc}

theorem areNormal_of_jsonObject? {members : List (String × Json)}
    (henclosing : enclosing < maximumNesting) (hplain : doc.isPlainBelow = true)
    (hread : jsonObject? enclosing doc = some members) :
    AreNormal (maximumNesting - enclosing - 1) members := by
  apply Doc.areNormal_of_toMembers? hplain
  rw [Nat.sub_add_cancel (by omega)]
  exact hread

theorem jsonObject?_toDoc {members : List (String × Json)} (henclosing : enclosing < maximumNesting)
    (hnormal : AreNormal (maximumNesting - enclosing - 1) members)
    (hfloats : ∀ x ∈ (Json.object members).floats, x.IsReadBack) :
    jsonObject? enclosing (Json.object members).toDoc = some members := by
  have hread := Doc.toMembers?_toDoc hnormal hfloats
  rw [Nat.sub_add_cancel (by omega)] at hread
  exact hread

/-- Whether an object that is kept as it is has the form that reading gives it, if there is
one. -/
def KeepsMembers (enclosing : Nat) (kept : Option (List (String × Json))) : Prop :=
  ∀ members, kept = some members → AreNormal (maximumNesting - enclosing - 1) members

theorem keepsMembers_of_optional {kept : Option (List (String × Json))}
    (henclosing : enclosing < maximumNesting)
    (hplain : partIs names name Doc.isPlainBelow doc = true)
    (hparts : parts? names doc = some parts)
    (hread : parts.optional name (jsonObject? enclosing) = some kept) :
    KeepsMembers enclosing kept := by
  rintro members rfl
  obtain ⟨part, hpart, -, hmembers⟩ := exists_of_optional hread
  exact areNormal_of_jsonObject? henclosing (of_partIs hplain hparts hpart) hmembers

/-- Whether a part that is kept as it is has the form that reading gives it, if there is one.
It is not null, since null in its place is none. -/
def KeepsValue (enclosing : Nat) (kept : Option Json) : Prop :=
  ∀ value, kept = some value → value.IsNormal (maximumNesting - enclosing) ∧ value ≠ .null

theorem keepsValue_of_optional {kept : Option Json}
    (hplain : partIs names name Doc.isPlain doc = true) (hparts : parts? names doc = some parts)
    (hread : parts.optional name (json? enclosing) = some kept) : KeepsValue enclosing kept := by
  rintro value rfl
  obtain ⟨part, hpart, hnull, hvalue⟩ := exists_of_optional hread
  have hplain := of_partIs hplain hparts hpart
  refine ⟨Doc.isNormal_of_toJson? part _ value hplain hvalue, ?_⟩
  rintro rfl
  obtain rfl := Doc.eq_null_of_toJson? hplain hvalue
  exact hnull rfl

theorem nullable?_json?_toDoc {kept : Option Json} (hkept : KeepsValue enclosing kept)
    {value : Json} (hvalue : kept = some value) (hfloats : ∀ x ∈ value.floats, x.IsReadBack) :
    nullable? (json? enclosing) value.toDoc = some (some value) := by
  obtain ⟨hnormal, hnull⟩ := hkept value hvalue
  have hread : json? enclosing value.toDoc = some value := Doc.toJson?_toDoc hnormal hfloats
  rw [nullable?_toDoc hnull hfloats, hread, Option.map_some]

end

end ListQuery.Wire
