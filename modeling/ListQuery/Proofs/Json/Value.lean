import ListQuery.Proofs.Cursor
import Mathlib.Data.List.Induction
import Mathlib.Data.String.Basic

/-!
# Values are read back from their texts

Reading a document puts the members of every object in the order of their names, allows
for so many nested brackets, and takes an object whose least name is the one set aside for
this to stand for a text.  A value that is normal in these respects (`IsNormal`) is read
back from its text if the doubles in it are (`read?_render`).

Whatever is read from a document is normal unless one of its objects could stand for a
text (`isNormal_of_toJson?`).
-/

namespace ListQuery.Json

/-! ## Members in the order of their names -/

section

variable {α : Type}

/-- Whether the members stand in the order of their names, each name once. -/
def IsOrdered (members : List (String × α)) : Prop :=
  members.Pairwise fun first second => first.1 < second.1

theorem mem_insertMember {name : String} {value : α} {members : List (String × α)}
    {entry : String × α} (hentry : entry ∈ insertMember name value members) :
    entry = (name, value) ∨ entry ∈ members := by
  induction members with
  | nil => exact .inl (List.mem_singleton.mp hentry)
  | cons first rest ih =>
      rw [insertMember] at hentry
      split at hentry
      · exact List.mem_cons.mp hentry
      · split at hentry
        · exact (List.mem_cons.mp hentry).imp_right (List.mem_cons_of_mem _)
        · rcases List.mem_cons.mp hentry with rfl | hrest
          · exact .inr List.mem_cons_self
          · exact (ih hrest).imp_right (List.mem_cons_of_mem _)

theorem mem_names_insertMember {name other : String} {value : α} {members : List (String × α)} :
    other ∈ (insertMember name value members).map Prod.fst ↔
      other = name ∨ other ∈ members.map Prod.fst := by
  induction members with
  | nil => simp [insertMember]
  | cons first rest ih =>
      rw [insertMember]
      split
      · simp
      · split
        next heq => simp [heq]
        next => simp only [List.map_cons, List.mem_cons, ih, or_left_comm]

theorem isOrdered_insertMember {name : String} {value : α} {members : List (String × α)}
    (hmembers : IsOrdered members) : IsOrdered (insertMember name value members) := by
  induction members with
  | nil => exact List.pairwise_singleton _ _
  | cons first rest ih =>
      obtain ⟨hfirst, hrest⟩ := List.pairwise_cons.mp hmembers
      rw [insertMember]
      split
      next hless =>
        refine List.pairwise_cons.mpr ⟨?_, hmembers⟩
        rintro entry hentry
        rcases List.mem_cons.mp hentry with rfl | hentry
        · exact hless
        · exact hless.trans (hfirst entry hentry)
      next hless =>
        split
        next heq =>
          exact List.pairwise_cons.mpr ⟨fun entry hentry => heq ▸ hfirst entry hentry, hrest⟩
        next hne =>
          -- The entry goes somewhere after the first one, whose name is less.
          have hgreater : first.1 < name := lt_of_le_of_ne (not_lt.mp hless) (Ne.symm hne)
          refine List.pairwise_cons.mpr ⟨fun entry hentry => ?_, ih hrest⟩
          rcases mem_insertMember hentry with rfl | hentry
          · exact hgreater
          · exact hfirst entry hentry

/-- A member after all others is put at the end. -/
theorem insertMember_of_forall_lt {name : String} {value : α} {members : List (String × α)}
    (hlast : ∀ entry ∈ members, entry.1 < name) :
    insertMember name value members = members ++ [(name, value)] := by
  induction members with
  | nil => rfl
  | cons first rest ih =>
      have hfirst := hlast first List.mem_cons_self
      rw [insertMember, if_neg hfirst.asymm, if_neg hfirst.ne',
        ih fun entry hentry => hlast entry (List.mem_cons_of_mem _ hentry), List.cons_append]

/-- Members are put in their order one after the other. -/
theorem orderedMembers_concat (members : List (String × α)) (entry : String × α) :
    orderedMembers (members ++ [entry]) =
      insertMember entry.1 entry.2 (orderedMembers members) := by
  simp only [orderedMembers, List.foldl_append, List.foldl_cons, List.foldl_nil]

theorem isOrdered_orderedMembers (members : List (String × α)) :
    IsOrdered (orderedMembers members) := by
  induction members using List.reverseRecOn with
  | nil => exact List.Pairwise.nil
  | append_singleton members entry ih =>
      rw [orderedMembers_concat]
      exact isOrdered_insertMember ih

theorem mem_orderedMembers {members : List (String × α)} {entry : String × α}
    (hentry : entry ∈ orderedMembers members) : entry ∈ members := by
  induction members using List.reverseRecOn with
  | nil => exact hentry
  | append_singleton members last ih =>
      rw [orderedMembers_concat] at hentry
      rcases mem_insertMember hentry with rfl | hentry
      · exact List.mem_append_right _ (List.mem_singleton.mpr rfl)
      · exact List.mem_append_left _ (ih hentry)

theorem mem_names_orderedMembers {members : List (String × α)} {name : String} :
    name ∈ (orderedMembers members).map Prod.fst ↔ name ∈ members.map Prod.fst := by
  induction members using List.reverseRecOn with
  | nil => exact Iff.rfl
  | append_singleton members last ih =>
      rw [orderedMembers_concat, mem_names_insertMember, ih, List.map_append, List.mem_append,
        List.map_singleton, List.mem_singleton, or_comm]

/-- Members that stand in their order stay as they are. -/
theorem orderedMembers_of_isOrdered {members : List (String × α)} (hmembers : IsOrdered members) :
    orderedMembers members = members := by
  induction members using List.reverseRecOn with
  | nil => rfl
  | append_singleton members last ih =>
      obtain ⟨hbefore, -, hlast⟩ := List.pairwise_append.mp hmembers
      rw [orderedMembers_concat, ih hbefore]
      exact insertMember_of_forall_lt fun entry hentry =>
        hlast entry hentry last (List.mem_singleton.mpr rfl)

end

/-! ## Doubles -/

mutual

/-- The doubles in a value. -/
def floats : Json → List Binary64
  | .number (.float value _) => [value]
  | .array items => itemsFloats items
  | .object members => membersFloats members
  | _ => []

/-- The doubles in the items of an array. -/
def itemsFloats : List Json → List Binary64
  | [] => []
  | item :: rest => item.floats ++ itemsFloats rest

/-- The doubles in the members of an object. -/
def membersFloats : List (String × Json) → List Binary64
  | [] => []
  | (_, value) :: rest => value.floats ++ membersFloats rest

end

theorem itemsFloats_eq_flatMap (items : List Json) : itemsFloats items = items.flatMap floats := by
  induction items with
  | nil => rfl
  | cons item rest ih => rw [itemsFloats, ih, List.flatMap_cons]

theorem membersFloats_eq_flatMap (members : List (String × Json)) :
    membersFloats members = members.flatMap fun entry => entry.2.floats := by
  induction members with
  | nil => rfl
  | cons entry rest ih => rw [membersFloats, ih, List.flatMap_cons]

theorem mem_floats_of_mem_array {items : List Json} {item : Json} (hitem : item ∈ items)
    {x : Binary64} (hx : x ∈ item.floats) : x ∈ (Json.array items).floats := by
  rw [floats, itemsFloats_eq_flatMap]
  exact List.mem_flatMap.mpr ⟨item, hitem, hx⟩

theorem mem_floats_of_mem_object {members : List (String × Json)} {entry : String × Json}
    (hentry : entry ∈ members) {x : Binary64} (hx : x ∈ entry.2.floats) :
    x ∈ (Json.object members).floats := by
  rw [floats, membersFloats_eq_flatMap]
  exact List.mem_flatMap.mpr ⟨entry, hentry, hx⟩

/-- A number is read back from its numeral, a double if its text is. -/
theorem Number.toNumber?_numeral {number : Number}
    (hfloats : ∀ x ∈ (Json.number number).floats, x.IsReadBack) :
    number.numeral.toNumber? = some number := by
  cases number with
  | integer value fits => exact toNumber?_numeral_integer fits
  | float x finite =>
      obtain ⟨n, _, hread, hnumber⟩ := hfloats x (List.mem_singleton.mpr rfl)
      rw [Doc.read?_render, Json.ofBinary64, Number.ofBinary64?, dif_pos finite] at hread
      cases hread
      exact hnumber

/-! ## Normal values -/

/-- Whether a value has the form that reading gives it, with no more than `levels` nested
brackets: the members of its objects stand in their order, and none of the objects begins
with the name of one that stands for a text. -/
inductive IsNormal : Nat → Json → Prop where
  | null {levels : Nat} : IsNormal levels .null
  | bool {levels : Nat} (value : Bool) : IsNormal levels (.bool value)
  | number {levels : Nat} (value : Number) : IsNormal levels (.number value)
  | text {levels : Nat} (value : String) : IsNormal levels (.text value)
  | array {levels : Nat} {items : List Json} (hitems : ∀ item ∈ items, IsNormal levels item) :
      IsNormal (levels + 1) (.array items)
  | object {levels : Nat} {members : List (String × Json)} (hordered : IsOrdered members)
      (hname : members.head?.map Prod.fst ≠ some embeddingName)
      (hmembers : ∀ entry ∈ members, IsNormal levels entry.2) :
      IsNormal (levels + 1) (.object members)

/-- Whether members have the form that reading gives the members of an object, with no more
than `levels` nested brackets in each of them. -/
def AreNormal (levels : Nat) (members : List (String × Json)) : Prop :=
  IsOrdered members ∧ ∀ entry ∈ members, entry.2.IsNormal levels

namespace Doc

variable {read : String → Option Json} {levels : Nat}

theorem itemsToJson?_itemsToDoc {items : List Json}
    (hitems : ∀ item ∈ items, toJson? read levels item.toDoc = some item) :
    itemsToJson? read levels (itemsToDoc items) = some items := by
  induction items with
  | nil => rfl
  | cons item rest ih =>
      rw [itemsToDoc, itemsToJson?, hitems item List.mem_cons_self,
        ih fun other hother => hitems other (List.mem_cons_of_mem _ hother)]
      rfl

theorem membersToJson?_membersToDoc {members : List (String × Json)}
    (hmembers : ∀ entry ∈ members, toJson? read levels entry.2.toDoc = some entry.2) :
    membersToJson? read levels (membersToDoc members) = some members := by
  induction members with
  | nil => rfl
  | cons entry rest ih =>
      rw [membersToDoc, membersToJson?, hmembers entry List.mem_cons_self,
        ih fun other hother => hmembers other (List.mem_cons_of_mem _ hother)]
      rfl

/-- An object stands for a text only if it begins with the name set aside for this. -/
theorem embedded?_membersToDoc {members : List (String × Json)}
    (hname : members.head?.map Prod.fst ≠ some embeddingName) :
    embedded? (membersToDoc members) = none := by
  cases members with
  | nil => rfl
  | cons entry rest =>
      have hentry : entry.1 ≠ embeddingName := fun heq => hname (congrArg some heq)
      simp [membersToDoc, embedded?, hentry]

/-- A normal value is the value of the document that it is written as. -/
theorem toJson?_toDoc {value : Json} (hnormal : value.IsNormal levels)
    (hfloats : ∀ x ∈ value.floats, x.IsReadBack) :
    toJson? read levels value.toDoc = some value := by
  induction hnormal with
  | null => rfl
  | bool value => rfl
  | text value => rfl
  | number value => rw [toDoc, toJson?, Number.toNumber?_numeral hfloats, Option.map_some]
  | array hitems ih =>
      have hread := itemsToJson?_itemsToDoc fun item hitem =>
        ih item hitem fun x hx => hfloats x (mem_floats_of_mem_array hitem hx)
      rw [toDoc, toJson?, hread, Option.map_some]
  | object hordered hname hmembers ih =>
      have hread := membersToJson?_membersToDoc fun entry hentry =>
        ih entry hentry fun x hx => hfloats x (mem_floats_of_mem_object hentry hx)
      simp only [toDoc, toJson?, embedded?_membersToDoc hname, hread, Option.map_some,
        orderedMembers_of_isOrdered hordered]

end Doc

/-- A normal value whose doubles are read back is read back from its text. -/
theorem read?_render {value : Json} (hnormal : value.IsNormal maximumNesting)
    (hfloats : ∀ x ∈ value.floats, x.IsReadBack) : read? value.render = some value := by
  rw [read?, readWithin?, Doc.read?_render, Option.bind_some, Doc.toJson?_toDoc hnormal hfloats]

/-! ## Documents without embedded texts -/

namespace Doc

/-- Whether the name set aside for objects that stand for a text is the least of the names.
Then it is the first of them once they stand in their order. -/
def beginsEmbedding (members : List (Option String × Doc)) : Bool :=
  members.any (·.1 == some embeddingName) &&
    members.all fun entry => entry.1.all fun name => decide (embeddingName ≤ name)

mutual

/-- Whether no object in a document begins like one that stands for a text, once its
members stand in the order of their names. -/
def isPlain : Doc → Bool
  | .array items => itemsArePlain items
  | .object members => !beginsEmbedding members && membersArePlain members
  | _ => true

/-- Whether all items of an array are plain. -/
def itemsArePlain : List Doc → Bool
  | [] => true
  | item :: rest => item.isPlain && itemsArePlain rest

/-- Whether all members of an object are plain. -/
def membersArePlain : List (Option String × Doc) → Bool
  | [] => true
  | (_, value) :: rest => value.isPlain && membersArePlain rest

end

variable {read : String → Option Json}

theorem map_fst_of_membersToJson? {levels : Nat} {members : List (Option String × Doc)}
    {values : List (String × Json)} (hread : membersToJson? read levels members = some values) :
    members.map Prod.fst = values.map (some ·.1) := by
  induction members generalizing values with
  | nil => cases hread; rfl
  | cons entry rest ih =>
      obtain ⟨name, hname, hread⟩ := Option.bind_eq_some_iff.mp hread
      obtain ⟨value, -, hread⟩ := Option.bind_eq_some_iff.mp hread
      obtain ⟨others, hothers, hread⟩ := Option.bind_eq_some_iff.mp hread
      cases hread
      rw [List.map_cons, List.map_cons, hname, ih hothers]

/-- The least name comes first. -/
theorem beginsEmbedding_of_head? {levels : Nat} {members : List (Option String × Doc)}
    {values : List (String × Json)} (hread : membersToJson? read levels members = some values)
    (hhead : (orderedMembers values).head?.map Prod.fst = some embeddingName) :
    beginsEmbedding members = true := by
  have hnames := map_fst_of_membersToJson? hread
  obtain ⟨first, hfirst, hname⟩ := Option.map_eq_some_iff.mp hhead
  obtain ⟨rest, hvalues⟩ := List.head?_eq_some_iff.mp hfirst
  have hordered := isOrdered_orderedMembers values
  rw [hvalues] at hordered
  -- The members are in order, so the name of the first is the least of all.
  have hleast : ∀ name ∈ values.map Prod.fst, embeddingName ≤ name := by
    intro name hmem
    obtain ⟨entry, hentry, rfl⟩ := List.mem_map.mp (mem_names_orderedMembers.mpr hmem)
    rw [hvalues] at hentry
    rcases List.mem_cons.mp hentry with rfl | hentry
    · exact hname.ge
    · exact hname ▸ ((List.pairwise_cons.mp hordered).1 entry hentry).le
  have hmem : embeddingName ∈ values.map Prod.fst := by
    rw [← hname, ← mem_names_orderedMembers, hvalues]
    exact List.mem_cons_self
  have hmap : members.map Prod.fst = (values.map Prod.fst).map some := by
    rw [hnames, List.map_map]
    rfl
  refine Bool.and_eq_true_iff.mpr ⟨?_, ?_⟩
  · have hsome : some embeddingName ∈ members.map Prod.fst := by
      rw [hmap]
      exact List.mem_map_of_mem hmem
    obtain ⟨entry, hentry, heq⟩ := List.mem_map.mp hsome
    exact List.any_eq_true.mpr ⟨entry, hentry, beq_iff_eq.mpr heq⟩
  · refine List.all_eq_true.mpr fun entry hentry => ?_
    have hsome : entry.1 ∈ (values.map Prod.fst).map some := hmap ▸ List.mem_map_of_mem hentry
    obtain ⟨name, hname, heq⟩ := List.mem_map.mp hsome
    rw [← heq]
    exact decide_eq_true (hleast name hname)

/-- An object that does not begin like one that stands for a text does not stand for one. -/
theorem embedded?_of_beginsEmbedding {members : List (Option String × Doc)}
    (hplain : beginsEmbedding members = false) :
    embedded? members = none ∨ embedded? members = some none := by
  unfold embedded?
  split
  next name value rest =>
    split
    next heq =>
      split
      next content =>
        -- It would be the only member, and hence the one of the least name.
        rw [heq] at hplain
        simp [beginsEmbedding] at hplain
      next => exact .inr rfl
    next => exact .inl rfl
  next => exact .inl rfl

mutual

/-- The value of a plain document is normal. -/
theorem isNormal_of_toJson? : ∀ (doc : Doc) (levels : Nat) (value : Json), doc.isPlain = true →
    toJson? read levels doc = some value → value.IsNormal levels
  | .null, levels, value, hplain, hread => by
      cases hread
      exact .null
  | .bool known, levels, value, hplain, hread => by
      cases hread
      exact .bool known
  | .numeral n, levels, value, hplain, hread => by
      obtain ⟨number, -, rfl⟩ := Option.map_eq_some_iff.mp hread
      exact .number number
  | .text content, levels, value, hplain, hread => by
      obtain ⟨known, -, rfl⟩ := Option.map_eq_some_iff.mp hread
      exact .text known
  | .array items, 0, value, hplain, hread => by cases hread
  | .array items, levels + 1, value, hplain, hread => by
      obtain ⟨values, hvalues, rfl⟩ := Option.map_eq_some_iff.mp hread
      exact .array (isNormal_of_itemsToJson? items levels values hplain hvalues)
  | .object members, 0, value, hplain, hread => by cases hread
  | .object members, levels + 1, value, hplain, hread => by
      obtain ⟨hbegins, hmembers⟩ := Bool.and_eq_true_iff.mp hplain
      have hbegins : beginsEmbedding members = false := by simpa using hbegins
      rw [toJson?] at hread
      rcases embedded?_of_beginsEmbedding hbegins with hembedded | hembedded
      · rw [hembedded] at hread
        obtain ⟨values, hvalues, rfl⟩ := Option.map_eq_some_iff.mp hread
        have hnormal := isNormal_of_membersToJson? members levels values hmembers hvalues
        -- If the name has come to the front, it was the least one.
        refine .object (isOrdered_orderedMembers values) (fun hhead => ?_) fun entry hentry =>
          hnormal entry (mem_orderedMembers hentry)
        rw [beginsEmbedding_of_head? hvalues hhead] at hbegins
        cases hbegins
      · rw [hembedded] at hread
        cases hread

theorem isNormal_of_itemsToJson? : ∀ (items : List Doc) (levels : Nat) (values : List Json),
    itemsArePlain items = true → itemsToJson? read levels items = some values →
    ∀ item ∈ values, item.IsNormal levels
  | [], levels, values, hplain, hread => by
      cases hread
      exact fun _ hitem => (List.not_mem_nil hitem).elim
  | item :: rest, levels, values, hplain, hread => by
      obtain ⟨hitem, hrest⟩ := Bool.and_eq_true_iff.mp hplain
      obtain ⟨value, hvalue, hread⟩ := Option.bind_eq_some_iff.mp hread
      obtain ⟨others, hothers, hread⟩ := Option.bind_eq_some_iff.mp hread
      cases hread
      exact List.forall_mem_cons.mpr ⟨isNormal_of_toJson? item levels value hitem hvalue,
        isNormal_of_itemsToJson? rest levels others hrest hothers⟩

theorem isNormal_of_membersToJson? : ∀ (members : List (Option String × Doc)) (levels : Nat)
    (values : List (String × Json)), membersArePlain members = true →
    membersToJson? read levels members = some values → ∀ entry ∈ values, entry.2.IsNormal levels
  | [], levels, values, hplain, hread => by
      cases hread
      exact fun _ hentry => (List.not_mem_nil hentry).elim
  | (name, member) :: rest, levels, values, hplain, hread => by
      obtain ⟨hmember, hrest⟩ := Bool.and_eq_true_iff.mp hplain
      obtain ⟨known, -, hread⟩ := Option.bind_eq_some_iff.mp hread
      obtain ⟨value, hvalue, hread⟩ := Option.bind_eq_some_iff.mp hread
      obtain ⟨others, hothers, hread⟩ := Option.bind_eq_some_iff.mp hread
      cases hread
      exact List.forall_mem_cons.mpr ⟨isNormal_of_toJson? member levels value hmember hvalue,
        isNormal_of_membersToJson? rest levels others hrest hothers⟩

end

/-- Only the null document has the value null, as long as no text stands for it. -/
theorem eq_null_of_toJson? {levels : Nat} {doc : Doc} (hplain : doc.isPlain = true)
    (hread : toJson? read levels doc = some .null) : doc = .null := by
  cases doc with
  | null => rfl
  | bool => cases hread
  | numeral | text =>
      obtain ⟨known, -, heq⟩ := Option.map_eq_some_iff.mp hread
      cases heq
  | array items =>
      cases levels with
      | zero => cases hread
      | succ levels =>
          obtain ⟨values, -, heq⟩ := Option.map_eq_some_iff.mp hread
          cases heq
  | object members =>
      cases levels with
      | zero => cases hread
      | succ levels =>
          -- An object would have to begin like a text that stands for the null, and it does not.
          have hbegins : beginsEmbedding members = false := by
            simpa using (Bool.and_eq_true_iff.mp hplain).1
          rw [toJson?] at hread
          rcases embedded?_of_beginsEmbedding hbegins with hembedded | hembedded
          · rw [hembedded] at hread
            obtain ⟨values, -, heq⟩ := Option.map_eq_some_iff.mp hread
            cases heq
          · rw [hembedded] at hread
            cases hread

/-! ## Members whose own names do not matter -/

/-- Whether the members of a document are plain, if it is an object. -/
def isPlainBelow : Doc → Bool
  | .object members => membersArePlain members
  | _ => true

variable {levels : Nat}

theorem areNormal_of_toMembers? {doc : Doc} {members : List (String × Json)}
    (hplain : doc.isPlainBelow = true) (hread : toMembers? (levels + 1) doc = some members) :
    AreNormal levels members := by
  cases doc with
  | object given =>
      obtain ⟨values, hvalues, rfl⟩ := Option.map_eq_some_iff.mp hread
      exact ⟨isOrdered_orderedMembers values, fun entry hentry =>
        isNormal_of_membersToJson? given levels values hplain hvalues entry
          (mem_orderedMembers hentry)⟩
  | null | bool | numeral | text | array => cases hread

theorem toMembers?_toDoc {members : List (String × Json)} (hnormal : AreNormal levels members)
    (hfloats : ∀ x ∈ (Json.object members).floats, x.IsReadBack) :
    toMembers? (levels + 1) (Json.object members).toDoc = some members := by
  have hread : membersToJson? Json.read? levels (membersToDoc members) = some members :=
    membersToJson?_membersToDoc fun entry hentry => toJson?_toDoc (hnormal.2 entry hentry)
      fun x hx => hfloats x (mem_floats_of_mem_object hentry hx)
  rw [toDoc, toMembers?, hread, Option.map_some, orderedMembers_of_isOrdered hnormal.1]

end Doc

end ListQuery.Json
