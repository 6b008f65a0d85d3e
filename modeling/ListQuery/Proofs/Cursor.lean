import ListQuery.Cursor
import ListQuery.Proofs.Json.Printer
import ListQuery.Proofs.Text.Base64Url

/-!
# Cursors are read back

A cursor that is not too long stands for the place that it was made from, up to what
becomes of each value on the way through its JSON text (`ofCursor?_of_cursor?`).  That is
the value itself except for doubles, which are read back as the JSON reader reads their
numerals.  So a place whose doubles survive their numerals is read back from its cursor as
it was (`ofCursor?_cursor?`).
-/

namespace ListQuery

/-! ## Doubles -/

/-- Whether the JSON text of a double is read as the same double. -/
def Binary64.IsReadBack (x : Binary64) : Prop :=
  ∃ n finite, Json.Doc.read? (Json.ofBinary64 x).render = some (.numeral n) ∧
    n.toNumber? = some (.float x finite)

theorem Binary64.isReadBack_of_numeral {x : Binary64} (finite : x.isFinite = true)
    (hnumeral : x.numeral.toNumber? = some (.float x finite)) : x.IsReadBack := by
  refine ⟨x.numeral, finite, ?_, hnumeral⟩
  rw [Json.Doc.read?_render, Json.ofBinary64, Json.Number.ofBinary64?, dif_pos finite]
  rfl

/-! ## Octets of texts -/

/-- A text is what its octets stand for. -/
theorem fromUTF8?_toUTF8 (text : String) :
    String.fromUTF8? ⟨text.toUTF8.data.toList.toArray⟩ = some text := by
  rw [Array.toArray_toList]
  exact dif_pos text.isValidUTF8

/-- Every character takes an octet at least. -/
theorem length_le_utf8ByteSize (chars : List Char) :
    chars.length ≤ (String.ofList chars).utf8ByteSize := by
  induction chars with
  | nil => exact Nat.zero_le _
  | cons c rest ih =>
      have hc := c.utf8Size_pos
      rw [String.ofList_cons, String.utf8ByteSize_append, String.utf8ByteSize_singleton,
        List.length_cons]
      omega

/-! ## Scalars -/

namespace Scalar

/-- What a scalar is read back as from its JSON text. -/
def readBack? (scalar : Scalar) : Option Scalar :=
  (Json.Doc.read? scalar.toJson.render).bind read?

theorem readBack?_eq (scalar : Scalar) : scalar.readBack? = read? scalar.toJson.toDoc := by
  rw [readBack?, Json.Doc.read?_render, Option.bind_some]

theorem read?_numeral (n : Json.Numeral) :
    read? (Json.Doc.numeral n) = n.toNumber?.map ofNumber := by
  unfold read?
  rw [show Wire.Document.view? (Json.Doc.numeral n) = n.toNumber?.map Wire.View.number from rfl]
  cases n.toNumber? <;> rfl

/-- Whatever is no double is read back as itself. -/
theorem readBack?_of_ne_float {scalar : Scalar} (hscalar : ∀ x, scalar ≠ .float x) :
    scalar.readBack? = some scalar := by
  rw [readBack?_eq]
  cases scalar with
  | null => rfl
  | bool value => rfl
  | text value => rfl
  | float value => exact absurd rfl (hscalar value)
  | int value =>
      have hupper : value.toInt < 0x8000000000000000 := value.toInt_lt
      rw [toJson, Json.ofInt64, Json.toDoc, read?_numeral, Json.Number.toNumber?_numeral_integer,
        Option.map_some, ofNumber, if_pos hupper, Int64.ofInt_toInt]

/-- A double that survives its JSON text is read back as itself, and as a double even if it
is a whole number. -/
theorem readBack?_float {x : Binary64} (hx : x.IsReadBack) :
    readBack? (.float x) = some (.float x) := by
  obtain ⟨n, finite, hread, hnumber⟩ := hx
  rw [readBack?, toJson, hread, Option.bind_some, read?_numeral, hnumber]
  rfl

theorem mapM_readBack? {scalars : List Scalar}
    (hscalars : ∀ x, .float x ∈ scalars → x.IsReadBack) :
    scalars.mapM readBack? = some scalars := by
  induction scalars with
  | nil => rfl
  | cons scalar rest ih =>
      have hscalar : scalar.readBack? = some scalar := by
        cases scalar with
        | float x => exact readBack?_float (hscalars x List.mem_cons_self)
        | null | bool | int | text => exact readBack?_of_ne_float (by simp)
      have hrest := ih fun x hx => hscalars x (List.mem_cons_of_mem _ hx)
      rw [List.mapM_cons, hscalar, hrest]
      rfl

/-- An infinity or a NaN has no JSON text and is written as null. -/
theorem readBack?_of_isNonFinite {scalar : Scalar} (hscalar : scalar.isNonFinite = true) :
    scalar.readBack? = some .null := by
  cases scalar with
  | float value =>
      have hfinite : value.isFinite = false := by simpa [isNonFinite] using hscalar
      have hjson : toJson (.float value) = .null := by
        simp [toJson, Json.ofBinary64, Json.Number.ofBinary64?, hfinite]
      rw [readBack?_eq, hjson]
      rfl
  | null | bool | int | text => cases hscalar

/-- A finite double is read back as its numeral is read. -/
theorem readBack?_of_isFinite {x : Binary64} (finite : x.isFinite = true) :
    readBack? (.float x) = x.numeral.toNumber?.map ofNumber := by
  have hjson : toJson (.float x) = .number (.float x finite) := by
    simp [toJson, Json.ofBinary64, Json.Number.ofBinary64?, finite]
  rw [readBack?_eq, hjson, Json.toDoc, read?_numeral]
  rfl

theorem isNull_ofNumber (number : Json.Number) : (ofNumber number).isNull = false := by
  cases number with
  | float value finite => rfl
  | integer value fits =>
      simp only [ofNumber]
      split <;> rfl

end Scalar

/-! ## Places -/

namespace RowKey

/-- What a place is read back as from its JSON text. -/
def readBack? (place : RowKey) : Option RowKey := do
  let key ← place.key.mapM Scalar.readBack?
  let sort ← place.sort.mapM Scalar.readBack?
  return ⟨place.entity, key, sort⟩

theorem mapM_read?_itemsToDoc (scalars : List Scalar) :
    (Json.itemsToDoc (scalars.map Scalar.toJson)).mapM Scalar.read? =
      scalars.mapM Scalar.readBack? := by
  rw [Json.itemsToDoc_eq_map, List.map_map, List.mapM_map]
  congr 1
  funext scalar
  exact (Scalar.readBack?_eq scalar).symm

/-- The document of a place is read as the place that its text is read back as. -/
theorem read?_toDoc (place : RowKey) : read? place.toJson.toDoc = place.readBack? := by
  have hlist : ∀ scalars : List Scalar,
      Wire.list? Scalar.read? (Json.toDoc (.array (scalars.map Scalar.toJson))) =
        scalars.mapM Scalar.readBack? := by
    intro scalars
    rw [← mapM_read?_itemsToDoc]
    rfl
  obtain ⟨entity, key, sort⟩ := place
  cases sort with
  | nil =>
      have hparts : read? (toJson ⟨entity, key, []⟩).toDoc = do
          let key ← Wire.list? Scalar.read? (Json.toDoc (.array (key.map Scalar.toJson)))
          return ⟨entity, key, []⟩ := by
        rfl
      rw [hparts, hlist]
      rfl
  | cons value rest =>
      have hparts : read? (toJson ⟨entity, key, value :: rest⟩).toDoc = do
          let key ← Wire.list? Scalar.read? (Json.toDoc (.array (key.map Scalar.toJson)))
          let sort ← Wire.list? Scalar.read?
            (Json.toDoc (.array ((value :: rest).map Scalar.toJson)))
          return ⟨entity, key, sort⟩ := by
        rfl
      rw [hparts, hlist, hlist]
      rfl

/-! ## Cursors -/

/-- A place has a cursor if none of its values is an infinity or a NaN. -/
theorem cursor?_eq_ok_iff {place : RowKey} {cursor : String} :
    place.cursor? = .ok cursor ↔
      (∀ scalar ∈ place.key ++ place.sort, scalar.isNonFinite = false) ∧
        cursor = String.ofList (Text.Base64Url.encode place.toJson.render.toUTF8.data.toList) := by
  unfold cursor?
  cases hfind : (place.key ++ place.sort).find? Scalar.isNonFinite with
  | none =>
      have hfinite := List.find?_eq_none.mp hfind
      simp only [Except.ok.injEq]
      constructor
      · rintro rfl
        exact ⟨fun scalar hscalar => by simpa using hfinite scalar hscalar, rfl⟩
      · rintro ⟨-, rfl⟩
        rfl
  | some scalar =>
      have hnonFinite := List.find?_some hfind
      have hmem := List.mem_of_find?_eq_some hfind
      constructor
      · intro heq
        cases heq
      · rintro ⟨hfinite, -⟩
        rw [hfinite scalar hmem] at hnonFinite
        cases hnonFinite

/-- A place is never written as nothing. -/
theorem octets_ne_nil (place : RowKey) : place.toJson.render.toUTF8.data.toList ≠ [] := by
  intro hnil
  have hsize : place.toJson.render.toUTF8.size = 0 := by
    rw [← ByteArray.size_data, ← Array.length_toList, hnil, List.length_nil]
  have hempty : place.toJson.render = "" := by
    simpa using hsize
  have hchars : place.toJson.renderChars = [] := by
    simpa [Json.render] using congrArg String.toList hempty
  simp [toJson, Json.renderChars] at hchars

/-- A cursor is read back as the place that the text of its place is read back as.  It may be
filled up with equals signs and stand between blanks. -/
theorem ofCursor?_of_surrounded {place read : RowKey} {cursor : String} {before after : List Char}
    {padding : Nat} (hcursor : place.cursor? = .ok cursor)
    (hlength : cursor.utf8ByteSize ≤ maximumCursorLength) (hread : place.readBack? = some read)
    (hbefore : ∀ c ∈ before, Text.isBlank c = true) (hafter : ∀ c ∈ after, Text.isBlank c = true)
    (hpadding : padding ≤ Text.Base64Url.paddingBound cursor.toList.length) :
    ofCursor? (String.ofList (before ++ (cursor.toList ++ List.replicate padding '=') ++ after)) =
      .ok read := by
  obtain ⟨-, rfl⟩ := cursor?_eq_ok_iff.mp hcursor
  have hdoc : (Json.Doc.read? place.toJson.render).bind read? = some read := by
    rw [Json.Doc.read?_render, Option.bind_some, read?_toDoc, hread]
  have hne := Text.Base64Url.encode_ne_nil (octets_ne_nil place)
  generalize place.toJson.render = text at *
  rw [String.toList_ofList] at hpadding
  have hequals : Text.isBlank '=' = false := rfl
  have hblank : ∀ c ∈ Text.Base64Url.encode text.toUTF8.data.toList ++ List.replicate padding '=',
      Text.isBlank c = false :=
    List.forall_mem_append.mpr ⟨Text.Base64Url.isBlank_encode _, fun c hc =>
      List.eq_of_mem_replicate hc ▸ hequals⟩
  -- The bound is a multiple of four, so filling up the last group does not exceed it.
  have hshort : ¬ maximumCursorLength <
      (Text.Base64Url.encode text.toUTF8.data.toList).length + padding := by
    have hsize := Text.Base64Url.utf8ByteSize_padded text.toUTF8.data.toList 0
    rw [List.replicate_zero, List.append_nil] at hsize
    rw [hsize] at hlength
    unfold Text.Base64Url.paddingBound at hpadding
    unfold maximumCursorLength at *
    split at hpadding
    · omega
    · split at hpadding <;> omega
  unfold ofCursor?
  simp only [String.toList_ofList, Text.trimChars_surrounded hbefore hafter hblank,
    Text.Base64Url.utf8ByteSize_padded]
  have hsome : ¬ (Text.Base64Url.encode text.toUTF8.data.toList ++
      List.replicate padding '=').isEmpty = true := by
    rw [List.isEmpty_iff, List.append_eq_nil_iff, not_and]
    exact fun hnil => absurd hnil hne
  rw [if_neg hsome, if_neg hshort, Text.Base64Url.decode?_padded _ hpadding]
  simp only [fromUTF8?_toUTF8, hdoc]
  rfl

/-- A cursor is read back as the place that the text of its place is read back as. -/
theorem ofCursor?_of_cursor? {place read : RowKey} {cursor : String}
    (hcursor : place.cursor? = .ok cursor) (hlength : cursor.utf8ByteSize ≤ maximumCursorLength)
    (hread : place.readBack? = some read) : ofCursor? cursor = .ok read := by
  have hsurrounded : ofCursor? (String.ofList
      ([] ++ (cursor.toList ++ List.replicate 0 '=') ++ [])) = .ok read :=
    ofCursor?_of_surrounded hcursor hlength hread (by simp) (by simp) (Nat.zero_le _)
  simpa using hsurrounded

/-- A cursor that is too long is not read at all. -/
theorem ofCursor?_of_long {place : RowKey} {cursor : String} (hcursor : place.cursor? = .ok cursor)
    (hlength : maximumCursorLength < cursor.utf8ByteSize) :
    ofCursor? cursor = .error (.tooLong cursor.utf8ByteSize maximumCursorLength) := by
  obtain ⟨-, rfl⟩ := cursor?_eq_ok_iff.mp hcursor
  have hblank := Text.Base64Url.isBlank_encode place.toJson.render.toUTF8.data.toList
  have htrim : Text.trimChars (Text.Base64Url.encode place.toJson.render.toUTF8.data.toList) =
      Text.Base64Url.encode place.toJson.render.toUTF8.data.toList := by
    simpa using Text.trimChars_surrounded (List.forall_mem_nil _) (List.forall_mem_nil _) hblank
  unfold ofCursor?
  simp only [String.toList_ofList, htrim]
  rw [if_neg (by simpa using Text.Base64Url.encode_ne_nil (octets_ne_nil place)), if_pos hlength]
  rfl

/-- A cursor is no empty text. -/
theorem isEmpty_of_cursor? {place : RowKey} {cursor : String}
    (hcursor : place.cursor? = .ok cursor) : cursor.isEmpty = false := by
  obtain ⟨-, rfl⟩ := cursor?_eq_ok_iff.mp hcursor
  have hne := Text.Base64Url.encode_ne_nil (octets_ne_nil place)
  simpa [String.isEmpty_iff, Bool.eq_false_iff] using hne

private theorem length_le_renderItems_of_text {scalars : List Scalar} {text : String}
    (htext : .text text ∈ scalars) :
    text.toList.length ≤ (Json.renderItems (scalars.map Scalar.toJson)).length := by
  have hquote : (Json.text text).renderChars = Json.quote text := by rw [Json.renderChars]
  have hitem : (Scalar.toJson (.text text)).renderChars.length ≤
      (Json.renderItems (scalars.map Scalar.toJson)).length :=
    Json.length_le_renderItems (List.mem_map_of_mem htext)
  rw [Scalar.toJson, hquote] at hitem
  exact (Json.length_le_quote text).trans hitem

/-- The JSON text of a place holds its texts. -/
private theorem length_le_renderChars_toJson {place : RowKey} {text : String}
    (htext : .text text ∈ place.key ++ place.sort) :
    text.toList.length ≤ place.toJson.renderChars.length := by
  obtain ⟨entity, key, sort⟩ := place
  have hlists : text.toList.length ≤ (Json.renderItems (key.map Scalar.toJson)).length ∨
      text.toList.length ≤ (Json.renderItems (sort.map Scalar.toJson)).length :=
    (List.mem_append.mp htext).imp length_le_renderItems_of_text length_le_renderItems_of_text
  -- Without sort values there is no member for them.
  cases sort with
  | nil =>
      simp only [toJson, Json.renderChars, Json.renderMembers, List.isEmpty_nil, if_true,
        List.map_nil, Json.renderItems, List.append_nil, List.length_cons, List.length_append,
        List.length_nil] at hlists ⊢
      omega
  | cons value rest =>
      simp only [toJson, Json.renderChars, Json.renderMembers, List.isEmpty_cons,
        Bool.false_eq_true, if_false, List.cons_append, List.nil_append, List.length_cons,
        List.length_append]
      omega

/-- A text has at least as many octets as characters. -/
private theorem length_renderChars_le_octets (value : Json) :
    value.renderChars.length ≤ value.render.toUTF8.data.toList.length := by
  have hsize : value.render.toUTF8.data.toList.length =
      (String.ofList value.renderChars).utf8ByteSize := by
    rw [Array.length_toList, ByteArray.size_data]
    rfl
  rw [hsize]
  exact length_le_utf8ByteSize _

/-- A cursor is no shorter than the texts of its place. -/
theorem length_le_of_cursor? {place : RowKey} {cursor text : String}
    (hcursor : place.cursor? = .ok cursor) (htext : .text text ∈ place.key ++ place.sort) :
    text.toList.length ≤ cursor.utf8ByteSize := by
  obtain ⟨-, rfl⟩ := cursor?_eq_ok_iff.mp hcursor
  have hsize := Text.Base64Url.utf8ByteSize_padded place.toJson.render.toUTF8.data.toList 0
  rw [List.replicate_zero, List.append_nil, Nat.add_zero] at hsize
  rw [hsize]
  calc text.toList.length
      ≤ place.toJson.renderChars.length := length_le_renderChars_toJson htext
    _ ≤ place.toJson.render.toUTF8.data.toList.length := length_renderChars_le_octets _
    _ ≤ (Text.Base64Url.encode place.toJson.render.toUTF8.data.toList).length :=
        Text.Base64Url.length_le_encode _

/-! ## Round trips -/

theorem readBack?_of_isReadBack {place : RowKey}
    (hfloats : ∀ x, .float x ∈ place.key ++ place.sort → x.IsReadBack) :
    place.readBack? = some place := by
  have hkey : place.key.mapM Scalar.readBack? = some place.key :=
    Scalar.mapM_readBack? fun x hx => hfloats x (List.mem_append_left _ hx)
  have hsort : place.sort.mapM Scalar.readBack? = some place.sort :=
    Scalar.mapM_readBack? fun x hx => hfloats x (List.mem_append_right _ hx)
  rw [readBack?, hkey, hsort]
  rfl

/-- A place with an infinity or a NaN has no cursor, and such a value is named as the cause.
Any other place has one, made of the symbols of the alphabet alone; and if it is not too
long and the doubles of the place survive their JSON texts, it is read back as this place,
filled up or not and also between blanks. -/
theorem ofCursor?_cursor? (place : RowKey) :
    ((∃ scalar ∈ place.key ++ place.sort, scalar.isNonFinite = true) →
      ∃ scalar ∈ place.key ++ place.sort, scalar.isNonFinite = true ∧
        place.cursor? = .error (.notFinite scalar.display)) ∧
    ((∀ scalar ∈ place.key ++ place.sort, scalar.isNonFinite = false) →
      ∃ cursor, place.cursor? = .ok cursor ∧
        (∀ c ∈ cursor.toList, Text.Base64Url.isSymbol c = true) ∧
        ((∀ x, .float x ∈ place.key ++ place.sort → x.IsReadBack) →
          cursor.utf8ByteSize ≤ maximumCursorLength →
          ofCursor? cursor = .ok place ∧
          ∀ (before after : List Char) (padding : Nat),
            (∀ c ∈ before, Text.isBlank c = true) → (∀ c ∈ after, Text.isBlank c = true) →
            padding ≤ Text.Base64Url.paddingBound cursor.toList.length →
            ofCursor? (String.ofList
                (before ++ (cursor.toList ++ List.replicate padding '=') ++ after)) =
              .ok place)) := by
  constructor
  · rintro ⟨scalar, hscalar, hinfinite⟩
    cases hfind : (place.key ++ place.sort).find? Scalar.isNonFinite with
    | none => exact absurd hinfinite (by simpa using List.find?_eq_none.mp hfind scalar hscalar)
    | some found =>
        refine ⟨found, List.mem_of_find?_eq_some hfind, List.find?_some hfind, ?_⟩
        simp only [cursor?, hfind]
  · intro hfinite
    obtain ⟨cursor, hcursor⟩ : ∃ cursor, place.cursor? = .ok cursor :=
      ⟨_, cursor?_eq_ok_iff.mpr ⟨hfinite, rfl⟩⟩
    refine ⟨cursor, hcursor, ?_, fun hfloats hlength => ?_⟩
    · obtain ⟨-, rfl⟩ := cursor?_eq_ok_iff.mp hcursor
      rw [String.toList_ofList]
      exact Text.Base64Url.isSymbol_encode _
    · have hread := readBack?_of_isReadBack hfloats
      exact ⟨ofCursor?_of_cursor? hcursor hlength hread,
        fun before after padding hbefore hafter hpadding =>
          ofCursor?_of_surrounded hcursor hlength hread hbefore hafter hpadding⟩

/-- A place with a value of each kind, and with both a whole and a broken double. -/
def sample : RowKey where
  entity := "Wörter"
  key := [.text "\"ß\"\n", .int Int64.minValue]
  sort := [.null, .bool true, .float ⟨0x3ff0000000000000⟩, .float ⟨0xbff8000000000000⟩]

theorem ofCursor?_cursor?_sample :
    ∃ cursor, sample.cursor? = .ok cursor ∧ ofCursor? cursor = .ok sample ∧
      ofCursor? (String.ofList ([' '] ++ (cursor.toList ++ ['=', '=']) ++ ['\n'])) =
        .ok sample := by
  obtain ⟨cursor, hcursor, -, hread⟩ := (ofCursor?_cursor? sample).2 (by decide)
  obtain ⟨-, heq⟩ := cursor?_eq_ok_iff.mp hcursor
  have hfloats : ∀ x, .float x ∈ sample.key ++ sample.sort → x.IsReadBack := by
    intro x hx
    have hvalue : x = ⟨0x3ff0000000000000⟩ ∨ x = ⟨0xbff8000000000000⟩ := by
      simpa [sample] using hx
    rcases hvalue with rfl | rfl <;>
      exact Binary64.isReadBack_of_numeral (by decide) (by decide +kernel)
  have hlength : cursor.utf8ByteSize ≤ maximumCursorLength := by
    rw [heq]
    decide +kernel
  have hpadding : 2 ≤ Text.Base64Url.paddingBound cursor.toList.length := by
    rw [heq]
    decide +kernel
  have hspace : ∀ c ∈ [' '], Text.isBlank c = true := List.forall_mem_singleton.mpr rfl
  have hline : ∀ c ∈ ['\n'], Text.isBlank c = true := List.forall_mem_singleton.mpr rfl
  obtain ⟨hplain, hsurrounded⟩ := hread hfloats hlength
  exact ⟨cursor, hcursor, hplain, hsurrounded [' '] ['\n'] 2 hspace hline hpadding⟩

end RowKey

end ListQuery
