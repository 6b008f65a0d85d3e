import ListQuery.Proofs.Row
import ListQuery.Proofs.Wire.Context

/-!
# The scalar of a value

A document is read as a scalar by trying one kind of scalar after the other, up to the first
that takes it.  A value of a row is looked at for what it is, its number for whether it fits in
a signed word.  Both come to the same (`readInTurn?_eq_ofJson?`): a whole number that is too
large for a word is refused as one and then taken as a double.

So a value that a row shows as a scalar is read back from a cursor as this scalar.  The one
exception is a text that stands in an object for the text of a value: whoever keeps values as
they are finds the value that this text has, and a reader of scalars finds an object.
-/

namespace ListQuery

/-- Whether an object stands for the text of a value. -/
def Json.Doc.isEmbedding : Json.Doc → Bool
  | .object members => (embedded? members).isSome
  | _ => false

namespace Scalar

open Wire

/-! ## One kind after the other -/

section

variable {σ : Type} [Document σ]

/-- A document as the null scalar. -/
def null? (value : σ) : Option Scalar :=
  match Document.view? value with
  | some .null => some .null
  | _ => none

/-- A document as a signed word.  Larger integers and doubles are none. -/
def int? (value : σ) : Option Scalar :=
  match Document.view? value with
  | some (.number (.integer value _)) =>
    if value < 0x8000000000000000 then some (.int (Int64.ofInt value)) else none
  | _ => none

/-- A document as a double, the nearest one to an integer. -/
def float? (value : σ) : Option Scalar :=
  match Document.view? value with
  | some (.number (.integer value _)) => some (.float (Binary64.ofInt value))
  | some (.number (.float value _)) => some (.float value)
  | _ => none

/-- The readers of the kinds of scalars, in the order in which they are tried. -/
def kinds : List (σ → Option Scalar) :=
  [null?, fun value => (bool? value).map .bool, int?, float?,
    fun value => (text? value).map .text]

/-- The scalar that a document is to the first kind that takes it. -/
def readInTurn? (value : σ) : Option Scalar :=
  kinds.findSome? fun kind => kind value

/-- No two kinds take the same document, integers apart, which are doubles only if they are no
words. -/
theorem readInTurn?_eq_read? (value : σ) : readInTurn? value = read? value := by
  unfold readInTurn? kinds read?
  simp only [List.findSome?_cons, List.findSome?_nil, null?, bool?, int?, float?, text?]
  cases Document.view? value with
  | none => rfl
  | some view =>
      cases view with
      | null | bool | text | items | members => rfl
      | number number =>
          cases number with
          | float value finite => rfl
          | integer value fits =>
              simp only [ofNumber, Option.map_none]
              by_cases hword : value < 0x8000000000000000
              · simp only [if_pos hword]
              · simp only [if_neg hword]

end

/-! ## Values -/

theorem read?_eq_ofJson? (value : Json) : read? value = ofJson? value := by
  cases value <;> rfl

/-- A scalar with a JSON value is the scalar of this value. -/
theorem ofJson?_toJson {scalar : Scalar} (hfinite : scalar.isNonFinite = false) :
    ofJson? scalar.toJson = some scalar := by
  cases scalar with
  | null | bool | text => rfl
  | int value =>
      have hword : value.toInt < 0x8000000000000000 := value.toInt_lt
      rw [toJson, Json.ofInt64, ofJson?, ofNumber, if_pos hword, Int64.ofInt_toInt]
  | float x =>
      have hx : x.isFinite = true := by simpa [isNonFinite] using hfinite
      rw [toJson, Json.ofBinary64, Json.Number.ofBinary64?, dif_pos hx]
      rfl

/-- A value that has a scalar is the value of this scalar, or an integer beyond the words. -/
theorem eq_toJson_of_ofJson? {value : Json} {scalar : Scalar}
    (hscalar : ofJson? value = some scalar) :
    value = scalar.toJson ∨
      ∃ n fits, value = .number (.integer n fits) ∧ 0x8000000000000000 ≤ n ∧
        scalar = .float (Binary64.ofInt n) := by
  cases value with
  | null | bool | text => cases hscalar; exact .inl rfl
  | array | object => cases hscalar
  | number number =>
      cases number with
      | float x finite =>
          cases hscalar
          refine .inl ?_
          rw [ofNumber, toJson, Json.ofBinary64, Json.Number.ofBinary64?, dif_pos finite]
      | integer n fits =>
          -- Beyond the words an integer is shown as the nearest double.
          by_cases hword : n < 0x8000000000000000
          · rw [ofJson?, ofNumber, if_pos hword] at hscalar
            cases hscalar
            refine .inl ?_
            have htoInt : (Int64.ofInt n).toInt = n := Int64.toInt_ofInt_of_le (by omega) (by omega)
            simp only [toJson, Json.ofInt64, htoInt]
          · rw [ofJson?, ofNumber, if_neg hword] at hscalar
            cases hscalar
            exact .inr ⟨n, fits, rfl, by omega, rfl⟩

/-! ## Texts -/

/-- A document that stands for no text is the scalar of its value, if it is one. -/
theorem read?_eq_of_isEmbedding {doc : Json.Doc} (hdoc : doc.isEmbedding = false)
    (read : String → Option Json) (levels : Nat) :
    read? doc = (doc.toJson? read levels).bind ofJson? := by
  cases doc with
  | null => rfl
  | bool value => rfl
  | numeral n =>
      rw [read?_numeral, Json.Doc.toJson?]
      cases n.toNumber? <;> rfl
  | text value => cases value <;> rfl
  | array items =>
      cases levels with
      | zero => rfl
      | succ levels =>
          rw [Json.Doc.toJson?]
          cases Json.Doc.itemsToJson? read levels items <;> rfl
  | object members =>
      have hmembers : Json.Doc.embedded? members = none := by
        simpa [Json.Doc.isEmbedding] using hdoc
      cases levels with
      | zero => rfl
      | succ levels =>
          simp only [Json.Doc.toJson?, hmembers]
          cases Json.Doc.membersToJson? read levels members <;> rfl

/-- An object is no scalar, whatever it stands for. -/
theorem read?_of_isEmbedding {doc : Json.Doc} (hdoc : doc.isEmbedding = true) :
    read? doc = none := by
  cases doc with
  | object members => rfl
  | null | bool | numeral | text | array => cases hdoc

/-- A scalar is read back from its JSON text if it is no double that is not. -/
theorem readBack?_of_floats {scalar : Scalar} (hfloats : ∀ x, scalar = .float x → x.IsReadBack) :
    scalar.readBack? = some scalar := by
  cases scalar with
  | float x => exact readBack?_float (hfloats x rfl)
  | null | bool | int | text => exact readBack?_of_ne_float (by simp)

/-! ## Rows -/

/-- What a row shows as a scalar is the scalar of one of its values. -/
theorem exists_member_of_scalarAt {row : Row} {field : String} {scalar : Scalar}
    (hscalar : row.scalarAt field = .ok scalar) :
    ∃ value, Json.member? field row = some value ∧ ofJson? value = some scalar :=
  Row.scalarAt_eq_ok_iff.mp hscalar

/-! ## Both readers -/

/-- Trying one kind of scalar after the other, a reader finds in a value the scalar that is
made of what the value is, or none where there is none.  It is finite, and the value is its
JSON value unless it is an integer beyond the words; and every scalar with a JSON value is
found in it.  What a row shows as a scalar is found in the value that the row has there, in the
JSON value of the scalar, and in the text of that value if the text of a double is read as this
double.  Reading the text of a value comes to the same as reading the value, unless the whole
text is an object that stands for a text, in which there is no scalar to be found. -/
theorem readInTurn?_eq_ofJson? :
    (∀ value : Json, readInTurn? value = ofJson? value) ∧
    (∀ scalar : Scalar, scalar.isNonFinite = false → ofJson? scalar.toJson = some scalar) ∧
    (∀ (value : Json) (scalar : Scalar), ofJson? value = some scalar →
      scalar.isNonFinite = false ∧
      (value = scalar.toJson ∨
        ∃ n fits, value = .number (.integer n fits) ∧ 0x8000000000000000 ≤ n ∧
          scalar = .float (Binary64.ofInt n))) ∧
    (∀ (row : Row) (field : String) (scalar : Scalar), row.scalarAt field = .ok scalar →
      (∃ value, Json.member? field row = some value ∧ readInTurn? value = some scalar) ∧
      readInTurn? scalar.toJson = some scalar ∧
      ((∀ x, scalar = .float x → x.IsReadBack) →
        (Json.Doc.read? scalar.toJson.render).bind readInTurn? = some scalar)) ∧
    ∀ (text : String) (doc : Json.Doc), Json.Doc.read? text = some doc →
      readInTurn? doc = if doc.isEmbedding then none else (Json.read? text).bind ofJson? := by
  have hturn : ∀ {σ : Type} [Document σ], (readInTurn? : σ → Option Scalar) = read? :=
    funext readInTurn?_eq_read?
  refine ⟨fun value => ?_, fun scalar => ofJson?_toJson, fun value scalar hscalar => ?_,
    fun row field scalar hscalar => ?_, fun text doc hdoc => ?_⟩
  · rw [hturn, read?_eq_ofJson?]
  · have hread : read? value = some scalar := by rw [read?_eq_ofJson?, hscalar]
    exact ⟨isNonFinite_of_read? hread, eq_toJson_of_ofJson? hscalar⟩
  · obtain ⟨value, hvalue, hfound⟩ := exists_member_of_scalarAt hscalar
    have hread : read? value = some scalar := by rw [read?_eq_ofJson?, hfound]
    have hfinite : scalar.isNonFinite = false := isNonFinite_of_read? hread
    rw [hturn, hturn]
    refine ⟨⟨value, hvalue, hread⟩, ?_, readBack?_of_floats⟩
    rw [read?_eq_ofJson?, ofJson?_toJson hfinite]
  · rw [hturn]
    split
    next hembedding => exact read?_of_isEmbedding hembedding
    next hembedding =>
      rw [Json.read?, Json.readWithin?, hdoc, Option.bind_some]
      exact read?_eq_of_isEmbedding (by simpa using hembedding) _ _

/-- A row with the least integer that is no word. -/
def beyond : Row := [("n", .ofNat 0x8000000000000000)]

/-- The least integer that is no word is shown as a double, which is finite and read back as a
double; and a zero with a sign is a double too. -/
theorem readInTurn?_eq_ofJson?_beyond :
    beyond.scalarAt "n" = .ok (.float ⟨0x43e0000000000000⟩) ∧
    ofJson? (.ofNat 0x8000000000000000) = some (.float ⟨0x43e0000000000000⟩) ∧
    isNonFinite (.float ⟨0x43e0000000000000⟩) = false ∧
    readInTurn? (toJson (.float ⟨0x43e0000000000000⟩)) = some (.float ⟨0x43e0000000000000⟩) ∧
    (Json.Doc.read? (toJson (.float ⟨0x43e0000000000000⟩)).render).bind readInTurn? =
      some (.float ⟨0x43e0000000000000⟩) ∧
    ofJson? (toJson (.float ⟨0x8000000000000000⟩)) = some (.float ⟨0x8000000000000000⟩) ∧
    ∃ doc, Json.Doc.read? "-0" = some doc ∧ readInTurn? doc = (Json.read? "-0").bind ofJson? := by
  obtain ⟨-, hsame, hfinite, hrow, htext⟩ := readInTurn?_eq_ofJson?
  have hvalue : ofJson? (.ofNat 0x8000000000000000) = some (.float ⟨0x43e0000000000000⟩) := by
    decide +kernel
  have hshown : beyond.scalarAt "n" = .ok (.float ⟨0x43e0000000000000⟩) := by
    rw [Row.scalarAt, show Json.member? "n" beyond = some (.ofNat 0x8000000000000000) from rfl]
    simp only [hvalue]
  have hfloats : ∀ x, Scalar.float ⟨0x43e0000000000000⟩ = .float x → x.IsReadBack := by
    rintro x heq
    cases heq
    exact Binary64.isReadBack_of_numeral (by decide) (by decide +kernel)
  have hzero : Json.Doc.read? "-0" = some (.numeral ⟨true, ['0'], none, none⟩) := by rfl
  obtain ⟨-, hjson, hback⟩ := hrow beyond "n" _ hshown
  exact ⟨hshown, hvalue, (hfinite _ _ hvalue).1, hjson, hback hfloats,
    hsame _ (by decide), _, hzero, htext "-0" _ hzero⟩

end Scalar

end ListQuery
