import ListQuery.Json.Printer
import ListQuery.Text.Base64Url
import ListQuery.Text.Blank
import ListQuery.Wire.Context
import ListQuery.Wire.Document

/-!
# Cursors

A cursor stands for the place of a row in a list.  It holds the row's key and
its values in the fields that the list is ordered by, as a JSON text in URL-safe
symbols.
-/

namespace ListQuery

/-- The place of a row in a list. -/
structure RowKey where
  entity : String
  /-- The values of the key fields. -/
  key : List Scalar
  /-- The values of the fields of the ordering. -/
  sort : List Scalar
deriving DecidableEq

/-- Why a text is no cursor, or a place has none. -/
inductive CursorFault where
  | empty
  | tooLong (length maximum : Nat)
  /-- The text is not made of URL-safe symbols. -/
  | notSymbols
  /-- The symbols do not stand for a text. -/
  | notText
  /-- The text does not describe a place. -/
  | notPlace
  /-- A value of the place, shown here, is an infinity or a NaN. -/
  | notFinite (shown : String)
deriving DecidableEq

namespace CursorFault

/-- The fault as text. -/
def message : CursorFault → String
  | .empty => "cursor is empty"
  | .tooLong length maximum =>
    "cursor exceeds max length: " ++ Text.natText length ++ " chars (max "
      ++ Text.natText maximum ++ ")"
  | .notSymbols => "cursor is not valid base64url"
  | .notText => "cursor is not valid UTF-8"
  | .notPlace => "cursor payload is malformed:"
  | .notFinite shown => "cursor value " ++ shown ++ " is not a finite number"

/-- The rejection of a request with such a cursor. -/
def rejection (fault : CursorFault) : Rejection :=
  .ofField "pagination" ("invalid cursor: " ++ fault.message)

end CursorFault

namespace RowKey

open Wire

/-- The place that a document is. -/
def read? {σ : Type} [Document σ] (value : σ) : Option RowKey := do
  let parts ← parts? ["entity", "key", "sort"] value
  let entity ← parts.required "entity" text?
  let key ← parts.required "key" (list? Scalar.read?)
  let sort ← parts.withDefault "sort" [] (list? Scalar.read?)
  return ⟨entity, key, sort⟩

/-- The JSON value of a place. -/
def toJson (place : RowKey) : Json :=
  .object ([("entity", .text place.entity), ("key", .array (place.key.map Scalar.toJson))]
    ++ if place.sort.isEmpty then [] else [("sort", .array (place.sort.map Scalar.toJson))])

/-! ## Between places and cursors -/

/-- The cursor of a place, which has one unless one of its values is an infinity
or a NaN. -/
def cursor? (place : RowKey) : Except CursorFault String :=
  match (place.key ++ place.sort).find? Scalar.isNonFinite with
  | some value => .error (.notFinite value.display)
  | none => .ok (String.ofList (Text.Base64Url.encode place.toJson.render.toUTF8.data.toList))

/-- How many octets a cursor may have that comes from outside. -/
def maximumCursorLength : Nat := 4096

/-- The place that a cursor stands for.  Blanks around it do not count. -/
def ofCursor? (cursor : String) : Except CursorFault RowKey := do
  let chars := Text.trimChars cursor.toList
  if chars.isEmpty then throw .empty
  -- A text that is too long is refused before anything of it is decoded.
  let length := (String.ofList chars).utf8ByteSize
  if maximumCursorLength < length then throw (.tooLong length maximumCursorLength)
  match Text.Base64Url.decode? chars with
  | none => throw .notSymbols
  | some octets =>
    match String.fromUTF8? ⟨octets.toArray⟩ with
    | none => throw .notText
    | some text =>
      match (Json.Doc.read? text).bind read? with
      | none => throw .notPlace
      | some place => return place

end RowKey

end ListQuery
