import ListQuery.Toml.Value

/-!
# Adding to tables

A table may be given in several places of a file, but never twice in the same
way: a header may reopen only a table that other headers merely implied, and a
dotted key may add only to a table that was made by dotted keys.  What is written
in braces or brackets is complete.
-/

namespace ListQuery.Toml

/-- The members with those of an inner table changed, which a path leads to.  On the
way missing tables are made, and of an array of tables the latest is taken.  A dotted
path does not lead into a table that has a header. -/
def changeAt (dotted : Bool) (change : Origin → Members → Option Members) :
    List String → Origin → Members → Option Members
  | [], origin, members => change origin members
  | key :: path, _, members =>
    match members.lookup key with
    | none => do
      let origin := if dotted then Origin.dotted else .implied
      let inner ← changeAt dotted change path origin []
      return Json.insertMember key (.table origin inner) members
    | some (.table origin inner) =>
      if origin = .inlined ∨ (dotted = true ∧ origin = .header) then none
      else do
        let inner ← changeAt dotted change path origin inner
        return Json.insertMember key (.table origin inner) members
    | some (.array true items) =>
      match items.getLast? with
      | some (.table origin inner) => do
        let inner ← changeAt dotted change path origin inner
        return Json.insertMember key (.array true (items.dropLast ++ [.table origin inner])) members
      | _ => none
    | some _ => none

/-- The members with the value of a dotted key, which must not be there yet.  `path`
is the key without its last part. -/
def insertValue (path : List String) (key : String) (value : Value) (origin : Origin)
    (members : Members) : Option Members :=
  let insert (origin : Origin) (members : Members) : Option Members :=
    if (origin = .dotted) = path.isEmpty then none
    else match members.lookup key with
      | some _ => none
      | none => some (Json.insertMember key value members)
  changeAt true insert path origin members

/-- The members with a value in the table that a header opened. -/
def insertUnder (header path : List String) (key : String) (value : Value) (root : Members) :
    Option Members :=
  changeAt false (insertValue path key value) header .header root

/-- The members after the header of a table. -/
def openTable (path : List String) (key : String) (root : Members) : Option Members :=
  let insert (_ : Origin) (members : Members) : Option Members :=
    match members.lookup key with
    | none => some (Json.insertMember key (.table .header []) members)
    | some (.table .implied inner) => some (Json.insertMember key (.table .header inner) members)
    | some _ => none
  changeAt false insert path .header root

/-- The members after the header of another table of an array. -/
def openTableInArray (path : List String) (key : String) (root : Members) : Option Members :=
  let insert (_ : Origin) (members : Members) : Option Members :=
    match members.lookup key with
    | none => some (Json.insertMember key (.array true [.table .header []]) members)
    | some (.array true items) =>
      some (Json.insertMember key (.array true (items ++ [.table .header []])) members)
    | some _ => none
  changeAt false insert path .header root

end ListQuery.Toml
