import ListQuery.Files
import ListQuery.Files.Path

/-!
# Files in memory

A tree of files with a current directory in it.  Directories are there as far as
files are in them, and so are those on the way to the current directory.
-/

namespace ListQuery

/-- Files by the names that lead to them from the root. -/
structure FileTree where
  /-- The names that lead to the current directory. -/
  current : List String
  files : List (List String × ByteArray)

namespace FileTree

/-- What stands at a place. -/
inductive Node where
  | file (content : ByteArray)
  | directory

/-- What stands at a place that names lead to from the root. -/
def node? (tree : FileTree) (place : List String) : Option Node :=
  match tree.files.lookup place with
  | some content => some (.file content)
  | none =>
    if place.isPrefixOf tree.current || tree.files.any (fun file => place.isPrefixOf file.1) then
      some .directory
    else none

/-- The place that names lead to from a place, if each of them leads somewhere.  Above
the root there is only the root. -/
def walk (tree : FileTree) (place : List String) : List String → Except FileFailure (List String)
  | [] => .ok place
  | name :: rest =>
    match tree.node? place with
    | none => .error .notFound
    | some (.file _) => .error .notDirectory
    | some .directory =>
      if 255 < name.utf8ByteSize then .error .nameTooLong
      else if name = "" ∨ name = "." then walk tree place rest
      else if name = ".." then walk tree place.dropLast rest
      else walk tree (place ++ [name]) rest

/-- The place that a path leads to. -/
def resolve (tree : FileTree) (path : String) : Except FileFailure (List String) :=
  if path.toList.contains '\x00' then .error .invalidPath
  else if 4096 ≤ path.utf8ByteSize then .error .nameTooLong
  else if path.isEmpty then .error .notFound
  else tree.walk (if Path.isAbsolute path then [] else tree.current) (Path.names path)

/-- What a path leads to. -/
def find (tree : FileTree) (path : String) : Except FileFailure Node := do
  let place ← tree.resolve path
  match tree.node? place with
  | some node => return node
  | none => throw .notFound

/-- The content of a file. -/
def readBytes (tree : FileTree) (path : String) : Except FileFailure ByteArray := do
  match ← tree.find path with
  | .file content => return content
  | .directory => throw .isDirectory

/-- Whether a path leads somewhere. -/
def pathExists (tree : FileTree) (path : String) : Bool :=
  match tree.find path with
  | .ok _ => true
  | .error _ => false

/-- The tree with a file written. -/
def writeText (tree : FileTree) (path text : String) : Except FileFailure FileTree := do
  let place ← tree.resolve path
  match tree.node? place with
  | some .directory => throw .isDirectory
  | _ => return { tree with files := (place, text.toUTF8) :: tree.files.filter (·.1 != place) }

end FileTree

/-- A tree as the state of a computation. -/
instance : FileAccess (StateM FileTree) where
  readBytes path := do return (← get).readBytes path
  pathExists path := do return (← get).pathExists path
  writeText path text := do
    match (← get).writeText path text with
    | .ok tree =>
      set tree
      return .ok ()
    | .error failure => return .error failure

end ListQuery
