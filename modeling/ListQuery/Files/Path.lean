/-!
# Paths

A path is a sequence of names with slashes between them.  Empty names and single
dots lead nowhere, save for a slash or a dot at the very beginning.
-/

namespace ListQuery.Path

/-- The names of a path, empty ones and dots included; `name` holds, last one first,
the characters of the name that is being read. -/
def splitNames (name : List Char) : List Char → List (List Char)
  | [] => [name.reverse]
  | c :: rest => if c = '/' then name.reverse :: splitNames [] rest else splitNames (c :: name) rest

/-- The names of a path. -/
def names (path : String) : List String :=
  (splitNames [] path.toList).map String.ofList

/-- Whether a path starts at the root of the file system. -/
def isAbsolute (path : String) : Bool :=
  path.toList.head? == some '/'

/-- The names without those at the end that lead nowhere.  The first name says where
the path starts and stays. -/
def dropIdle : List String → List String
  | [] => []
  | first :: rest => first :: (rest.reverse.dropWhile fun name => name == "" || name == ".").reverse

/-- The text of a sequence of names. -/
def ofNames : List String → String
  | [""] => "/"
  | names => String.intercalate "/" names

/-- The path of the directory that holds what a path leads to; empty for the current
directory. -/
def parent (path : String) : String :=
  match dropIdle (names path) with
  | [] | [_] => ""
  | names => ofNames (dropIdle names.dropLast)

/-- The path that one leads to starting from another. -/
def join (start path : String) : String :=
  if isAbsolute path || start.isEmpty then path
  else if start.toList.getLast? = some '/' then start ++ path
  else start ++ "/" ++ path

/-- The last name of a path, if it is the name of a file. -/
def fileName? (path : String) : Option String :=
  (dropIdle (names path)).getLast?.filter fun name => name != "" && name != "." && name != ".."

/-- The part of a name after its last dot, if there is something before the dot. -/
def extensionOf? (name : List Char) : Option String :=
  let suffix := name.reverse.takeWhile (· != '.')
  if suffix.length + 1 < name.length then some (String.ofList suffix.reverse) else none

/-- The extension of the file that a path leads to. -/
def extension? (path : String) : Option String :=
  (fileName? path).bind fun name => extensionOf? name.toList

end ListQuery.Path
