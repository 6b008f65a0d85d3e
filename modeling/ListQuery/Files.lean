/-!
# Reading and writing files

What the library needs of a file system: whether something is there, its
content, and a way to write a text.  Why a file cannot be read is told in the
words of the operating system.
-/

namespace ListQuery

/-- Why a file cannot be read or written. -/
inductive FileFailure where
  | notFound
  /-- There is a directory where a file is expected. -/
  | isDirectory
  /-- There is a file where a directory is expected. -/
  | notDirectory
  /-- The content is no text. -/
  | notText
  /-- The path has a character that no path can have. -/
  | invalidPath
  /-- The path, or a name in it, is too long. -/
  | nameTooLong
  /-- The operating system gives another reason. -/
  | other (reason : String)
deriving DecidableEq

/-- The failure as text. -/
def FileFailure.message : FileFailure → String
  | .notFound => "No such file or directory (os error 2)"
  | .isDirectory => "Is a directory (os error 21)"
  | .notDirectory => "Not a directory (os error 20)"
  | .notText => "stream did not contain valid UTF-8"
  | .invalidPath => "file name contained an unexpected NUL byte"
  | .nameTooLong => "File name too long (os error 36)"
  | .other reason => reason

/-- Access to files by their paths. -/
class FileAccess (m : Type → Type) where
  /-- The content of a file. -/
  readBytes : String → m (Except FileFailure ByteArray)
  /-- Whether there is a file or a directory. -/
  pathExists : String → m Bool
  /-- Writes a file. -/
  writeText : String → String → m (Except FileFailure Unit)

/-- The text that octets encode. -/
def FileFailure.decode (content : ByteArray) : Except FileFailure String :=
  match String.fromUTF8? content with
  | some text => .ok text
  | none => .error .notText

/-- The text of a file. -/
def FileAccess.readText {m : Type → Type} [Monad m] [FileAccess m] (path : String) :
    m (Except FileFailure String) := do
  return (← readBytes path).bind FileFailure.decode

end ListQuery
