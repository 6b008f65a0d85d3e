import ListQuery.Command.Run

/-!
# The program

Files, variables and streams of the operating system.
-/

namespace ListQuery

/-- The number that the operating system gives to an error.  Some operations report
it negated. -/
def errorNumber? : IO.Error → Option UInt32
  | .noFileOrDirectory _ number _ | .inappropriateType _ number _ | .invalidArgument _ number _
  | .permissionDenied _ number _ | .otherError number _ =>
    some (if number < 0x80000000 then number else 0 - number)
  | _ => none

/-- An error of the operating system as a reason why a file cannot be used. -/
def FileFailure.ofError (error : IO.Error) : FileFailure :=
  match errorNumber? error with
  | some 2 => .notFound
  | some 20 => .notDirectory
  | some 21 => .isDirectory
  | some 36 => .nameTooLong
  | _ => .other (toString error)

/-- The outcome of an operation on files. -/
def attempt {α : Type} (operation : IO α) : IO (Except FileFailure α) := do
  return (← operation.toBaseIO).mapError FileFailure.ofError

/-- The files of the operating system. -/
instance : FileAccess IO where
  readBytes path := attempt (IO.FS.readBinFile path)
  pathExists path := do return (← (IO.FS.realPath path).toBaseIO).isOk
  writeText path text := attempt (IO.FS.writeFile path text)

/-- The variables of the process. -/
def processEnvironment : IO Environment := do
  match ← attempt (IO.FS.readBinFile "/proc/self/environ") with
  | .ok block => return .ofBlock block
  | .error _ => return []

end ListQuery

/-- Does what the arguments ask for. -/
def main (arguments : List String) : IO UInt32 := do
  let toTerminal ← (← IO.getStdout).isTty
  let outcome ← ListQuery.runProgram (← ListQuery.processEnvironment) toTerminal arguments
  (← IO.getStdout).putStr outcome.output
  (← IO.getStderr).putStr outcome.errors
  return outcome.status
