import ListQuery.Command.Arguments

/-!
# What a command line asks for
-/

namespace ListQuery

/-- The list that a command is about. -/
structure ListTarget where
  entity : String
  application : Option String
  /-- The context as a JSON text, or the path of a file with it after an at sign. -/
  context : Option String
deriving DecidableEq

/-- What there is to do. -/
inductive Command where
  /-- Show the statement of a list. -/
  | render (target : ListTarget) (asJson : Bool)
  /-- Run the statement of a list. -/
  | list (target : ListTarget)
  /-- Look whether the configuration and the applications are in order. -/
  | check
  /-- Write a configuration that names an application file. -/
  | init (application : String)
  /-- Tell the version of the program. -/
  | version
deriving DecidableEq

/-- What to do, and how. -/
structure Invocation where
  /-- The file with the configuration. -/
  configuration : Option String
  verbose : Bool
  command : Command
deriving DecidableEq

/-! ## Options -/

/-- Options that stand before or after the name of a command. -/
def generalOptions : List OptionForm :=
  [⟨"config", some 'c', true, false⟩, ⟨"verbose", some 'v', false, false⟩]

/-- The option in place of a command that asks for the version of the program. -/
def versionOption : OptionForm := ⟨"version", some 'V', false, true⟩

/-- Options that say what list is meant. -/
def targetOptions : List OptionForm :=
  [⟨"app", some 'a', true, false⟩, ⟨"context", none, true, false⟩]

namespace Command

/-- The names of the commands. -/
def names : List String := ["render", "list", "check", "init"]

/-- The options of the command with a name. -/
def optionsOf : String → List OptionForm
  | "render" => targetOptions ++ [⟨"json", none, false, false⟩]
  | "list" => targetOptions
  | "init" => [⟨"application", none, true, false⟩]
  | _ => []

/-- The application file that a new configuration names if none is given. -/
def standardApplication : String := "app.json"

/-! ## Reading a command line -/

/-- Arguments without operands. -/
def requireNoOperand (arguments : Arguments) : Except UsageError Unit :=
  match arguments.operands with
  | [] => .ok ()
  | operand :: _ => .error (.surplusOperand operand)

/-- The list that arguments are about. -/
def targetOf (arguments : Arguments) : Except UsageError ListTarget :=
  match arguments.operands with
  | [] => .error .missingOperand
  | [entity] => .ok ⟨entity, arguments.options.value? "app", arguments.options.value? "context"⟩
  | _ :: operand :: _ => .error (.surplusOperand operand)

/-- The command with a name, given its arguments. -/
def ofArguments (name : String) (arguments : Arguments) : Except UsageError Command :=
  match name with
  | "render" => return .render (← targetOf arguments) (arguments.options.has "json")
  | "list" => return .list (← targetOf arguments)
  | "check" => do
    requireNoOperand arguments
    return .check
  | "init" => do
    requireNoOperand arguments
    return .init ((arguments.options.value? "application").getD standardApplication)
  | _ => .error (.unknownCommand name)

end Command

namespace Invocation

/-- The path of the configuration among options. -/
def configurationPath (options : GivenOptions) : Except UsageError (Option String) :=
  match options.value? "config" with
  | some "" => .error (.emptyValue "config")
  | path => .ok path

/-- What the arguments of the program ask for.  A general option after the name of the
command counts more than one before it. -/
def ofArguments (arguments : List String) : Except UsageError Invocation := do
  let outer ← Arguments.readDistinct (generalOptions ++ [versionOption]) Command.names arguments
  if let operand :: _ := outer.operands then throw (.unknownCommand operand)
  let outerPath ← configurationPath outer.options
  if outer.options.has versionOption.name then return ⟨outerPath, false, .version⟩
  let some (name, rest) := outer.command | throw .noCommand
  let inner ← Arguments.readDistinct (generalOptions ++ Command.optionsOf name) [] rest
  let innerPath ← configurationPath inner.options
  let command ← Command.ofArguments name inner
  return ⟨innerPath.or outerPath,
    outer.options.has "verbose" || inner.options.has "verbose", command⟩

end Invocation

end ListQuery
