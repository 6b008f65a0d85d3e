/-!
# Arguments of a command line

Arguments are options, which start with a hyphen, and operands.  An option has a
long name, after two hyphens, and may have a letter, after one.  The value of an
option is the next argument, or it follows the name after an equals sign, or the
letter with or without one.  Letters of options without values can be written
together.  After two hyphens alone everything is an operand.
-/

namespace ListQuery

/-! ## Options -/

/-- An option that can be given. -/
structure OptionForm where
  /-- The name, without hyphens. -/
  name : String
  letter : Option Char
  takesValue : Bool
  /-- Whether nothing that follows it is looked at. -/
  concludes : Bool
deriving DecidableEq

/-- What is wrong with the arguments. -/
inductive UsageError where
  | unknownOption (argument : String)
  | missingValue (option : String)
  | emptyValue (option : String)
  | unexpectedValue (option : String)
  | repeated (option : String)
  | noCommand
  | unknownCommand (argument : String)
  | missingOperand
  | surplusOperand (argument : String)
deriving DecidableEq

/-- The error as text. -/
def UsageError.message : UsageError → String
  | .unknownOption argument => "unexpected argument " ++ argument
  | .missingValue option => "a value is required for --" ++ option
  | .emptyValue option => "the value for --" ++ option ++ " must not be empty"
  | .unexpectedValue option => "no value is expected for --" ++ option
  | .repeated option => "--" ++ option ++ " cannot be used several times"
  | .noCommand => "a command is required"
  | .unknownCommand argument => "unrecognized command " ++ argument
  | .missingOperand => "an entity is required"
  | .surplusOperand argument => "unexpected argument " ++ argument

/-- Options by their names, each with the value that it was given. -/
abbrev GivenOptions := List (String × Option String)

namespace GivenOptions

/-- Whether an option was given. -/
def has (options : GivenOptions) (name : String) : Bool :=
  (options.lookup name).isSome

/-- The value that an option was given. -/
def value? (options : GivenOptions) (name : String) : Option String :=
  (options.lookup name).join

/-- The first option that was given more than once. -/
def repeated? : GivenOptions → Option String
  | [] => none
  | (name, _) :: rest => if (rest.lookup name).isSome then some name else repeated? rest

end GivenOptions

/-! ## One argument -/

/-- What an argument with hyphens gives: options, and possibly one more option whose
value is the next argument. -/
structure OptionArgument where
  options : GivenOptions
  awaiting : Option OptionForm

namespace OptionArgument

/-- A single option with the value that is attached to it, if there is one. -/
def ofForm (form : OptionForm) (attached : Option String) : Except UsageError OptionArgument :=
  match form.takesValue, attached with
  | true, some value => .ok ⟨[(form.name, some value)], none⟩
  | true, none => .ok ⟨[], some form⟩
  | false, some _ => .error (.unexpectedValue form.name)
  | false, none => .ok ⟨[(form.name, none)], none⟩

/-- The option with a long name; `body` is what follows two hyphens. -/
def ofLong (forms : List OptionForm) (body : List Char) : Except UsageError OptionArgument :=
  let name := String.ofList (body.takeWhile (· != '='))
  match forms.find? (·.name == name) with
  | none => .error (.unknownOption ("--" ++ name))
  | some form =>
    match body.dropWhile (· != '=') with
    | [] => ofForm form none
    | _ :: value => ofForm form (some (String.ofList value))

/-- The value that follows a letter, if there is one. -/
def attached? : List Char → Option String
  | [] => none
  | '=' :: value => some (String.ofList value)
  | value => some (String.ofList value)

/-- The options with letters, which follow one hyphen. -/
def ofLetters (forms : List OptionForm) : List Char → Except UsageError OptionArgument
  | [] => .ok ⟨[], none⟩
  | letter :: rest =>
    match forms.find? (·.letter == some letter) with
    | none => .error (.unknownOption (String.ofList ['-', letter]))
    | some form =>
      if form.takesValue then ofForm form (attached? rest)
      else if form.concludes then ofForm form none
      else (ofLetters forms rest).map fun others =>
        { others with options := (form.name, none) :: others.options }

/-- What an argument gives; nothing if it is an operand. -/
def ofArgument? (forms : List OptionForm) (argument : String) :
    Option (Except UsageError OptionArgument) :=
  match argument.toList with
  | '-' :: '-' :: body => some (ofLong forms body)
  | '-' :: letter :: rest => some (ofLetters forms (letter :: rest))
  | _ => none

end OptionArgument

/-- Whether an argument cannot be the value of the option before it. -/
def startsOption (argument : String) : Bool :=
  match argument.toList with
  | '-' :: _ :: _ => true
  | _ => false

/-! ## All arguments -/

/-- Arguments by what they are. -/
structure Arguments where
  options : GivenOptions
  operands : List String
  /-- A command among the arguments, with those that follow it. -/
  command : Option (String × List String)

namespace Arguments

/-- The arguments with options before them. -/
def withOptions (arguments : Arguments) (options : GivenOptions) : Arguments :=
  { arguments with options := options ++ arguments.options }

/-- The arguments with an operand before them. -/
def withOperand (arguments : Arguments) (operand : String) : Arguments :=
  { arguments with operands := operand :: arguments.operands }

/-- Whether nothing after some options is looked at. -/
def concluded (forms : List OptionForm) (options : GivenOptions) : Bool :=
  forms.any fun form => form.concludes && options.has form.name

/-- Sorts arguments, up to the first that is one of the given commands. -/
def read (forms : List OptionForm) (commands : List String) :
    List String → Except UsageError Arguments
  | [] => .ok ⟨[], [], none⟩
  | argument :: rest =>
    if commands.contains argument then .ok ⟨[], [], some (argument, rest)⟩
    else if argument = "--" then .ok ⟨[], rest, none⟩
    else match OptionArgument.ofArgument? forms argument with
      | none => (read forms commands rest).map (·.withOperand argument)
      | some (.error error) => .error error
      | some (.ok ⟨options, none⟩) =>
        if concluded forms options then .ok ⟨options, [], none⟩
        else (read forms commands rest).map (·.withOptions options)
      | some (.ok ⟨options, some form⟩) =>
        match rest with
        | [] => .error (.missingValue form.name)
        | value :: rest =>
          if startsOption value then .error (.missingValue form.name)
          else (read forms commands rest).map
            (·.withOptions (options ++ [(form.name, some value)]))

/-- Sorts arguments, none of whose options may be repeated. -/
def readDistinct (forms : List OptionForm) (commands : List String) (arguments : List String) :
    Except UsageError Arguments := do
  let arguments ← read forms commands arguments
  match arguments.options.repeated? with
  | some option => throw (.repeated option)
  | none => return arguments

end Arguments

end ListQuery
