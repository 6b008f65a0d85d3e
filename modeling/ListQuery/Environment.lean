import ListQuery.Text.Alphanumeric
import ListQuery.Text.Blank

/-!
# Variables of the environment

Variables can also be set in a file.  Each of its lines gives a name and, after an
equals sign, a value.  A value may be quoted, in which case it can go over
several lines, and it may refer to other variables.  A file never changes a
variable that is set already, and nothing after a line with a mistake counts.
-/

namespace ListQuery

/-- The texts that set variables, each a name, an equals sign and a value. -/
abbrev Environment := List String

namespace Environment

/-! ## Variables that are set -/

/-- What follows a name and an equals sign at the front of a text. -/
def valueIn? (name text : String) : Option String :=
  let start := name.toList ++ ['=']
  if start.isPrefixOf text.toList then some (String.ofList (text.toList.drop start.length))
  else none

/-- The value of a variable, which the first text gives that starts with its name and
an equals sign.  A text may so give values to several names, if there are equals signs
in its value.  No variable has an empty name. -/
def lookup (environment : Environment) (name : String) : Option String :=
  if name.isEmpty then none else environment.findSome? (valueIn? name)

/-- The environment with a variable, unless it has it already. -/
def setIfUnset (environment : Environment) (name value : String) : Environment :=
  match environment.lookup name with
  | some _ => environment
  | none => environment ++ [name ++ "=" ++ value]

/-! ## Lines that belong together -/

/-- Where the text of a line stands at its end. -/
inductive LineState where
  | complete
  /-- After a backslash. -/
  | escape
  /-- In single quotes. -/
  | strong
  | strongEscape
  /-- In double quotes. -/
  | weak
  | weakEscape
  /-- After a blank, where a comment can start. -/
  | blank
deriving DecidableEq

/-- The state after a character outside of quotes. -/
def LineState.outside (c : Char) (otherwise : LineState) : LineState :=
  if c = '\\' then .escape
  else if c = '"' then .weak
  else if c = '\'' then .strong
  else otherwise

/-- The state after a character, unless a comment starts with it. -/
def LineState.next? (state : LineState) (c : Char) : Option LineState :=
  match state with
  | .blank => if c = '#' then none else some (.outside c .complete)
  | .escape => some .complete
  | .complete =>
    if Text.isBlank c && c != '\n' && c != '\r' then some .blank else some (.outside c .complete)
  | .weak => some (if c = '\\' then .weakEscape else if c = '"' then .complete else .weak)
  | .weakEscape => some .weak
  | .strong => some (if c = '\\' then .strongEscape else if c = '\'' then .complete else .strong)
  | .strongEscape => some .strong

/-- How a line ends: in a state, or with a comment after some characters. -/
inductive LineEnd where
  | state (state : LineState)
  | comment (before : List Char)

/-- How a line ends; `read` holds, last one first, the characters of it so far. -/
def lineEnd (state : LineState) (read : List Char) : List Char → LineEnd
  | [] => .state state
  | c :: rest =>
    match state.next? c with
    | none => .comment read.reverse
    | some state => lineEnd state (c :: read) rest

/-! ## Values -/

/-- A variable that is referred to: the characters of its name, last one first, and
whether it stands in braces. -/
structure VariableReference where
  braced : Bool
  name : List Char

/-- Where the reading of a value stands. -/
structure ValueState where
  /-- In single quotes. -/
  strong : Bool
  /-- In double quotes. -/
  weak : Bool
  /-- After a backslash. -/
  escaped : Bool
  /-- After a blank, where only a comment can follow. -/
  ending : Bool
  reference : Option VariableReference
  /-- The value so far, last character first. -/
  value : List Char

/-- The value so far with another character. -/
def ValueState.add (state : ValueState) (c : Char) : ValueState :=
  { state with value := c :: state.value }

/-- What an escape stands for. -/
def escaped? : Char → Option Char
  | 'n' => some '\n'
  | c => if c = '\\' ∨ c = '\'' ∨ c = '"' ∨ c = '$' ∨ c = ' ' then some c else none

/-- The value of a variable: the one that is set, or else the one given earlier in the
file, or nothing. -/
def valueOf (environment : Environment) (earlier : List (String × String)) (name : List Char) :
    List Char :=
  let name := String.ofList name.reverse
  ((environment.lookup name).or (earlier.lookup name)).elim [] String.toList

/-- The value so far with the value of a variable. -/
def ValueState.substitute (state : ValueState) (value : List Char) : ValueState :=
  { state with value := value.reverse ++ state.value, reference := none }

/-- The state after a character of a reference. -/
def ValueState.inReference (state : ValueState) (reference : VariableReference)
    (valueOf : List Char → List Char) (c : Char) : ValueState :=
  if Text.isAlphanumeric c then
    { state with reference := some { reference with name := c :: reference.name } }
  else if reference.braced then
    if c = '\x7d' then state.substitute (valueOf reference.name)
    else { state with reference := some { reference with name := c :: reference.name } }
  else if c = '\x7b' ∧ reference.name.isEmpty then { state with reference := some ⟨true, []⟩ }
  else
    let substituted := state.substitute (valueOf reference.name)
    if c = '$' then { substituted with reference := some ⟨false, []⟩ } else substituted.add c

/-- The state after a character outside of single quotes, escapes and references. -/
def ValueState.plain (state : ValueState) (c : Char) : ValueState :=
  if c = '$' then { state with reference := some ⟨false, []⟩ }
  else if c = '\\' then { state with escaped := true }
  else if state.weak then if c = '"' then { state with weak := false } else state.add c
  else if c = '\'' then { state with strong := true }
  else if c = '"' then { state with weak := true }
  else if c = ' ' ∨ c = '\t' then { state with ending := true }
  else state.add c

/-- The state at the end of a value. -/
def readValue (valueOf : List Char → List Char) (state : ValueState) : List Char → Option ValueState
  | [] => some state
  | c :: rest =>
    if state.ending then
      if c = ' ' ∨ c = '\t' then readValue valueOf state rest
      else if c = '#' then some state
      else none
    else if state.escaped then
      match escaped? c with
      | some value => readValue valueOf { state.add value with escaped := false } rest
      | none => none
    else if state.strong then
      readValue valueOf (if c = '\'' then { state with strong := false } else state.add c) rest
    else match state.reference with
      | some reference => readValue valueOf (state.inReference reference valueOf c) rest
      | none => readValue valueOf (state.plain c) rest

/-- The value that a text writes. -/
def value? (valueOf : List Char → List Char) (chars : List Char) : Option (List Char) := do
  let state ← readValue valueOf ⟨false, false, false, false, none, []⟩ chars
  if state.strong || state.weak || state.reference.any VariableReference.braced then failure
  match state.reference with
  | some reference => return (state.substitute (valueOf reference.name)).value.reverse
  | none => return state.value.reverse

/-! ## Lines -/

/-- Whether a character can be the first of a name. -/
def isNameStart (c : Char) : Bool := c.isAlpha || c == '_'

/-- Whether a character can stand in a name. -/
def isNameChar (c : Char) : Bool := c.isAlphanum || c == '_' || c == '.'

/-- A name at the front of a text, and what follows it and any blanks. -/
def name? (chars : List Char) : Option (List Char × List Char) :=
  match chars with
  | [] => none
  | c :: _ =>
    if isNameStart c then
      let (name, rest) := chars.span isNameChar
      some (name, rest.dropWhile Text.isBlank)
    else none

/-- The name that a line gives a value to, and the text of the value.  The word
`export` may stand before the name. -/
def assignment? (chars : List Char) : Option (String × List Char) := do
  let (name, rest) ← name? chars
  match rest with
  | '=' :: rest => return (String.ofList name, rest.dropWhile Text.isBlank)
  | rest =>
    if name ≠ "export".toList then failure
    let (name, rest) ← name? rest
    let '=' :: rest := rest | failure
    return (String.ofList name, rest.dropWhile Text.isBlank)

/-- What a line says. -/
inductive Line where
  | nothing
  | variable (name : String) (value : String)
  | mistake

/-- What a line says, given the values of other variables. -/
def readLine (valueOf : List Char → List Char) (chars : List Char) : Line :=
  let chars := Text.trimChars chars
  if chars.isEmpty || chars.head? == some '#' then .nothing
  else match assignment? chars with
    | none => .mistake
    | some (name, text) =>
      if text.isEmpty || text.head? == some '#' then .variable name ""
      else match value? valueOf text with
        | some value => .variable name (String.ofList value)
        | none => .mistake

/-! ## Files -/

/-- The line without the line end. -/
def dropLineEnd (line : List Char) : List Char :=
  match line.reverse with
  | '\n' :: '\r' :: rest => rest.reverse
  | '\n' :: rest => rest.reverse
  | _ => line

/-- The environment after the lines of a file.  A line that is no text is absent.
`started` holds earlier lines that have not come to an end, in the given state, and
`earlier` the values that the file has given. -/
def addLines (environment : Environment) (earlier : List (String × String)) (state : LineState)
    (started : List Char) : List (Option (List Char)) → Environment
  | [] => environment
  | none :: _ => environment
  | some line :: rest =>
    let whole := started ++ line
    let complete (chars : List Char) : Environment :=
      match readLine (valueOf environment earlier) chars with
      | .nothing => addLines environment earlier .complete [] rest
      | .variable name value =>
        addLines (environment.setIfUnset name value) ((name, value) :: earlier) .complete [] rest
      | .mistake => environment
    if (whole.dropWhile Text.isBlank).head? = some '#' then
      addLines environment earlier .complete [] rest
    else match lineEnd state [] line with
      | .comment before => complete (started ++ before)
      | .state .complete => complete (dropLineEnd whole)
      | .state state => addLines environment earlier state whole rest

/-- The lines of a file, each with its line end; `line` holds, last one first, the
octets of the line that is being read. -/
def splitLines (line : List UInt8) : List UInt8 → List (List UInt8)
  | [] => if line.isEmpty then [] else [line.reverse]
  | c :: rest =>
    if c = 10 then (c :: line).reverse :: splitLines [] rest else splitLines (c :: line) rest

/-- The octets without a mark that tells their order. -/
def withoutMark : List UInt8 → List UInt8
  | 0xEF :: 0xBB :: 0xBF :: rest => rest
  | octets => octets

/-- The environment with the variables that a file sets. -/
def addFile (environment : Environment) (content : ByteArray) : Environment :=
  let lines := splitLines [] (withoutMark content.data.toList)
  environment.addLines [] .complete [] (lines.map fun line =>
    (String.fromUTF8? ⟨line.toArray⟩).map String.toList)

/-! ## Blocks of memory -/

/-- The texts of a block, each of which ends with a zero octet; `text` holds, last one
first, the octets of the text that is being read. -/
def splitBlock (text : List UInt8) : List UInt8 → List (List UInt8)
  | [] => []
  | c :: rest => if c = 0 then text.reverse :: splitBlock [] rest else splitBlock (c :: text) rest

/-- The environment that a block describes. -/
def ofBlock (block : ByteArray) : Environment :=
  (splitBlock [] block.data.toList).filterMap fun text => String.fromUTF8? ⟨text.toArray⟩

end Environment

end ListQuery
