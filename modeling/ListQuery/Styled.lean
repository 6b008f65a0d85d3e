import ListQuery.Environment
import ListQuery.Text.Lines

/-!
# Text with styles

What the program writes for people has words that stand out.  A line is a sequence
of spans, each with or without a style, and it is written either with the control
sequences of a terminal or without any.
-/

namespace ListQuery

/-- What a span stands out as. -/
inductive Style where
  | heading
  | label
  /-- Less important than the rest. -/
  | muted
  | success
  | warning
  /-- All is well. -/
  | good
  /-- Something is not as it should be. -/
  | bad
  /-- The program failed. -/
  | alarm
deriving DecidableEq

/-- A piece of a line. -/
inductive Span where
  | plain (text : String)
  | styled (style : Style) (text : String)
deriving DecidableEq

namespace Style

/-- The parameters of the control sequence for a style. -/
def parameters : Style → String
  | .heading => "96"
  | .label => "94"
  | .muted => "90"
  | .success => "92"
  | .warning => "33"
  | .good => "32"
  | .bad => "31"
  | .alarm => "1;31"

/-- The control sequence that starts a style. -/
def start (style : Style) : String :=
  "\x1b[" ++ style.parameters ++ "m"

/-- The control sequence that ends every style. -/
def reset : String := "\x1b[0m"

/-- The characters with a sequence after every one that ends all styles, so that what
follows it has a style again. -/
def renewed (start : List Char) : List Char → List Char
  | '\x1b' :: '[' :: '0' :: 'm' :: rest =>
    '\x1b' :: '[' :: '0' :: 'm' :: (start ++ renewed start rest)
  | c :: rest => c :: renewed start rest
  | [] => []

/-- The text in a style. -/
def apply (style : Style) (text : String) : String :=
  style.start ++ String.ofList (renewed style.start.toList text.toList) ++ reset

end Style

/-! ## Writing -/

/-- The text of a span, with or without control sequences. -/
def Span.render (colored : Bool) : Span → String
  | .plain text => text
  | .styled style text => if colored then style.apply text else text

/-- A line with styles. -/
abbrev StyledLine := List Span

/-- The text of a line, with or without control sequences. -/
def StyledLine.render (colored : Bool) (line : StyledLine) : String :=
  String.join (line.map (Span.render colored))

/-- The text of some lines, each of which is ended. -/
def StyledLine.renderAll (colored : Bool) (lines : List StyledLine) : String :=
  Text.ofLines (lines.map (StyledLine.render colored))

/-! ## Whether there are control sequences -/

/-- Whether a variable is set to anything but a zero. -/
def Environment.switch? (environment : Environment) (name : String) : Option Bool :=
  (environment.lookup name).map (· != "0")

/-- Whether to write control sequences: if the environment insists on it, or else if it
does not forbid it and the output goes to a terminal. -/
def Environment.allowsColors (environment : Environment) (toTerminal : Bool) : Bool :=
  if environment.switch? "CLICOLOR_FORCE" = some true then true
  else if (environment.lookup "NO_COLOR").isSome then false
  else (environment.switch? "CLICOLOR").getD true && toTerminal

end ListQuery
