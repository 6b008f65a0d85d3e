import ListQuery.Json.Grammar

/-!
# Strings of configuration files

A string stands in double quotes, in which a backslash starts an escape, or in
single quotes, in which every character stands for itself.  In three quotes of
either kind it may have several lines.  Control characters other than the
tabulator are not allowed in any of them.

A line ends with a line feed, which may have a carriage return before it.  Line ends
in a string are kept as they are written.
-/

namespace ListQuery.Toml

open Json.Doc (hexValue?)

/-- Whether a character may not occur in a string or a comment. -/
def isControl (c : Char) : Bool :=
  (c.toNat < 0x20 && c != '\t') || c.toNat == 0x7F

/-! ## Escapes -/

/-- The character that a one-letter escape stands for. -/
def escaped? : Char → Option Char
  | 'b' => some '\x08'
  | 't' => some '\t'
  | 'n' => some '\n'
  | 'f' => some '\x0c'
  | 'r' => some '\r'
  | 'e' => some '\x1b'
  | '"' => some '"'
  | '\\' => some '\\'
  | _ => none

/-- How many hexadecimal digits follow the letter of an escape. -/
def escapeLength? : Char → Option Nat
  | 'x' => some 2
  | 'u' => some 4
  | 'U' => some 8
  | _ => none

/-- The character with a code point given in hexadecimal digits. -/
def codePoint? (digits : List Char) : Option Char := do
  let code ← digits.foldlM (fun code digit => do return code * 16 + (← hexValue? digit)) 0
  if code < 0xD800 ∨ (0xE000 ≤ code ∧ code < 0x110000) then return Char.ofNat code else failure

/-! ## Reading strings -/

/-- Where the reading of a double-quoted string stands. -/
inductive QuotedState where
  /-- Between characters. -/
  | plain
  /-- After a backslash. -/
  | escape
  /-- Inside of an escape, of which some digits, last one first, have been read and a
  number is still missing. -/
  | code (read : List Char) (missing : Nat)
  /-- After a backslash and blanks, before the line end that has to follow. -/
  | lineEnd
  /-- After a backslash at the end of a line, where all blanks are skipped. -/
  | skip
deriving DecidableEq

/-- Whether a character is a blank within a line. -/
def isSpace (c : Char) : Bool := c == ' ' || c == '\t'

/-- Whether a line ends with a character, given what follows it.  A carriage return
before a line feed counts, and what comes after it is another line end. -/
def isLineEnd (c : Char) (rest : List Char) : Bool :=
  c == '\n' || (c == '\r' && rest.head? == some '\n')

/-- The characters of a double-quoted string on one line, after its opening quote, and
what follows its closing quote. -/
def quotedLine (state : QuotedState) : List Char → Option (List Char × List Char)
  | [] => none
  | c :: rest =>
    match state with
    | .escape =>
      match escapeLength? c with
      | some length => quotedLine (.code [] length) rest
      | none => do
        let value ← escaped? c
        let (chars, rest) ← quotedLine .plain rest
        return (value :: chars, rest)
    | .code read missing =>
      if missing ≤ 1 then do
        let value ← codePoint? (c :: read).reverse
        let (chars, rest) ← quotedLine .plain rest
        return (value :: chars, rest)
      else quotedLine (.code (c :: read) (missing - 1)) rest
    | .plain | .lineEnd | .skip =>
      if c = '"' then some ([], rest)
      else if c = '\\' then quotedLine .escape rest
      else if isControl c then none
      else do
        let (chars, rest) ← quotedLine .plain rest
        return (c :: chars, rest)

/-- What follows three closing quotes: up to two more belong to the string. -/
def afterQuotes (quote : Char) : List Char → List Char × List Char
  | first :: second :: rest =>
    if first = quote ∧ second = quote then ([quote, quote], rest)
    else if first = quote then ([quote], second :: rest)
    else ([], first :: second :: rest)
  | [only] => if only = quote then ([quote], []) else ([], [only])
  | [] => ([], [])

/-- Whether a text starts with a quote three times. -/
def startsWithThree (quote : Char) : List Char → Bool
  | a :: b :: c :: _ => a == quote && b == quote && c == quote
  | _ => false

/-- The characters of a double-quoted string over several lines. -/
def quotedLines (state : QuotedState) : List Char → Option (List Char × List Char)
  | [] => none
  | c :: rest =>
    match state with
    | .escape =>
      if isLineEnd c rest then quotedLines .skip rest
      else if isSpace c then quotedLines .lineEnd rest
      else match escapeLength? c with
        | some length => quotedLines (.code [] length) rest
        | none => do
          let value ← escaped? c
          let (chars, rest) ← quotedLines .plain rest
          return (value :: chars, rest)
    | .code read missing =>
      if missing ≤ 1 then do
        let value ← codePoint? (c :: read).reverse
        let (chars, rest) ← quotedLines .plain rest
        return (value :: chars, rest)
      else quotedLines (.code (c :: read) (missing - 1)) rest
    | .lineEnd =>
      if isLineEnd c rest then quotedLines .skip rest
      else if isSpace c then quotedLines .lineEnd rest
      else none
    | .plain | .skip =>
      if state = .skip ∧ (isLineEnd c rest ∨ isSpace c) then quotedLines .skip rest
      else if startsWithThree '"' (c :: rest) then some (afterQuotes '"' (rest.drop 2))
      else if c = '\\' then quotedLines .escape rest
      else if isControl c ∧ !isLineEnd c rest then none
      else do
        let (chars, rest) ← quotedLines .plain rest
        return (c :: chars, rest)

/-- The characters of a single-quoted string on one line. -/
def literalLine : List Char → Option (List Char × List Char)
  | [] => none
  | c :: rest =>
    if c = '\'' then some ([], rest)
    else if isControl c then none
    else do
      let (chars, rest) ← literalLine rest
      return (c :: chars, rest)

/-- The characters of a single-quoted string over several lines. -/
def literalLines : List Char → Option (List Char × List Char)
  | [] => none
  | c :: rest =>
    if startsWithThree '\'' (c :: rest) then some (afterQuotes '\'' (rest.drop 2))
    else if isControl c ∧ !isLineEnd c rest then none
    else do
      let (chars, rest) ← literalLines rest
      return (c :: chars, rest)

/-- The text without a line end at its very beginning. -/
def dropFirstLineEnd : List Char → List Char
  | '\n' :: rest => rest
  | '\r' :: '\n' :: rest => rest
  | chars => chars

/-- A string of any kind at the front of a text, and what follows it. -/
def string? (chars : List Char) : Option (String × List Char) := do
  let (found, rest) ←
    if startsWithThree '"' chars then quotedLines .plain (dropFirstLineEnd (chars.drop 3))
    else if startsWithThree '\'' chars then literalLines (dropFirstLineEnd (chars.drop 3))
    else match chars with
      | '"' :: rest => quotedLine .plain rest
      | '\'' :: rest => literalLine rest
      | _ => none
  return (String.ofList found, rest)

end ListQuery.Toml
