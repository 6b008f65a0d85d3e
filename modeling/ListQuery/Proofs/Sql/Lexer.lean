import ListQuery.Proofs.Sql.Fragment

/-!
# Splitting text into lexemes

The lexical rules of SQL, as far as statements need them: words, names in double
quotes with the quotes inside them doubled, numbers, placeholders, conversions, and
signs.  The text is read from left to right by an automaton that remembers the lexeme
it is in, so a lexeme ends where the next character cannot belong to it.

A clause of a mapping is kept as text; `Fragment.expand?` replaces such text by the
chunks that it stands for.
-/

namespace ListQuery.Sql

/-- A word, name, number or sign of a text. -/
inductive Lexeme where
  /-- A keyword, or a name without quotes. -/
  | word (text : String)
  /-- A name in double quotes. -/
  | quoted (name : String)
  | placeholder (index : Nat)
  | number (value : Nat)
  | cast (type : String)
  | sign (token : Token)
deriving DecidableEq

namespace Lexer

/-- The lexeme that the automaton is in.  The characters of an unfinished lexeme stand
last one first. -/
inductive Mode where
  | between
  | word (read : List Char)
  | quoted (read : List Char)
  /-- After a quote that ends the name, unless another one follows. -/
  | unquoted (read : List Char)
  | placeholder (value : Option Nat)
  | number (value : Nat)
  /-- After one of the two colons of a conversion. -/
  | colon
  | cast (read : List Char)
  /-- After a comparison sign that may go on. -/
  | comparison (sign : Comparison)
deriving DecidableEq

/-- Whether a character may stand in a word. -/
def isWordChar (c : Char) : Bool :=
  c.isAlphanum || c == '_'

/-- The value of a number with another digit. -/
def appendDigit (value : Nat) (c : Char) : Nat :=
  value * 10 + (c.toNat - '0'.toNat)

/-- The lexeme that ends here, if one may end here. -/
def finish : Mode → Option (List Lexeme)
  | .between => some []
  | .word read => some [.word (String.ofList read.reverse)]
  | .unquoted read => some [.quoted (String.ofList read.reverse)]
  | .placeholder (some index) => some [.placeholder index]
  | .number value => some [.number value]
  | .cast (c :: read) => some [.cast (String.ofList (c :: read).reverse)]
  | .comparison sign => some [.sign (.compare sign)]
  | .quoted _ | .placeholder none | .colon | .cast [] => none

/-- The signs that are complete with one character. -/
def sign? : Char → Option Token
  | '=' => some (.compare .eq)
  | '(' => some .openParen
  | ')' => some .closeParen
  | '[' => some .openBracket
  | ']' => some .closeBracket
  | ',' => some .comma
  | '.' => some .dot
  | '*' => some .star
  | _ => none

/-- What a character starts. -/
def start (c : Char) : Option (List Lexeme × Mode) :=
  match sign? c with
  | some token => some ([.sign token], .between)
  | none =>
    if c = ' ' then some ([], .between)
    else if c = '"' then some ([], .quoted [])
    else if c = '$' then some ([], .placeholder none)
    else if c = ':' then some ([], .colon)
    else if c = '<' then some ([], .comparison .lt)
    else if c = '>' then some ([], .comparison .gt)
    else if c.isDigit then some ([], .number (appendDigit 0 c))
    else if isWordChar c then some ([], .word [c])
    else none

/-- The lexeme of a mode ends, and the character starts another. -/
def flush (mode : Mode) (c : Char) : Option (List Lexeme × Mode) := do
  let finished ← finish mode
  let (more, next) ← start c
  return (finished ++ more, next)

/-- The lexemes that are complete with a character, and the mode after it. -/
def step (mode : Mode) (c : Char) : Option (List Lexeme × Mode) :=
  match mode with
  | .word read => if isWordChar c then some ([], .word (c :: read)) else flush mode c
  | .quoted read => if c = '"' then some ([], .unquoted read) else some ([], .quoted (c :: read))
  -- A quote inside a name is written twice.
  | .unquoted read => if c = '"' then some ([], .quoted ('"' :: read)) else flush mode c
  | .placeholder value =>
    if c.isDigit then some ([], .placeholder (some (appendDigit (value.getD 0) c)))
    else flush mode c
  | .number value => if c.isDigit then some ([], .number (appendDigit value c)) else flush mode c
  | .colon => if c = ':' then some ([], .cast []) else none
  | .cast read => if isWordChar c then some ([], .cast (c :: read)) else flush mode c
  | .comparison .lt =>
    if c = '=' then some ([.sign (.compare .le)], .between)
    else if c = '>' then some ([.sign (.compare .ne)], .between)
    else flush mode c
  | .comparison .gt =>
    if c = '=' then some ([.sign (.compare .ge)], .between) else flush mode c
  | mode => flush mode c

/-- The lexemes of a text that follows what the mode has read. -/
def lexemesFrom? (mode : Mode) : List Char → Option (List Lexeme)
  | [] => finish mode
  | c :: rest => do
    let (complete, next) ← step mode c
    let lexemes ← lexemesFrom? next rest
    return complete ++ lexemes

end Lexer

/-- The lexemes of a text, if it has no characters but those of lexemes. -/
def lexemes? (text : String) : Option (List Lexeme) :=
  Lexer.lexemesFrom? .between text.toList

/-! ## Text in place of chunks -/

/-- Every reserved word. -/
def Keyword.all : List Keyword :=
  [.select, .fromWord, .whereWord, .order, .byWord, .limit, .asWord, .on, .inner, .left, .join,
    .asc, .desc, .nulls, .first, .last, .and, .or, .not, .is, .null, .distinct, .ilike, .between,
    .true, .false, .array]

/-- The chunk of a lexeme.  A word that is no keyword is a name, and the case of its
letters does not count. -/
def Lexeme.chunk? : Lexeme → Option Chunk
  | .word text =>
    match Keyword.all.find? fun keyword => keyword.text.toList == text.toList.map Char.toUpper with
    | some keyword => some (.token (.word keyword))
    | none => some (.identifier (String.ofList (text.toList.map Char.toLower)))
  | .quoted name => some (.identifier name)
  | .number value => some (.integer value)
  | .cast type => some (.cast type)
  | .sign token => some (.token token)
  | .placeholder _ => none

/-- The chunks that a chunk stands for. -/
def Chunk.expand? : Chunk → Option Fragment
  | .verbatim text => do (← lexemes? text).mapM Lexeme.chunk?
  | chunk => some [chunk]

/-- The fragment with the chunks of its clauses in place of their texts. -/
def Fragment.expand? (fragment : Fragment) : Option Fragment :=
  (fragment.mapM Chunk.expand?).map List.flatten

/-! ## Fragments without clauses -/

/-- Whether a chunk is text that is written as it stands. -/
def Chunk.isVerbatim : Chunk → Bool
  | .verbatim _ => true
  | _ => false

theorem Chunk.expand?_of_not_verbatim {chunk : Chunk} (hchunk : chunk.isVerbatim = false) :
    chunk.expand? = some [chunk] := by
  cases chunk <;> first | rfl | cases hchunk

namespace Fragment

/-- Whether a fragment has no text that is written as it stands. -/
def IsPlain (fragment : Fragment) : Prop :=
  ∀ chunk ∈ fragment, chunk.isVerbatim = false

variable {first second fragment : Fragment}

@[simp] theorem isPlain_nil : IsPlain [] := by
  simp [IsPlain]

@[simp] theorem isPlain_cons (chunk : Chunk) (rest : Fragment) :
    IsPlain (chunk :: rest) ↔ chunk.isVerbatim = false ∧ IsPlain rest := by
  simp [IsPlain]

@[simp] theorem isPlain_append : IsPlain (first ++ second) ↔ IsPlain first ∧ IsPlain second := by
  simp [IsPlain, or_imp, forall_and]

@[simp] theorem isPlain_word (keyword : Keyword) : IsPlain (word keyword) := by
  simp [word, Chunk.isVerbatim]

@[simp] theorem isPlain_ofToken (token : Token) : IsPlain (ofToken token) := by
  simp [ofToken, Chunk.isVerbatim]

@[simp] theorem isPlain_comparison (sign : Comparison) : IsPlain (comparison sign) := by
  simp [comparison, Chunk.isVerbatim]

@[simp] theorem isPlain_column (table name : String) : IsPlain (column table name) := by
  simp [column, Chunk.isVerbatim]

@[simp] theorem isPlain_castTo (type : Option String) : IsPlain (castTo type) := by
  cases type <;> simp [castTo, Chunk.isVerbatim]

@[simp] theorem isPlain_parameter (value : Scalar) (type : Option String) :
    IsPlain (parameter value type) := by
  simp [parameter, Chunk.isVerbatim]

@[simp] theorem isPlain_parenthesized : IsPlain fragment.parenthesized ↔ IsPlain fragment := by
  simp [parenthesized, Chunk.isVerbatim]

@[simp] theorem isPlain_call (function : Token) : IsPlain (call function fragment) ↔
    IsPlain fragment := by
  simp [call, Chunk.isVerbatim]

theorem isPlain_join {separator : Token} {parts : List Fragment}
    (hparts : ∀ part ∈ parts, IsPlain part) : IsPlain (join separator parts) :=
  forall_mem_join rfl hparts

@[simp] theorem isPlain_parameters (values : List Scalar) (type : Option String) :
    IsPlain (parameters values type) :=
  isPlain_join (List.forall_mem_map.mpr fun value _ => isPlain_parameter value type)

/-- A fragment without clauses stands for itself. -/
theorem expand?_of_isPlain (hfragment : IsPlain fragment) : fragment.expand? = some fragment := by
  unfold expand?
  induction fragment with
  | nil => rfl
  | cons chunk rest ih =>
      obtain ⟨hchunk, hrest⟩ := (isPlain_cons chunk rest).mp hfragment
      obtain ⟨chunks, hchunks, hflatten⟩ := Option.map_eq_some_iff.mp (ih hrest)
      simp [List.mapM_cons, Chunk.expand?_of_not_verbatim hchunk, hchunks, hflatten]

end Fragment

end ListQuery.Sql
