import ListQuery.Proofs.Sql.Lexer
import ListQuery.Proofs.Sql.Placeholders
import ListQuery.Proofs.Text.Decimal
import Mathlib.Data.List.Chain

/-!
# Written fragments fall apart into their chunks

Which chunks a text was made of can be told from the text alone, so a fragment is written
so that no two chunks run together and none breaks in two.

The text is split by the automaton of the lexer, which here also knows that a point next to
a digit is part of a number.  A chunk is read as the one piece that it stands for, provided
that what comes next cannot belong to it (`piecesFrom?_chars`).  This is so for any two
neighbours: either a space is written between them, or the second begins with a character
with which the first does not go on (`goesOn_of_begins`).
-/

namespace ListQuery.Sql

open Lexer (isWordChar appendDigit)

/-! ## Splitting -/

/-- A lexeme, or a number with a point. -/
inductive Piece where
  | lexeme (lexeme : Lexeme)
  | decimal (whole : Option Nat) (fraction : List Char)
deriving DecidableEq

namespace Splitter

/-- What the automaton is in. -/
inductive Mode where
  | plain (mode : Lexer.Mode)
  /-- After a point with which a number may begin. -/
  | point
  /-- After the point of a number. -/
  | fraction (whole : Option Nat) (read : List Char)

/-- The pieces that end here, if they may end here. -/
def finish : Mode → Option (List Piece)
  | .plain mode => (Lexer.finish mode).map (List.map Piece.lexeme)
  | .point => some [.lexeme (.sign .dot)]
  | .fraction whole read => some [.decimal whole read.reverse]

/-- A step of the lexer as one of the automaton. -/
def lift (result : Option (List Lexeme × Lexer.Mode)) : Option (List Piece × Mode) :=
  result.map fun (lexemes, mode) => (lexemes.map Piece.lexeme, .plain mode)

/-- What a character starts. -/
def start (c : Char) : Option (List Piece × Mode) :=
  if c = '.' then some ([], .point) else lift (Lexer.start c)

/-- The piece of a mode ends, and the character starts another. -/
def flush (mode : Mode) (c : Char) : Option (List Piece × Mode) := do
  let finished ← finish mode
  let (more, next) ← start c
  return (finished ++ more, next)

/-- The pieces that are complete with a character, and the mode after it. -/
def step (mode : Mode) (c : Char) : Option (List Piece × Mode) :=
  match mode with
  -- Inside a name in quotes a point is a character as any other.
  | .plain (.quoted read) => lift (Lexer.step (.quoted read) c)
  | .plain (.number value) =>
    if c = '.' then some ([], .fraction (some value) []) else lift (Lexer.step (.number value) c)
  | .plain mode => if c = '.' then flush (.plain mode) c else lift (Lexer.step mode c)
  | .point => if c.isDigit then some ([], .fraction none [c]) else flush .point c
  | .fraction whole read =>
    if c.isDigit then some ([], .fraction whole (c :: read)) else flush (.fraction whole read) c

/-- The pieces of a text that follows what the mode has read. -/
def piecesFrom? (mode : Mode) : List Char → Option (List Piece)
  | [] => finish mode
  | c :: rest => do
    let (complete, next) ← step mode c
    let pieces ← piecesFrom? next rest
    return complete ++ pieces

end Splitter

/-- The lexemes and numbers with points of a text, if it has no characters but theirs. -/
def pieces? (text : String) : Option (List Piece) :=
  Splitter.piecesFrom? (.plain .between) text.toList

/-! ## Chunks as lexemes -/

/-- The lexeme of a token. -/
def Token.lexeme : Token → Lexeme
  | .word keyword => .word keyword.text
  | .call callee => .word callee.text
  | sign => .sign sign

/-- The lexeme that a chunk is written as, if its placeholder has the number `index`. -/
def Chunk.lexeme (index : Nat) : Chunk → Lexeme
  | .token sign => sign.lexeme
  | .identifier name => .quoted name
  | .verbatim text => .word text
  | .parameter _ => .placeholder index
  | .cast type => .cast type
  | .integer value => .number value

/-- The lexemes of a fragment whose first placeholder has the number `index`. -/
def Fragment.lexemesFrom (index : Nat) : Fragment → List Lexeme
  | [] => []
  | chunk :: rest =>
    chunk.lexeme index :: lexemesFrom (index + (values [chunk]).length) rest

/-- Whether a text is a name of lower-case letters, digits and underscores that does not
begin with a digit. -/
def isTypeName (text : String) : Bool :=
  match text.toList with
  | [] => false
  | c :: rest =>
    (c.isLower || c == '_') && rest.all fun c => c.isLower || c.isDigit || c == '_'

/-- Whether a chunk is written as a single lexeme: it is no verbatim text, and what it
converts to is named plainly. -/
def Chunk.isLexical : Chunk → Bool
  | .verbatim _ => false
  | .cast type => isTypeName type
  | _ => true

/-- Whether one of two neighbours is a number and the other a point. -/
def Chunk.makesDecimal : Chunk → Chunk → Bool
  | .integer _, .token .dot | .token .dot, .integer _ => true
  | _, _ => false

/-- A fragment of lexical chunks that has no number next to a point. -/
structure Fragment.IsLexical (fragment : Fragment) : Prop where
  chunks : ∀ chunk ∈ fragment, chunk.isLexical = true
  apart : fragment.IsChain fun current next => current.makesDecimal next = false

/-- A chunk without its value, of which nothing is written. -/
def Chunk.withoutValue : Chunk → Chunk
  | .parameter _ => .parameter .null
  | chunk => chunk

/-! ## The chunk of a lexeme -/

/-- The tokens that are written as words. -/
def Token.words : List Token :=
  Keyword.all.map .word ++ [.call .any, .call .all, .call .coalesce, .call .arrayToString]

/-- The chunk that is written as a lexeme, without its value. -/
def Lexeme.written? : Lexeme → Option Chunk
  | .word text => (Token.words.find? (·.text == text)).map .token
  | .sign token => some (.token token)
  | .quoted name => some (.identifier name)
  | .placeholder _ => some (.parameter .null)
  | .cast type => some (.cast type)
  | .number value => some (.integer value)

theorem Token.written?_lexeme (token : Token) : token.lexeme.written? = some (.token token) := by
  cases token with
  | word keyword => cases keyword <;> rfl
  | call callee => cases callee <;> rfl
  | _ => rfl

/-- The lexeme of a chunk tells the chunk, but for its value. -/
theorem Chunk.written?_lexeme {chunk : Chunk} (hchunk : chunk.isLexical = true) (index : Nat) :
    (chunk.lexeme index).written? = some chunk.withoutValue := by
  cases chunk with
  | token sign => exact sign.written?_lexeme
  | verbatim text => cases hchunk
  | identifier | parameter | cast | integer => rfl

/-! ## Where a piece ends -/

namespace Splitter

/-- Whether a character may belong to the piece that a mode is in. -/
def goesOn : Mode → Char → Bool
  | .plain .between, _ => false
  | .plain (.word _), c | .plain (.cast _), c => isWordChar c
  | .plain (.quoted _), _ | .plain .colon, _ => true
  | .plain (.unquoted _), c => c == '"'
  | .plain (.number _), c => c.isDigit || c == '.'
  | .plain (.comparison .lt), c => c == '=' || c == '>'
  | .plain (.comparison .gt), c => c == '='
  | .plain (.comparison _), _ => false
  | .plain (.placeholder _), c | .point, c | .fraction _ _, c => c.isDigit

variable {mode next : Mode} {rest : List Char} {c : Char}

theorem piecesFrom?_of_step {complete : List Piece} (hstep : step mode c = some (complete, next)) :
    piecesFrom? mode (c :: rest) = (piecesFrom? next rest).map (complete ++ ·) := by
  rw [piecesFrom?, hstep]
  simp only [Option.bind_eq_bind, Option.bind_some]
  cases piecesFrom? next rest <;> rfl

/-- A character that completes nothing only changes the mode. -/
theorem piecesFrom?_of_silent (hstep : step mode c = some ([], next)) :
    piecesFrom? mode (c :: rest) = piecesFrom? next rest := by
  rw [piecesFrom?_of_step hstep]
  simp

private theorem lift_flush (mode : Lexer.Mode) (hc : c ≠ '.') :
    lift (Lexer.flush mode c) = flush (.plain mode) c := by
  cases hfinish : Lexer.finish mode with
  | none => simp [lift, Lexer.flush, flush, finish, hfinish]
  | some finished =>
      cases hstart : Lexer.start c <;>
        simp [lift, Lexer.flush, flush, finish, start, hc, hfinish, hstart]

private theorem lexer_step_eq_flush {mode : Lexer.Mode} (hc : goesOn (.plain mode) c = false) :
    Lexer.step mode c = Lexer.flush mode c := by
  cases mode with
  | between => rfl
  | quoted | colon => cases hc
  | word | unquoted | placeholder | cast => rw [Lexer.step, if_neg (by simpa [goesOn] using hc)]
  | number value =>
      simp only [goesOn, Bool.or_eq_false_iff] at hc
      rw [Lexer.step, if_neg (by simp [hc.1])]
  | comparison sign =>
      cases sign with
      | lt =>
          simp only [goesOn, Bool.or_eq_false_iff, beq_eq_false_iff_ne] at hc
          rw [Lexer.step, if_neg hc.1, if_neg hc.2]
      | gt => rw [Lexer.step, if_neg (by simpa [goesOn] using hc)]
      | eq | ne | le | ge => rfl

/-- A character that does not belong to a piece ends it. -/
theorem step_eq_flush (hc : goesOn mode c = false) : step mode c = flush mode c := by
  cases mode with
  | point => rw [step, if_neg (by simpa [goesOn] using hc)]
  | fraction whole read => rw [step, if_neg (by simpa [goesOn] using hc)]
  | plain mode =>
      have hplain : Lexer.step mode c = Lexer.flush mode c := lexer_step_eq_flush hc
      cases mode with
      | quoted read => cases hc
      | number value =>
          -- A point after a number is part of the piece, so it is not this character.
          have hpoint : c ≠ '.' := by
            simp only [goesOn, Bool.or_eq_false_iff, beq_eq_false_iff_ne] at hc
            exact hc.2
          rw [step, if_neg hpoint, hplain, lift_flush _ hpoint]
      | between | word | colon | unquoted | placeholder | cast | comparison =>
          by_cases hpoint : c = '.'
          · rw [step, if_pos hpoint]
            all_goals simp
          · rw [step, if_neg hpoint, hplain, lift_flush _ hpoint]
            all_goals simp

/-- Where nothing goes on with a piece, the piece ends and the text is split from there. -/
theorem piecesFrom?_of_ends (hrest : ∀ c ∈ rest.head?, goesOn mode c = false) :
    piecesFrom? mode rest = (finish mode).bind fun finished =>
      (piecesFrom? (.plain .between) rest).map (finished ++ ·) := by
  cases rest with
  | nil =>
      simp only [piecesFrom?]
      cases finish mode with
      | none => rfl
      | some finished => simp [finish, Lexer.finish]
  | cons c rest =>
      have hstart : step (.plain .between) c = flush (.plain .between) c := step_eq_flush rfl
      rw [piecesFrom?, piecesFrom?, step_eq_flush (hrest c rfl), hstart]
      unfold flush
      cases finish mode with
      | none => rfl
      | some finished =>
          cases start c with
          | none => rfl
          | some result =>
              obtain ⟨more, next⟩ := result
              cases hnext : piecesFrom? next rest <;> simp [finish, Lexer.finish, hnext]

/-- A blank between two pieces does not count. -/
theorem piecesFrom?_blank (rest : List Char) :
    piecesFrom? (.plain .between) (' ' :: rest) = piecesFrom? (.plain .between) rest :=
  piecesFrom?_of_silent rfl

/-! ## Reading the characters of a chunk -/

/-- Characters that a mode takes in one by one lead to the mode that has read them all. -/
private theorem piecesFrom?_run (modeOf : List Char → Mode) {p : Char → Bool}
    (hstep : ∀ read c, p c = true → step (modeOf read) c = some ([], modeOf (c :: read)))
    {chars : List Char} (hchars : ∀ c ∈ chars, p c = true) (read rest : List Char) :
    piecesFrom? (modeOf read) (chars ++ rest) =
      piecesFrom? (modeOf (chars.reverse ++ read)) rest := by
  induction chars generalizing read with
  | nil => rfl
  | cons c chars ih =>
      obtain ⟨hc, hchars⟩ := List.forall_mem_cons.mp hchars
      rw [List.cons_append, piecesFrom?_of_silent (hstep read c hc), ih hchars]
      simp

/-- The value of digits, the last one first. -/
private def valueOf (read : List Char) : Nat :=
  read.foldr (fun c value => appendDigit value c) 0

private theorem valueOf_natDigits (n : Nat) : valueOf (Text.natDigits n).reverse = n := by
  rw [valueOf, List.foldr_reverse]
  exact Json.Numeral.digitsValue_natDigits n

private theorem isWordChar_of_isDigit (hc : c.isDigit = true) : isWordChar c = true := by
  simp [isWordChar, Char.isAlphanum, hc]

theorem sign?_of_isWordChar (hc : isWordChar c = true) : Lexer.sign? c = none := by
  unfold Lexer.sign?
  split <;> first | rfl | cases hc

/-- What a character of a word starts. -/
private theorem step_between (hc : isWordChar c = true) :
    step (.plain .between) c =
      if c.isDigit then some ([], .plain (.number (appendDigit 0 c)))
      else some ([], .plain (.word [c])) := by
  have hstart : Lexer.start c =
      if c.isDigit then some ([], .number (appendDigit 0 c)) else some ([], .word [c]) := by
    simp only [Lexer.start, sign?_of_isWordChar hc, hc, if_true,
      if_neg (Text.ne_of_class hc ' ' rfl), if_neg (Text.ne_of_class hc '"' rfl),
      if_neg (Text.ne_of_class hc '$' rfl), if_neg (Text.ne_of_class hc ':' rfl),
      if_neg (Text.ne_of_class hc '<' rfl), if_neg (Text.ne_of_class hc '>' rfl)]
  rw [step_eq_flush rfl]
  simp only [flush, finish, Lexer.finish, start, if_neg (Text.ne_of_class hc '.' rfl),
    hstart, lift]
  split <;> rfl

/-- The characters of a word are read as the word. -/
private theorem piecesFrom?_word {chars rest : List Char}
    (hchars : ∀ c ∈ chars, isWordChar c = true) (hdigit : c.isDigit = false)
    (hc : isWordChar c = true) :
    piecesFrom? (.plain .between) (c :: chars ++ rest) =
      piecesFrom? (.plain (.word (c :: chars).reverse)) rest := by
  have hstep : ∀ read c, isWordChar c = true →
      step (.plain (.word read)) c = some ([], .plain (.word (c :: read))) := by
    intro read c hc
    rw [step, if_neg (Text.ne_of_class hc '.' rfl), Lexer.step, if_pos hc]
    all_goals simp [lift]
  have hstart := step_between hc
  rw [if_neg (by simp [hdigit])] at hstart
  rw [List.cons_append, piecesFrom?_of_silent hstart, List.reverse_cons]
  exact piecesFrom?_run (fun read => .plain (.word read)) hstep hchars [c] rest

/-- The digits of a number are read as the number. -/
private theorem piecesFrom?_number (n : Nat) (rest : List Char) :
    piecesFrom? (.plain .between) (Text.natDigits n ++ rest) =
      piecesFrom? (.plain (.number n)) rest := by
  have hstep : ∀ (read : List Char) (c : Char), c.isDigit = true →
      step (if read = [] then .plain .between else .plain (.number (valueOf read))) c =
        some ([], if c :: read = [] then .plain .between
          else .plain (.number (valueOf (c :: read)))) := by
    intro read c hc
    have hword := isWordChar_of_isDigit hc
    rw [if_neg (List.cons_ne_nil c read)]
    cases read with
    | nil => rw [if_pos rfl, step_between hword, if_pos hc]; rfl
    | cons d read =>
        rw [if_neg (List.cons_ne_nil d read), step,
          if_neg (Text.ne_of_class hword '.' rfl), Lexer.step, if_pos hc]
        rfl
  have hrun := piecesFrom?_run _ hstep (Text.isDigit_natDigits n) [] rest
  rw [if_pos rfl, List.append_nil, if_neg (by simpa using Text.natDigits_ne_nil n),
    valueOf_natDigits] at hrun
  exact hrun

/-- A dollar and the digits of a number are read as the placeholder with this number. -/
private theorem piecesFrom?_placeholder (n : Nat) (rest : List Char) :
    piecesFrom? (.plain .between) ('$' :: Text.natDigits n ++ rest) =
      piecesFrom? (.plain (.placeholder (some n))) rest := by
  have hstep : ∀ (read : List Char) (c : Char), c.isDigit = true →
      step (.plain (.placeholder (if read = [] then none else some (valueOf read)))) c =
        some ([], .plain (.placeholder
          (if c :: read = [] then none else some (valueOf (c :: read))))) := by
    intro read c hc
    have hword := isWordChar_of_isDigit hc
    rw [if_neg (List.cons_ne_nil c read), step,
      if_neg (Text.ne_of_class hword '.' rfl), Lexer.step, if_pos hc]
    · cases read <;> rfl
    all_goals simp
  have hdollar : step (.plain .between) '$' = some ([], .plain (.placeholder none)) := rfl
  have hrun := piecesFrom?_run _ hstep (Text.isDigit_natDigits n) [] rest
  rw [if_pos rfl, List.append_nil, if_neg (by simpa using Text.natDigits_ne_nil n),
    valueOf_natDigits] at hrun
  rw [List.cons_append, piecesFrom?_of_silent hdollar, hrun]

/-- Two colons and the characters of a type are read as a conversion to it. -/
private theorem piecesFrom?_cast {chars : List Char} (hchars : ∀ c ∈ chars, isWordChar c = true)
    (rest : List Char) :
    piecesFrom? (.plain .between) (':' :: ':' :: chars ++ rest) =
      piecesFrom? (.plain (.cast chars.reverse)) rest := by
  have hstep : ∀ read c, isWordChar c = true →
      step (.plain (.cast read)) c = some ([], .plain (.cast (c :: read))) := by
    intro read c hc
    rw [step, if_neg (Text.ne_of_class hc '.' rfl), Lexer.step, if_pos hc]
    all_goals simp [lift]
  have hrun := piecesFrom?_run (fun read => .plain (.cast read)) hstep hchars [] rest
  rw [List.append_nil] at hrun
  have hfirst : step (.plain .between) ':' = some ([], .plain .colon) := rfl
  have hsecond : step (.plain .colon) ':' = some ([], .plain (.cast [])) := rfl
  rw [List.cons_append, List.cons_append, piecesFrom?_of_silent hfirst,
    piecesFrom?_of_silent hsecond, hrun]

/-- A name in quotes is read up to its closing quote, whatever it is. -/
private theorem piecesFrom?_quoted (name : String) (rest : List Char) :
    piecesFrom? (.plain .between) (Chunk.quoteIdentifier name ++ rest) =
      piecesFrom? (.plain (.unquoted name.toList.reverse)) rest := by
  have hopen : step (.plain .between) '"' = some ([], .plain (.quoted [])) := rfl
  have hclose : ∀ read, step (.plain (.quoted read)) '"' = some ([], .plain (.unquoted read)) :=
    fun read => rfl
  have hdouble : ∀ read,
      step (.plain (.unquoted read)) '"' = some ([], .plain (.quoted ('"' :: read))) :=
    fun read => rfl
  have hother : ∀ read c, c ≠ '"' →
      step (.plain (.quoted read)) c = some ([], .plain (.quoted (c :: read))) := by
    intro read c hc
    rw [step, Lexer.step, if_neg hc]
    rfl
  -- A quote inside of the name closes it for one character, until the second quote follows.
  have hname : ∀ (chars read : List Char),
      piecesFrom? (.plain (.quoted read))
          (chars.flatMap (fun c => if c = '"' then ['"', '"'] else [c]) ++ '"' :: rest) =
        piecesFrom? (.plain (.unquoted (chars.reverse ++ read))) rest := by
    intro chars
    induction chars with
    | nil =>
        intro read
        exact piecesFrom?_of_silent (hclose read)
    | cons c chars ih =>
        intro read
        rw [List.flatMap_cons, List.reverse_cons, List.append_assoc, List.append_assoc]
        by_cases hc : c = '"'
        · rw [if_pos hc, hc]
          exact (piecesFrom?_of_silent (hclose read)).trans
            ((piecesFrom?_of_silent (hdouble read)).trans (ih ('"' :: read)))
        · rw [if_neg hc]
          exact (piecesFrom?_of_silent (hother read c hc)).trans (ih (c :: read))
  have hrun := hname name.toList []
  rw [List.append_nil] at hrun
  rw [Chunk.quoteIdentifier, List.cons_append, List.append_assoc, piecesFrom?_of_silent hopen]
  exact hrun

end Splitter

/-! ## One chunk -/

/-- Whether a character could belong to the lexeme of a chunk if it followed it. -/
def Chunk.goesOn : Chunk → Char → Bool
  | .token (.word _), c | .token (.call _), c | .cast _, c => isWordChar c
  | .identifier _, c => c == '"'
  | .parameter _, c => c.isDigit
  | .integer _, c => c.isDigit || c == '.'
  | .token (.compare .lt), c => c == '=' || c == '>'
  | .token (.compare .gt), c => c == '='
  | .token .dot, c => c.isDigit
  | _, _ => false

/-- Whether the characters of a chunk may begin with a character. -/
def Chunk.begins : Chunk → Char → Bool
  | .token (.word _), c | .token (.call _), c => isWordChar c && !c.isDigit
  | .token (.compare _), c => c == '=' || c == '<' || c == '>'
  | .token sign, c => Lexer.sign? c == some sign
  | .identifier _, c => c == '"'
  | .parameter _, c => c == '$'
  | .cast _, c => c == ':'
  | .integer _, c => c.isDigit
  | .verbatim _, _ => false

/-- Whether a text is a word. -/
def isWord : List Char → Bool
  | [] => false
  | c :: rest => isWordChar c && !c.isDigit && rest.all isWordChar

theorem isWord_keyword (keyword : Keyword) : isWord keyword.text.toList = true := by
  cases keyword <;> decide

theorem isWord_callee (callee : Callee) : isWord callee.text.toList = true := by
  cases callee <;> decide

namespace Chunk

open Splitter

variable {chunk : Chunk} {index : Nat} {rest : List Char}

theorem chars_eq_cons (hchunk : chunk.isLexical = true) (index : Nat) :
    ∃ c tail, chunk.chars index = c :: tail ∧ chunk.begins c = true := by
  -- Keywords and functions are words of this kind, so they begin with no digit.
  have hword : ∀ chars, isWord chars = true →
      ∃ c tail, chars = c :: tail ∧ (isWordChar c && !c.isDigit) = true := by
    intro chars hchars
    cases chars with
    | nil => cases hchars
    | cons c tail =>
        simp only [isWord, Bool.and_eq_true] at hchars
        exact ⟨c, tail, rfl, by simpa using hchars.1⟩
  cases chunk with
  | token sign =>
      cases sign with
      | word keyword => exact hword _ (isWord_keyword keyword)
      | call callee => exact hword _ (isWord_callee callee)
      | compare sign => cases sign <;> exact ⟨_, _, rfl, rfl⟩
      | openParen | closeParen | openBracket | closeBracket | comma | dot | star =>
          exact ⟨_, _, rfl, rfl⟩
  | identifier name => exact ⟨_, _, rfl, rfl⟩
  | verbatim text => cases hchunk
  | parameter value => exact ⟨_, _, rfl, rfl⟩
  | cast type => exact ⟨_, _, rfl, rfl⟩
  | integer value =>
      have hdigits := Text.isDigit_natDigits value
      cases hchars : Text.natDigits value with
      | nil => exact absurd hchars (Text.natDigits_ne_nil value)
      | cons c tail =>
          rw [hchars] at hdigits
          exact ⟨c, tail, hchars, hdigits c List.mem_cons_self⟩

private theorem isWordChar_of_isTypeName {type : String} (htype : isTypeName type = true) :
    type.toList ≠ [] ∧ ∀ c ∈ type.toList, isWordChar c = true := by
  have hlower : ∀ c : Char, (c.isLower || c.isDigit || c == '_') = true → isWordChar c = true := by
    intro c hc
    simp only [Bool.or_eq_true, beq_iff_eq] at hc
    rcases hc with (hc | hc) | hc
    · have halpha : c.isAlpha = (c.isUpper || c.isLower) := rfl
      simp [isWordChar, Char.isAlphanum, halpha, hc]
    · simp [isWordChar, Char.isAlphanum, hc]
    · simp [isWordChar, hc]
  unfold isTypeName at htype
  cases hchars : type.toList with
  | nil => simp [hchars] at htype
  | cons c rest =>
      simp only [hchars, Bool.and_eq_true, List.all_eq_true] at htype
      refine ⟨List.cons_ne_nil c rest, List.forall_mem_cons.mpr ⟨hlower c ?_, fun d hd => ?_⟩⟩
      · have hc := htype.1
        simp only [Bool.or_eq_true] at hc ⊢
        exact hc.imp_left Or.inl
      · exact hlower d (htype.2 d hd)

/-- A piece that has been read to its end is followed by the pieces of the rest. -/
private theorem piecesFrom?_of_read {chars : List Char} {mode : Mode} {lexeme : Lexeme}
    (hread : piecesFrom? (.plain .between) (chars ++ rest) = piecesFrom? mode rest)
    (hfinish : finish mode = some [.lexeme lexeme])
    (hrest : ∀ c ∈ rest.head?, Splitter.goesOn mode c = false) :
    piecesFrom? (.plain .between) (chars ++ rest) =
      (piecesFrom? (.plain .between) rest).map (.lexeme lexeme :: ·) := by
  rw [hread, piecesFrom?_of_ends hrest, hfinish]
  rfl

/-- A sign that is complete with its last character. -/
private theorem piecesFrom?_sign {mode : Mode} {c : Char} {token : Token}
    (hstep : step mode c = some ([.lexeme (.sign token)], .plain .between)) :
    piecesFrom? mode ([c] ++ rest) =
      (piecesFrom? (.plain .between) rest).map (.lexeme (.sign token) :: ·) :=
  piecesFrom?_of_step hstep

private theorem piecesFrom?_isWord {chars : List Char} (hchars : isWord chars = true)
    (hrest : ∀ c ∈ rest.head?, isWordChar c = false) :
    piecesFrom? (.plain .between) (chars ++ rest) =
      (piecesFrom? (.plain .between) rest).map (.lexeme (.word (String.ofList chars)) :: ·) := by
  cases chars with
  | nil => cases hchars
  | cons c tail =>
      simp only [isWord, Bool.and_eq_true, Bool.not_eq_true', List.all_eq_true] at hchars
      obtain ⟨⟨hc, hdigit⟩, htail⟩ := hchars
      refine piecesFrom?_of_read (piecesFrom?_word htail hdigit hc) ?_ hrest
      simp [finish, Lexer.finish]

/-- A comparison is read to its end unless what follows makes it a longer one. -/
private theorem piecesFrom?_comparison (sign : Comparison)
    (hrest : ∀ c ∈ rest.head?, goesOn (.token (.compare sign)) c = false) :
    piecesFrom? (.plain .between) (sign.text.toList ++ rest) =
      (piecesFrom? (.plain .between) rest).map (.lexeme (.sign (.compare sign)) :: ·) := by
  cases sign with
  | eq => exact piecesFrom?_sign (c := '=') rfl
  | lt => exact piecesFrom?_of_read (piecesFrom?_of_silent rfl) rfl hrest
  | gt => exact piecesFrom?_of_read (piecesFrom?_of_silent rfl) rfl hrest
  | ne => exact (piecesFrom?_of_silent rfl).trans (piecesFrom?_sign (c := '>') rfl)
  | le => exact (piecesFrom?_of_silent rfl).trans (piecesFrom?_sign (c := '=') rfl)
  | ge => exact (piecesFrom?_of_silent rfl).trans (piecesFrom?_sign (c := '=') rfl)

/-- A chunk is read as its lexeme if what follows does not go on with it. -/
theorem piecesFrom?_chars (hchunk : chunk.isLexical = true) (index : Nat)
    (hrest : ∀ c ∈ rest.head?, chunk.goesOn c = false) :
    piecesFrom? (.plain .between) (chunk.chars index ++ rest) =
      (piecesFrom? (.plain .between) rest).map (.lexeme (chunk.lexeme index) :: ·) := by
  cases chunk with
  | token sign =>
      cases sign with
      | word keyword =>
          have hread := piecesFrom?_isWord (isWord_keyword keyword) hrest
          rwa [String.ofList_toList] at hread
      | call callee =>
          have hread := piecesFrom?_isWord (isWord_callee callee) hrest
          rwa [String.ofList_toList] at hread
      | compare sign => exact piecesFrom?_comparison sign hrest
      | dot =>
          have hpoint : step (.plain .between) '.' = some ([], .point) := rfl
          exact piecesFrom?_of_read (piecesFrom?_of_silent hpoint) rfl hrest
      | openParen => exact piecesFrom?_sign (c := '(') rfl
      | closeParen => exact piecesFrom?_sign (c := ')') rfl
      | openBracket => exact piecesFrom?_sign (c := '[') rfl
      | closeBracket => exact piecesFrom?_sign (c := ']') rfl
      | comma => exact piecesFrom?_sign (c := ',') rfl
      | star => exact piecesFrom?_sign (c := '*') rfl
  | identifier name =>
      refine piecesFrom?_of_read (piecesFrom?_quoted name rest) ?_ hrest
      simp [finish, Lexer.finish, lexeme]
  | verbatim text => cases hchunk
  | parameter value => exact piecesFrom?_of_read (piecesFrom?_placeholder index rest) rfl hrest
  | cast type =>
      obtain ⟨hne, hchars⟩ := isWordChar_of_isTypeName hchunk
      refine piecesFrom?_of_read (piecesFrom?_cast hchars rest) ?_ hrest
      obtain ⟨c, read, hread⟩ := List.exists_cons_of_ne_nil
        (mt List.reverse_eq_nil_iff.mp hne)
      rw [hread]
      simp [finish, Lexer.finish, lexeme, ← hread]
  | integer value => exact piecesFrom?_of_read (piecesFrom?_number value rest) rfl hrest

/-! ## Neighbours -/

private theorem endsOpen_of_isLexical (hchunk : chunk.isLexical = true) :
    chunk.endsOpen = false := by
  cases chunk with
  | verbatim text => cases hchunk
  | token | identifier | parameter | cast | integer => rfl

private theorem startsClosed_of_isLexical (hchunk : chunk.isLexical = true) :
    chunk.startsClosed = false := by
  cases chunk with
  | verbatim text => cases hchunk
  | token | identifier | parameter | cast | integer => rfl

/-- Between two chunks that are both like words a space is written, unless the second is a
conversion. -/
private theorem spaceBetween_of_wordLike {current next : Chunk}
    (hcurrent : current.isLexical = true) (hnext : next.isLexical = true)
    (hword : current.isWordLike = true) (hother : next.isWordLike = true)
    (hcast : ∀ type, next ≠ .cast type) : current.spaceBetween next = true := by
  unfold spaceBetween
  rw [endsOpen_of_isLexical hcurrent, startsClosed_of_isLexical hnext]
  simp only [Bool.or_self, Bool.false_eq_true, if_false]
  split
  case h_1 => exact absurd rfl (hcast _)
  all_goals first
    | rfl
    | exact absurd hother Bool.false_ne_true
    | exact absurd hword Bool.false_ne_true
    | simp [hword, hother]

/-- What begins as a word goes on is like a word. -/
private theorem wordLike_of_begins {next : Chunk} {c : Char} (hnext : next.isLexical = true)
    (hc : next.begins c = true) (hword : isWordChar c = true) :
    next.isWordLike = true ∧ ∀ type, next ≠ .cast type := by
  have hsign := sign?_of_isWordChar hword
  cases next with
  | token sign =>
      cases sign with
      | word | call | star => exact ⟨rfl, fun type => by simp⟩
      | compare sign =>
          simp only [begins, Bool.or_eq_true, beq_iff_eq] at hc
          rcases hc with (rfl | rfl) | rfl <;> cases hword
      | openParen | closeParen | openBracket | closeBracket | comma | dot =>
          simp [begins, hsign] at hc
  | identifier | parameter | integer => exact ⟨rfl, fun type => by simp⟩
  | verbatim text => cases hnext
  | cast type =>
      have hcolon : c = ':' := by simpa [begins] using hc
      subst hcolon
      cases hword

private theorem exists_identifier_of_begins {next : Chunk} (hc : next.begins '"' = true) :
    ∃ name, next = .identifier name := by
  cases next with
  | identifier name => exact ⟨name, rfl⟩
  | token sign => cases sign <;> cases hc
  | verbatim | parameter | cast | integer => cases hc

private theorem eq_dot_of_begins {next : Chunk} (hc : next.begins '.' = true) :
    next = .token .dot := by
  cases next with
  | token sign =>
      cases sign with
      | dot => rfl
      | _ => cases hc
  | identifier | verbatim | parameter | cast | integer => cases hc

private theorem exists_integer_of_begins {next : Chunk} {c : Char} (hc : next.begins c = true)
    (hdigit : c.isDigit = true) : ∃ value, next = .integer value := by
  have hsign := sign?_of_isWordChar (isWordChar_of_isDigit hdigit)
  cases next with
  | integer value => exact ⟨value, rfl⟩
  | token sign =>
      cases sign with
      | compare sign =>
          simp only [begins, Bool.or_eq_true, beq_iff_eq] at hc
          rcases hc with (rfl | rfl) | rfl <;> cases hdigit
      | word | call => simp [begins, hdigit] at hc
      | _ => simp [begins, hsign] at hc
  | verbatim text => cases hc
  | identifier | parameter | cast =>
      simp only [begins, beq_iff_eq] at hc
      subst hc
      cases hdigit

private theorem exists_comparison_of_begins {next : Chunk} {c : Char} (hc : next.begins c = true)
    (hcomparison : c = '=' ∨ c = '<' ∨ c = '>') : ∃ sign, next = .token (.compare sign) := by
  cases next with
  | token sign =>
      cases sign with
      | compare sign => exact ⟨sign, rfl⟩
      | _ => rcases hcomparison with rfl | rfl | rfl <;> cases hc
  | identifier | verbatim | parameter | cast | integer =>
      rcases hcomparison with rfl | rfl | rfl <;> cases hc

/-- A chunk does not go on with the character that its neighbour begins with, if no space is
written between them. -/
theorem goesOn_of_begins {current next : Chunk} {c : Char}
    (hcurrent : current.isLexical = true) (hnext : next.isLexical = true)
    (hspace : current.spaceBetween next = false) (hpoint : current.makesDecimal next = false)
    (hc : next.begins c = true) : current.goesOn c = false := by
  -- What is like a word does not stand next to the characters of another word.
  have hword : current.isWordLike = true → isWordChar c = false := by
    intro hlike
    by_contra hchar
    obtain ⟨hother, hcast⟩ := wordLike_of_begins hnext hc (by simpa using hchar)
    rw [spaceBetween_of_wordLike hcurrent hnext hlike hother hcast] at hspace
    cases hspace
  have hdigit : isWordChar c = false → c.isDigit = false := by
    intro hchar
    by_contra hdigit
    rw [isWordChar_of_isDigit (by simpa using hdigit)] at hchar
    cases hchar
  by_contra hgoes
  rw [Bool.not_eq_false] at hgoes
  cases current with
  | verbatim text => cases hcurrent
  | cast type => exact absurd hgoes (by simp [goesOn, hword rfl])
  | parameter value => exact absurd hgoes (by simp [goesOn, hdigit (hword rfl)])
  | identifier name =>
      obtain rfl : c = '"' := by simpa [goesOn] using hgoes
      obtain ⟨other, rfl⟩ := exists_identifier_of_begins hc
      cases hspace
  | integer value =>
      obtain rfl : c = '.' := by simpa [goesOn, hdigit (hword rfl)] using hgoes
      rw [eq_dot_of_begins hc] at hpoint
      cases hpoint
  | token sign =>
      cases sign with
      | word keyword => exact absurd hgoes (by simp [goesOn, hword rfl])
      | call callee => exact absurd hgoes (by simp [goesOn, hword rfl])
      | dot =>
          obtain ⟨value, rfl⟩ := exists_integer_of_begins hc hgoes
          cases hpoint
      | compare sign =>
          have hlonger : c = '=' ∨ c = '<' ∨ c = '>' := by
            cases sign <;> simp [goesOn] at hgoes <;> tauto
          obtain ⟨other, rfl⟩ := exists_comparison_of_begins hc hlonger
          cases hspace
      | openParen | closeParen | openBracket | closeBracket | comma | star => cases hgoes

theorem goesOn_blank (hchunk : chunk.isLexical = true) : chunk.goesOn ' ' = false := by
  cases chunk with
  | token sign =>
      cases sign with
      | compare sign => cases sign <;> rfl
      | _ => rfl
  | verbatim text => cases hchunk
  | identifier | parameter | cast | integer => rfl

end Chunk

/-! ## Fragments -/

namespace Fragment

open Splitter

variable {fragment : Fragment}

theorem isLexical_singleton (chunk : Chunk) : IsLexical [chunk] ↔ chunk.isLexical = true :=
  ⟨fun hlexical => hlexical.chunks chunk List.mem_cons_self,
    fun hchunk => ⟨List.forall_mem_singleton.mpr hchunk, .singleton chunk⟩⟩

theorem isLexical_cons_cons (chunk next : Chunk) (rest : Fragment) :
    IsLexical (chunk :: next :: rest) ↔
      chunk.isLexical = true ∧ chunk.makesDecimal next = false ∧ IsLexical (next :: rest) := by
  constructor
  · rintro ⟨hchunks, hapart⟩
    obtain ⟨hchunk, hrest⟩ := List.forall_mem_cons.mp hchunks
    obtain ⟨hpoint, htail⟩ := List.isChain_cons_cons.mp hapart
    exact ⟨hchunk, hpoint, hrest, htail⟩
  · rintro ⟨hchunk, hpoint, hrest⟩
    exact ⟨List.forall_mem_cons.mpr ⟨hchunk, hrest.chunks⟩,
      List.isChain_cons_cons.mpr ⟨hpoint, hrest.apart⟩⟩

/-- A fragment begins with its first chunk. -/
private theorem charsFrom_eq_cons {next : Chunk} (hnext : next.isLexical = true)
    (rest : Fragment) (index : Nat) :
    ∃ c tail, charsFrom index (next :: rest) = c :: tail ∧ next.begins c = true := by
  obtain ⟨c, tail, hchars, hbegins⟩ := Chunk.chars_eq_cons hnext index
  exact ⟨c, _, by rw [charsFrom_cons, hchars, List.cons_append], hbegins⟩

/-- The characters of a fragment are split into the lexemes of its chunks. -/
theorem piecesFrom?_charsFrom (hlexical : fragment.IsLexical) (index : Nat) :
    piecesFrom? (.plain .between) (fragment.charsFrom index) =
      some ((fragment.lexemesFrom index).map .lexeme) := by
  induction fragment generalizing index with
  | nil => rfl
  | cons chunk rest ih =>
      cases rest with
      | nil =>
          have hend : ∀ c ∈ ([] : List Char).head?, chunk.goesOn c = false := by simp
          have hread := Chunk.piecesFrom?_chars ((isLexical_singleton chunk).mp hlexical) index hend
          rw [List.append_nil] at hread
          exact hread
      | cons next rest =>
          obtain ⟨hchunk, hpoint, hrest⟩ := (isLexical_cons_cons chunk next rest).mp hlexical
          have hnext := hrest.chunks next List.mem_cons_self
          have hothers := ih hrest (index + (values [chunk]).length)
          rw [charsFrom_cons, gap_cons]
          cases hspace : chunk.spaceBetween next with
          | true =>
              rw [if_pos rfl, List.singleton_append, Chunk.piecesFrom?_chars hchunk index
                (by simpa using Chunk.goesOn_blank hchunk), piecesFrom?_blank, hothers]
              rfl
          | false =>
              obtain ⟨c, tail, hchars, hbegins⟩ :=
                charsFrom_eq_cons hnext rest (index + (values [chunk]).length)
              have hends : ∀ d ∈ (charsFrom (index + (values [chunk]).length)
                  (next :: rest)).head?, chunk.goesOn d = false := by
                simpa [hchars] using
                  Chunk.goesOn_of_begins hchunk hnext hspace hpoint hbegins
              rw [if_neg Bool.false_ne_true, List.nil_append,
                Chunk.piecesFrom?_chars hchunk index hends, hothers]
              rfl

/-- A fragment without its values. -/
def withoutValues (fragment : Fragment) : Fragment :=
  fragment.map Chunk.withoutValue

/-- The lexemes of a fragment tell the fragment, but for its values. -/
theorem mapM_written?_lexemesFrom (hchunks : ∀ chunk ∈ fragment, chunk.isLexical = true)
    (index : Nat) :
    (fragment.lexemesFrom index).mapM Lexeme.written? = some fragment.withoutValues := by
  induction fragment generalizing index with
  | nil => rfl
  | cons chunk rest ih =>
      obtain ⟨hchunk, hrest⟩ := List.forall_mem_cons.mp hchunks
      rw [lexemesFrom, List.mapM_cons, Chunk.written?_lexeme hchunk, ih hrest]
      rfl

/-- The text of a fragment is split into the lexemes of its chunks, each placeholder with its
number, so two fragments with the same text differ in their values at most. -/
theorem pieces?_text (hlexical : fragment.IsLexical) :
    pieces? fragment.text = some ((fragment.lexemesFrom 1).map .lexeme) ∧
      (fragment.lexemesFrom 1).mapM Lexeme.written? = some fragment.withoutValues ∧
      ∀ other : Fragment, other.IsLexical → other.text = fragment.text →
        other.withoutValues = fragment.withoutValues := by
  have hread : ∀ {fragment : Fragment}, fragment.IsLexical →
      pieces? fragment.text = some ((fragment.lexemesFrom 1).map .lexeme) := by
    intro fragment hlexical
    rw [pieces?, text, String.toList_ofList]
    exact piecesFrom?_charsFrom hlexical 1
  have hwritten := mapM_written?_lexemesFrom hlexical.chunks 1
  refine ⟨hread hlexical, hwritten, fun other hother htext => ?_⟩
  have hpieces := hread hother
  rw [htext, hread hlexical] at hpieces
  have hlexemes : fragment.lexemesFrom 1 = other.lexemesFrom 1 :=
    List.map_injective_iff.mpr (fun _ _ heq => Piece.lexeme.inj heq) (Option.some.inj hpieces)
  rw [hlexemes, mapM_written?_lexemesFrom hother.chunks] at hwritten
  exact Option.some.inj hwritten

/-- A comparison of a column whose name looks like the end of a statement. -/
def intricate : Fragment :=
  column "root" "a\"; $1.5 (" ++ comparison .le ++ parameter (.text "x") (some "date")
    ++ word .and ++ call (.call .any) (word .array ++ ofToken .openBracket
      ++ parameters [.int 1, .int 2] (some "int4") ++ ofToken .closeBracket)
    ++ comparison .lt ++ [.integer 12]

/-- The column keeps its name, and every sign and number stays apart from the next. -/
theorem pieces?_text_intricate :
    intricate.IsLexical ∧
      pieces? intricate.text = some ([.quoted "root", .sign .dot, .quoted "a\"; $1.5 (",
        .sign (.compare .le), .placeholder 1, .cast "date", .word "AND", .word "ANY",
        .sign .openParen, .word "ARRAY", .sign .openBracket, .placeholder 2, .cast "int4",
        .sign .comma, .placeholder 3, .cast "int4", .sign .closeBracket, .sign .closeParen,
        .sign (.compare .lt), .number 12].map .lexeme) := by
  have hlexical : intricate.IsLexical := ⟨by decide, by decide⟩
  exact ⟨hlexical, (pieces?_text hlexical).1⟩

/-- A point between two numbers makes them one. -/
example : pieces? (text [.integer 1, .token .dot, .integer 5]) =
    some [.decimal (some 1) ['5']] := by
  decide

end Fragment

end ListQuery.Sql
