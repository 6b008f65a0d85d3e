import ListQuery.Text.Alphanumeric
import ListQuery.Text.Case

/-!
# Camel case

A name is cut into words, which are then written one after the other.  Words end
at every character that is neither a letter nor a numeral, before an upper case
letter that follows a lower case one, and before the last of several upper case
letters if a lower case one comes after it.  So `HTTPServer_v2` has the words
`HTTP`, `Server` and `v2`.
-/

namespace ListQuery.Text

/-! ## Words -/

/-- The case of the latest cased letter of a word, if it has any. -/
inductive LetterCase where
  | lower
  | upper
deriving DecidableEq

/-- The case of the latest cased letter once a character has been added. -/
def LetterCase.after (current : Option LetterCase) (c : Char) : Option LetterCase :=
  if isLowercase c then some .lower
  else if isUppercase c then some .upper
  else current

/-- The words of a text of letters and numerals; `word` holds, last one first, the
characters of the word that is being read. -/
def caseWords (current : Option LetterCase) (word : List Char) : List Char → List (List Char)
  | [] => []
  | [c] => [(c :: word).reverse]
  | c :: next :: rest =>
    let following := LetterCase.after current c
    if following = some .lower ∧ isUppercase next then
      (c :: word).reverse :: caseWords none [] (next :: rest)
    else if current = some .upper ∧ isUppercase c ∧ isLowercase next then
      word.reverse :: caseWords none [c] (next :: rest)
    else caseWords following (c :: word) (next :: rest)

/-- The longest pieces of a text that consist of letters and numerals; `piece`
holds, last one first, the characters of the piece that is being read. -/
def pieces (piece : List Char) : List Char → List (List Char)
  | [] => [piece.reverse]
  | c :: rest =>
    if isAlphanumeric c then pieces (c :: piece) rest else piece.reverse :: pieces [] rest

/-- The words of a name. -/
def words (name : List Char) : List (List Char) :=
  (pieces [] name).flatMap (caseWords none [])

/-! ## Writing words -/

/-- A word in lower case.  A sigma at its end takes the form of a final sigma. -/
def lowerWord : List Char → List Char
  | [] => []
  | [c] => if c = 'Σ' then ['ς'] else lowerChar c
  | c :: rest => lowerChar c ++ lowerWord rest

/-- A word in lower case but for its first character. -/
def capitalWord : List Char → List Char
  | [] => []
  | c :: rest => upperChar c ++ lowerWord rest

/-- A name in camel case that starts with a capital. -/
def upperCamelCase (name : String) : String :=
  String.ofList ((words name.toList).flatMap capitalWord)

/-- A name in camel case that starts with a lower case word. -/
def lowerCamelCase (name : String) : String :=
  match words name.toList with
  | [] => ""
  | first :: rest => String.ofList (lowerWord first ++ rest.flatMap capitalWord)

end ListQuery.Text
