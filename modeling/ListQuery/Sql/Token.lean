/-!
# The words and signs of a statement

The vocabulary is closed: every keyword, function name and sign that a statement
can contain is one of the tokens here, and everything a caller supplies travels
as a parameter instead.
-/

namespace ListQuery.Sql

/-- A reserved word. -/
inductive Keyword where
  | select | fromWord | whereWord | order | byWord | limit | asWord | on | inner | left | join
  | asc | desc | nulls | first | last
  | and | or | not | is | null | distinct | ilike | between | true | false
  | array
deriving DecidableEq

/-- The text of a reserved word. -/
def Keyword.text : Keyword → String
  | .select => "SELECT"
  | .fromWord => "FROM"
  | .whereWord => "WHERE"
  | .order => "ORDER"
  | .byWord => "BY"
  | .limit => "LIMIT"
  | .asWord => "AS"
  | .on => "ON"
  | .inner => "INNER"
  | .left => "LEFT"
  | .join => "JOIN"
  | .asc => "ASC"
  | .desc => "DESC"
  | .nulls => "NULLS"
  | .first => "FIRST"
  | .last => "LAST"
  | .and => "AND"
  | .or => "OR"
  | .not => "NOT"
  | .is => "IS"
  | .null => "NULL"
  | .distinct => "DISTINCT"
  | .ilike => "ILIKE"
  | .between => "BETWEEN"
  | .true => "TRUE"
  | .false => "FALSE"
  | .array => "ARRAY"

/-- A name that is written against the parenthesis of its arguments. -/
inductive Callee where
  | any | all | coalesce | arrayToString
deriving DecidableEq

/-- The text of a function name. -/
def Callee.text : Callee → String
  | .any => "ANY"
  | .all => "ALL"
  | .coalesce => "COALESCE"
  | .arrayToString => "array_to_string"

/-- A comparison sign. -/
inductive Comparison where
  | eq | ne | lt | gt | le | ge
deriving DecidableEq

/-- The text of a comparison sign. -/
def Comparison.text : Comparison → String
  | .eq => "="
  | .ne => "<>"
  | .lt => "<"
  | .gt => ">"
  | .le => "<="
  | .ge => ">="

/-- A keyword, a function name, a comparison or a punctuation mark. -/
inductive Token where
  | word (keyword : Keyword)
  | call (callee : Callee)
  | compare (comparison : Comparison)
  | openParen | closeParen | openBracket | closeBracket | comma | dot
  | star
deriving DecidableEq

namespace Token

/-- The text of a token. -/
def text : Token → String
  | .word keyword => keyword.text
  | .call callee => callee.text
  | .compare comparison => comparison.text
  | .openParen => "("
  | .closeParen => ")"
  | .openBracket => "["
  | .closeBracket => "]"
  | .comma => ","
  | .dot => "."
  | .star => "*"

/-- Whether the token is a comparison, which has a space on either side. -/
def isComparison : Token → Bool
  | .compare _ => true
  | _ => false

/-- Whether the token is written against its opening parenthesis. -/
def isCall : Token → Bool
  | .call _ => true
  | _ => false

/-- Whether the token is a comparison or a mark that needs no space of its own. -/
def isPunctuation : Token → Bool
  | .compare _ | .openParen | .closeParen | .openBracket | .closeBracket | .comma | .dot => true
  | .word _ | .call _ | .star => false

end Token

end ListQuery.Sql
