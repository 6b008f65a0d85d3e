/-!
# Showing the URL of a database

A URL may hold a password, which is not to be shown: it stands before the first at
sign and after the last colon in front of that, unless that colon belongs to the
scheme.
-/

namespace ListQuery.DatabaseUrl

/-- What is shown in place of a password. -/
def mask : List Char := "****".toList

/-- How many characters a scheme takes at the front of a text, with what separates it
from the rest. -/
def schemeLength? : List Char → Option Nat
  | [] => none
  | ':' :: '/' :: '/' :: _ => some 3
  | _ :: rest => (schemeLength? rest).map (· + 1)

/-- The characters before the first at sign. -/
def account (url : List Char) : List Char :=
  url.takeWhile (· != '@')

/-- The characters of an account through its last colon; none if it has no colon. -/
def throughColon (account : List Char) : List Char :=
  (account.reverse.dropWhile (· != ':')).reverse

/-- The URL without the password. -/
def maskedChars (url : List Char) : List Char :=
  let account := account url
  let shown := throughColon account
  if account.length < url.length ∧ (schemeLength? url).getD 0 + 1 < shown.length then
    shown ++ mask ++ url.drop account.length
  else url

/-- The URL as it is shown. -/
def masked (url : String) : String :=
  String.ofList (maskedChars url.toList)

end ListQuery.DatabaseUrl
