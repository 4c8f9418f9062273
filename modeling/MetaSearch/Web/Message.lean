import MetaSearch.Datum.Basic

/-!
# Requests and responses

What is sent to a site and what comes back. Parameters extend the address, a form is sent in the body; their
values are data, written as text only when they are sent.
-/

namespace MetaSearch

/-- A request for a page. -/
structure Request where
  method : String := "GET"
  url : String
  params : List (String × Datum) := []
  form : List (String × Datum) := []
  headers : List (String × String) := []
  /-- How many seconds an answer may take. -/
  timeout : Option Datum := none
  /-- The encoding of an answer that does not name its own. -/
  encoding : Option String := none
  deriving Repr, Inhabited

/-- The status and the text of an answer. -/
structure Response where
  status : Int := 200
  body : String := ""
  deriving DecidableEq, Repr, Inhabited

end MetaSearch
