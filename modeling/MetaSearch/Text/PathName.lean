import MetaSearch.Fault
import MetaSearch.Text.Basic

/-!
# Path names

The written form of a path to a file or a directory: its parts with one slash between them, none of them empty or
the single point that stands for where one is.
-/

namespace MetaSearch.PathName

/-- The parts of a path that lead anywhere. -/
def parts (s : List Char) : List (List Char) :=
  (Text.splitOn ['/'] s).filter fun p => p != [] && p != ['.']

/-- What a path from the root begins with; two slashes, and no more, are a root of their own. -/
def root : List Char → List Char
  | '/' :: '/' :: '/' :: _ => ['/']
  | '/' :: '/' :: _ => ['/', '/']
  | '/' :: _ => ['/']
  | _ => []

/-- The written form of a path; the path that leads nowhere is a single point. -/
def normal (s : String) : String :=
  match root s.toList ++ Text.joinWith ['/'] (parts s.toList) with
  | [] => "."
  | cs => String.ofList cs

/-- Whether a path starts from somebody's home. -/
def isFromHome (s : String) : Bool :=
  (root s.toList).isEmpty && ((parts s.toList).headD []).head? == some '~'

/-- A home without the slashes at its end. -/
def withoutEnd (home : String) : List Char :=
  (home.toList.reverse.dropWhile (· == '/')).reverse

/-- The written form of a path. One that starts from `~` starts from the home that is known; no other home is, and none
that starts from `~` itself. -/
def ofText (home : Option String) (s : String) : Except Fault String :=
  if isFromHome s then
    match home.map withoutEnd, parts s.toList with
    | some home, ['~'] :: rest =>
      if home.head? = some '~' then .error .unknownHome
      else .ok (normal (String.ofList (home ++ '/' :: Text.joinWith ['/'] rest)))
    | _, _ => .error .unknownHome
  else .ok (normal s)

theorem ofText_of_not_isFromHome {home : Option String} {s : String} (h : isFromHome s = false) :
    ofText home s = .ok (normal s) := by
  simp [ofText, h]

end MetaSearch.PathName
