import MetaSearch.Text.Blank
import MetaSearch.Text.Letter
import MetaSearch.Web.Message

/-!
# Challenges

Sites that suspect a machine answer with a puzzle in place of the page. Such an answer is known by words in its
body when its status refuses the request, and by its title whatever its status.
-/

namespace MetaSearch.Challenge

/-- The statuses that refuse a request for a while. -/
def statuses : List Int := [403, 429, 503]

/-- Words that only puzzles use. -/
def bodyMarks : List String :=
  ["just a moment", "cf-challenge", "challenge-platform", "enable javascript and cookies",
   "checking your browser", "ddos protection by cloudflare", "cf-browser-verification", "__cf_bm"]

/-- Words in the titles of puzzles. -/
def titleMarks : List String :=
  ["just a moment", "attention required! | cloudflare", "checking your browser", "ddos-guard"]

/-- What follows `p` in a text that begins with it but for case. -/
def afterCaseless? : (p s : List Char) → Option (List Char)
  | [], s => some s
  | _ :: _, [] => none
  | a :: p, c :: s => if Text.sameLetter a c then afterCaseless? p s else none

/-- What stands before the first place where `mark` stands but for case, and what follows it. -/
def cutCaseless? (mark : List Char) : List Char → Option (List Char × List Char)
  | [] => (afterCaseless? mark []).map ([], ·)
  | c :: s =>
    match afterCaseless? mark (c :: s) with
    | some rest => some ([], rest)
    | none => (cutCaseless? mark s).map fun (front, rest) => (c :: front, rest)

/-- The title of a page, whose whole element must stand in the given text. -/
def title? (head : List Char) : Option String := do
  let (_, rest) ← cutCaseless? "<title".toList head
  let (title, _) ← cutCaseless? "</title>".toList ((rest.dropWhile (· != '>')).drop 1)
  return Text.strip (String.ofList title)

/-- Whether a text holds one of some words. -/
def holdsAny (marks : List String) (text : String) : Bool :=
  marks.any (Text.contains text)

/-- Whether an answer is a puzzle. -/
def isChallenge (answer : Response) : Bool :=
  let small := Text.lower answer.body
  (statuses.contains answer.status && holdsAny bodyMarks small) ||
    (title? (small.toList.take 4096)).any (holdsAny titleMarks)

end MetaSearch.Challenge
