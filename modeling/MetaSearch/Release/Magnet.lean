import MetaSearch.Address.Percent

/-!
# Magnet links

A magnet link names a release by its info-hash: forty hexadecimal digits, or thirty-two letters and digits of
the alphabet with base 32. Title and trackers are quoted, so none of them can add to the link's parameters.
-/

namespace MetaSearch.Magnet

/-- The trackers named by a link unless others are given. -/
def publicTrackers : List String :=
  ["udp://tracker.coppersurfer.tk:6969/announce",
   "udp://tracker.open-internet.nl:6969/announce",
   "udp://tracker.leechers-paradise.org:6969/announce"]

/-- A text as a parameter of a magnet link. -/
def component (text : String) : String :=
  Percent.quote "!*'()" text

/-- The magnet link of an info-hash, a title and trackers. -/
def build (infoHash title : String) (trackers : List String) : String :=
  "magnet:?xt=urn:btih:" ++ infoHash ++ "&dn=" ++ component title ++
    String.join (trackers.map fun tracker => "&tr=" ++ component tracker)

/-- Whether a character is a hexadecimal digit. -/
def isHexDigit (c : Char) : Bool :=
  c.isDigit || ('a' ≤ c && c ≤ 'f') || ('A' ≤ c && c ≤ 'F')

/-- Whether a character belongs to the alphabet with base 32, in either case. -/
def isBase32 (c : Char) : Bool :=
  c.isAlpha || ('2' ≤ c && c ≤ '7')

/-- The info-hash that begins a text. -/
def hashAt? (s : List Char) : Option (List Char) :=
  if (s.take 40).length = 40 ∧ (s.take 40).all isHexDigit then some (s.take 40)
  else if (s.take 32).length = 32 ∧ (s.take 32).all isBase32 then some (s.take 32)
  else none

/-- The first info-hash in a text behind its mark. -/
def findHash? : List Char → Option (List Char)
  | [] => none
  | c :: s =>
    match (Text.after? "urn:btih:".toList (c :: s)).bind hashAt? with
    | some hash => some hash
    | none => findHash? s

/-- The info-hash that a magnet link names. -/
def infoHash? (magnet : String) : Option String :=
  (findHash? magnet.toList).map String.ofList

end MetaSearch.Magnet
