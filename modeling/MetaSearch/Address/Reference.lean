import MetaSearch.Address.Percent
import MetaSearch.Fault
import MetaSearch.Text.Blank
import MetaSearch.Text.Letter

/-!
# Web references

A reference is cut into scheme, authority, path, query and fragment, put together again, and resolved against a
base. Resolution follows the path rules of relative references: `.` and `..` segments are removed and an empty
reference takes the base's path.
-/

namespace MetaSearch

/-- A reference in its five parts. -/
structure Reference where
  scheme : String := ""
  authority : String := ""
  path : String := ""
  query : String := ""
  fragment : String := ""
  deriving DecidableEq, Repr

namespace Reference

/-- The schemes whose references are resolved against a base. -/
def relativeSchemes : List String :=
  ["", "ftp", "http", "gopher", "nntp", "imap", "wais", "file", "https", "shttp", "mms", "prospero", "rtsp",
   "rtsps", "rtspu", "sftp", "svn", "svn+ssh", "ws", "wss"]

/-- The schemes whose references have an authority. -/
def authoritySchemes : List String :=
  ["", "ftp", "http", "gopher", "nntp", "telnet", "imap", "wais", "file", "mms", "https", "shttp", "snews",
   "prospero", "rtsp", "rtsps", "rtspu", "rsync", "svn", "svn+ssh", "sftp", "nfs", "git", "git+ssh", "ws",
   "wss", "itms-services"]

/-- The schemes whose last path segment may carry parameters after a semicolon. -/
def parameterSchemes : List String :=
  ["", "ftp", "hdl", "prospero", "http", "imap", "https", "shttp", "rtsp", "rtsps", "rtspu", "sip", "sips",
   "mms", "sftp", "tel"]

/-- Characters that decompose into a delimiter of references. -/
def disguisedDelimiters : List Nat :=
  [0x2047, 0x2048, 0x2049, 0x2100, 0x2101, 0x2105, 0x2106, 0x2A74, 0xFE13, 0xFE16, 0xFE55, 0xFE56, 0xFE5F,
   0xFE6B, 0xFF03, 0xFF0F, 0xFF1A, 0xFF1F, 0xFF20]

/-- Whether four decimal numbers up to 255 with points between are written without leading zeros. -/
def isVersion4 (s : String) : Bool :=
  let parts := Text.split "." s
  parts.length == 4 && parts.all fun p =>
    !p.isEmpty && p.length ≤ 3 && p.toList.all Char.isDigit && (p.length == 1 || !Text.startsWith p "0") &&
      (p.toList.foldl (fun n c => 10 * n + (c.toNat - 48)) 0) ≤ 255

/-- Whether a text is a numeric address of version 6, a zone after a percent sign included. -/
def isVersion6 (s : String) : Bool :=
  let (address, zoneOk) := match Text.cutAt? "%" s with
    | some (a, zone) => (a, !zone.isEmpty && !Text.contains zone "%")
    | none => (s, true)
  let parts := Text.split ":" address
  let last := parts.getLastD ""
  let parts :=
    if Text.contains last "." then
      if isVersion4 last then parts.dropLast ++ ["0", "0"] else ["x"]
    else parts
  let isGroup (p : String) : Bool :=
    !p.isEmpty && p.length ≤ 4 && p.toList.all fun c => (Json.hexValue? c).isSome
  let inner := (parts.drop 1).dropLast
  let gaps := (inner.filter String.isEmpty).length
  let first := parts.headD ""
  let final := parts.getLastD ""
  zoneOk && 3 ≤ parts.length && parts.length ≤ 9 && gaps ≤ 1 && inner.all (fun p => p.isEmpty || isGroup p) &&
    (if gaps = 1 then
      let lead := first.isEmpty
      let trail := final.isEmpty
      (!lead || (parts.getD 1 "x").isEmpty) && (!trail || (parts.getD (parts.length - 2) "x").isEmpty) &&
        (lead || isGroup first) && (trail || isGroup final) &&
        (parts.filter (!·.isEmpty)).length ≤ 7
    else parts.length == 8 && isGroup first && isGroup final)

/-- Whether the host between brackets is a numeric address. -/
def isBracketedHost (host : String) : Bool :=
  match host.toList with
  | 'v' :: rest =>
    let version := rest.takeWhile fun c => (Json.hexValue? c).isSome
    match rest.drop version.length with
    | '.' :: tail => !version.isEmpty && !tail.isEmpty && !tail.contains '\n'
    | _ => false
  | _ => isVersion6 host

/-- Whether an authority may stand in a reference: its brackets pair up around a numeric address, and no
character in it decomposes into a delimiter. -/
def isAuthority (a : String) : Bool :=
  let opens := Text.contains a "["
  let closes := Text.contains a "]"
  let bracketOk :=
    if opens && closes then
      let after := match Text.cutAt? "[" a with | some (_, r) => r | none => ""
      let host := match Text.cutAt? "]" after with | some (h, _) => h | none => after
      isBracketedHost host
    else opens == closes
  bracketOk && a.toList.all fun c => !disguisedDelimiters.contains c.toNat

/-- A scheme at the front of a text, in small letters, and what follows its colon. -/
def schemeOf? (s : List Char) : Option (String × List Char) :=
  let front := s.takeWhile (· != ':')
  match s.drop front.length, front with
  | _ :: rest, c :: _ =>
    if c.isAlpha && front.all fun c => c.isAlphanum || c == '+' || c == '-' || c == '.' then
      some (String.ofList (front.map Char.toLower), rest)
    else none
  | _, _ => none

/-- The authority behind two slashes at the front of a text, and what follows it. -/
def authorityFront : List Char → String × List Char
  | '/' :: '/' :: r =>
    let a := r.takeWhile fun c => c != '/' && c != '?' && c != '#'
    (String.ofList a, r.drop a.length)
  | s => ("", s)

/-- The parts of a reference; nothing where its authority is malformed. Spaces and controls in front and tabs and
line ends anywhere are passed over. -/
def parse? (text : String) (scheme : String := "") : Option Reference :=
  let s := (text.toList.dropWhile (·.toNat ≤ 32)).filter fun c => c != '\t' && c != '\n' && c != '\r'
  let (scheme, s) := (schemeOf? s).getD (scheme, s)
  let (authority, s) := authorityFront s
  let (s, fragment) := (Text.cut? ['#'] s).getD (s, [])
  let (path, query) := (Text.cut? ['?'] s).getD (s, [])
  if isAuthority authority then
    some { scheme, authority, path := String.ofList path, query := String.ofList query,
           fragment := String.ofList fragment }
  else none

/-- The text of a reference. -/
def text (r : Reference) : String :=
  let body :=
    if !r.authority.isEmpty ||
        (!r.scheme.isEmpty && authoritySchemes.contains r.scheme && !Text.startsWith r.path "//") then
      "//" ++ r.authority ++
        (if !r.path.isEmpty && !Text.startsWith r.path "/" then "/" ++ r.path else r.path)
    else r.path
  (if r.scheme.isEmpty then "" else r.scheme ++ ":") ++ body ++
    (if r.query.isEmpty then "" else "?" ++ r.query) ++
    (if r.fragment.isEmpty then "" else "#" ++ r.fragment)

/-- The path without the parameters of its last segment, and those parameters. -/
def withoutParameters (r : Reference) : String × String :=
  if parameterSchemes.contains r.scheme then
    let (front, last) := match Text.cutAtLast? "/" r.path with
      | some (front, last) => (front ++ "/", last)
      | none => ("", r.path)
    match Text.cutAt? ";" last with
    | some (segment, parameters) => (front ++ segment, parameters)
    | none => (r.path, "")
  else (r.path, "")

/-- The path with parameters put back. -/
def withParameters (path parameters : String) : String :=
  if parameters.isEmpty then path else path ++ ";" ++ parameters

/-- Segments with `.` dropped and each `..` taking away the segment before it; `kept` holds those kept so far,
last first. -/
def removeDots (kept : List String) : List String → List String
  | [] => kept.reverse
  | ".." :: rest => removeDots (kept.drop 1) rest
  | "." :: rest => removeDots kept rest
  | segment :: rest => removeDots (segment :: kept) rest

/-- A list with the empty texts taken out, but for its first and last. -/
def withoutEmptyInner : List String → List String
  | [] => []
  | [a] => [a]
  | a :: rest => a :: rest.dropLast.filter (!·.isEmpty) ++ [rest.getLastD ""]

/-- The path of a relative path against a base path. -/
def resolvePath (base path : String) : String :=
  let baseParts := Text.split "/" base
  let baseParts := if (baseParts.getLastD "").isEmpty then baseParts else baseParts.dropLast
  let segments :=
    if Text.startsWith path "/" then Text.split "/" path
    else withoutEmptyInner (baseParts ++ Text.split "/" path)
  let last := segments.getLastD ""
  let resolved := removeDots [] segments ++ (if last == "." || last == ".." then [""] else [])
  let joined := "/".intercalate resolved
  if joined.isEmpty then "/" else joined

/-- A reference resolved against a base; nothing where either is malformed. -/
def join? (base url : String) : Option String := do
  if base.isEmpty then some url
  else if url.isEmpty then some base
  else
    let b ← parse? base
    let r ← parse? url b.scheme
    if r.scheme != b.scheme || !relativeSchemes.contains r.scheme then some url
    else if authoritySchemes.contains r.scheme && !r.authority.isEmpty then
      let (path, parameters) := r.withoutParameters
      some { r with path := withParameters path parameters }.text
    else
      let authority := if authoritySchemes.contains r.scheme then b.authority else r.authority
      let (path, parameters) := r.withoutParameters
      let (basePath, baseParameters) := b.withoutParameters
      if path.isEmpty && parameters.isEmpty then
        some { r with
          authority, path := withParameters basePath baseParameters
          query := if r.query.isEmpty then b.query else r.query }.text
      else
        some { r with authority, path := withParameters (resolvePath basePath path) parameters }.text

/-- A link found in an answer, made absolute against the address the answer came from. Absolute web and magnet
links stay as they are, a link without a scheme is a secure one, and a root path belongs to the address's
origin. -/
def absolute (url base : String) : Except Fault String :=
  let url := Text.strip url
  let small := Text.lower url
  let known := ["http://", "https://", "magnet:"].any (Text.startsWith small ·)
  if known then .ok url
  else if Text.startsWith url "//" then .ok ("https:" ++ url)
  else if base.isEmpty then .ok url
  else if Text.startsWith url "/" then
    match parse? base with
    | none => .error .badAddress
    | some b =>
      if b.scheme.isEmpty || b.authority.isEmpty then
        .ok (String.ofList (Text.dropEndWhile (· == '/') base.toList) ++ url)
      else .ok (b.scheme ++ "://" ++ b.authority ++ url)
  else
    let base := if Text.endsWith base "/" then base else base ++ "/"
    match join? base url with
    | some s => .ok s
    | none => .error .badAddress

/-- A link that may be absent, made absolute. -/
def absolute? (url : Option String) (base : String) : Except Fault (Option String) :=
  match url with
  | some u => if u.isEmpty then .ok (some u) else some <$> absolute u base
  | none => .ok none

end Reference

end MetaSearch
