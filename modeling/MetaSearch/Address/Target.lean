import MetaSearch.Address.HostName
import MetaSearch.Address.Percent
import MetaSearch.Address.Reference
import MetaSearch.Text.Quoted

/-!
# Addresses that requests are sent to

Before a request is sent its address is made regular: small letters in scheme and host, no default port, no dot
segments, and everything percent-encoded that may not stand where it does; what is encoded already stays.
`parse` says what is wrong with an address that cannot be.
-/

namespace MetaSearch

/-- An address in regular form. -/
structure Target where
  scheme : String := ""
  userInfo : String := ""
  host : String := ""
  port : Option Int := none
  path : String := ""
  query : Option String := none
  fragment : Option String := none
  deriving DecidableEq, Repr, Inhabited

namespace Target

/-- A character that ASCII prints, other than those of a set. -/
def isPlainBut (excluded : String) (c : Char) : Bool :=
  0x20 < c.toNat && c.toNat < 0x7F && !excluded.toList.contains c

/-- What may stand in a fragment. -/
def isFragmentChar : Char → Bool := isPlainBut "\"<>`"

/-- What may stand in a query. -/
def isQueryChar : Char → Bool := isPlainBut "\"#<>"

/-- What may stand in a path. -/
def isPathChar : Char → Bool := isPlainBut "\"#<>?`\x7b\x7d"

/-- What may stand before the host. -/
def isUserChar : Char → Bool := isPlainBut "\"#<>?`\x7b\x7d/;=@[\\]^|"

/-- What may stand in the name of a host. -/
def isHostChar (c : Char) : Bool :=
  Percent.isUnreserved c || "!$&'()*+,;=\"`\x7b\x7d%|\\".toList.contains c

/-- A text with everything encoded but what is safe and what is encoded already. -/
def encodeRest (safe : Char → Bool) : List Char → List Char
  | '%' :: a :: b :: s =>
    if (Json.hexValue? a).isSome && (Json.hexValue? b).isSome then '%' :: a :: b :: encodeRest safe s
    else (if safe '%' then ['%'] else Percent.byte 37) ++ encodeRest safe (a :: b :: s)
  | c :: s => (if safe c then [c] else (Utf8.encodeChar c).flatMap Percent.byte) ++ encodeRest safe s
  | [] => []

/-- A text with everything encoded but what is safe and what is encoded already. -/
def encoded (safe : Char → Bool) (s : String) : String :=
  String.ofList (encodeRest safe s.toList)

/-- A path without dot segments. -/
def withoutDots (path : String) : String :=
  let segments := Text.split "/" path
  if segments.contains "." || segments.contains ".." then
    let kept := segments.foldl (fun kept segment =>
      if segment == "." then kept
      else if segment == ".." then (if kept == [""] then kept else kept.drop 1)
      else segment :: kept) []
    "/".intercalate kept.reverse
  else path

/-- The ports that schemes have unless another is given. -/
def defaultPorts : List (String × Int) :=
  [("ftp", 21), ("http", 80), ("https", 443), ("ws", 80), ("wss", 443)]

/-- The authority of an address in its parts: before the host, the host, and the port. -/
def authorityParts (authority : String) : String × String × String :=
  let (user, rest) := (Text.cutAtLast? "@" authority).getD ("", authority)
  let (host, rest) :=
    match rest.toList, Text.cutAtLast? "]" rest with
    | '[' :: _, some (inside, after) => (inside ++ "]", after)
    | _, _ =>
      let host := rest.toList.takeWhile (· != ':')
      (String.ofList host, Text.drop host.length rest)
  (user, host, if Text.startsWith rest ":" then Text.drop 1 rest else rest)

/-- The host of an address in regular form. -/
def regularHost (host : String) : Except String String :=
  let inside := Text.drop 1 (Text.take (host.length - 1) host)
  let isVersion4Like := !host.isEmpty && (Text.split "." host).length == 4 &&
    (Text.split "." host).all fun p => !p.isEmpty && p.toList.all Char.isDigit
  if isVersion4Like then
    if Reference.isVersion4 host then .ok host else .error ("Invalid IPv4 address: " ++ Text.quoted host)
  else if Text.startsWith host "[" && Text.endsWith host "]" then
    if Reference.isVersion6 inside then .ok inside else .error ("Invalid IPv6 address: " ++ Text.quoted host)
  else if host.toList.all (·.toNat < 128) then
    .ok (String.ofList (encodeRest isHostChar (host.toList.map Char.toLower)))
  else
    match HostName.ascii? host with
    | some name => .ok name
    | none => .error ("Invalid IDNA hostname: " ++ Text.quoted host)

/-- The port of an address, unless it is the scheme's own. -/
def regularPort (scheme port : String) : Except String (Option Int) :=
  if port.isEmpty then .ok none
  else
    match Numeral.int? port with
    | none => .error ("Invalid port: " ++ Text.quoted port)
    | some n => .ok (if List.lookup scheme defaultPorts == some n then none else some n)

/-- Whether a path may stand in an address with or without a scheme and an authority. -/
def checkPath (path : String) (hasScheme hasAuthority : Bool) : Except String Unit :=
  if hasAuthority then
    if path.isEmpty || Text.startsWith path "/" then .ok ()
    else .error "For absolute URLs, path must be empty or begin with '/'"
  else if hasScheme then .ok ()
  else if Text.startsWith path "//" then .error "Relative URLs cannot have a path starting with '//'"
  else if Text.startsWith path ":" then .error "Relative URLs cannot have a path starting with ':'"
  else .ok ()

/-- A scheme at the front of a text, and what follows its colon. -/
def schemeParts (s : List Char) : String × List Char :=
  let front := s.takeWhile (· != ':')
  match s.drop front.length, front with
  | _ :: rest, c :: _ =>
    if c.isAlpha && front.all fun c => c.isAlphanum || c == '+' || c == '.' || c == '-' then
      (String.ofList front, rest)
    else ("", s)
  | _ :: rest, [] => ("", rest)
  | [], _ => ("", s)

/-- The query behind a question mark at the front of a text, and what follows it. -/
def queryFront : List Char → Option (List Char) × List Char
  | '?' :: r =>
    let q := r.takeWhile (· != '#')
    (some q, r.drop q.length)
  | s => (none, s)

/-- The fragment behind a number sign at the front of a text. -/
def fragmentFront? : List Char → Option (List Char)
  | '#' :: r => some r
  | _ => none

/-- The longest address that is taken. -/
def maxLength : Nat := 65536

/-- An address in regular form, or what is wrong with it. -/
def parse (text : String) : Except String Target := do
  if maxLength < text.length then throw "URL too long"
  match text.toList.find? fun c => c.toNat < 0x20 || c.toNat == 0x7F with
  | some c =>
    let place := (text.toList.takeWhile (· != c)).length
    throw ("Invalid non-printable ASCII character in URL, " ++ Text.quoted (String.singleton c) ++
      " at position " ++ toString place ++ ".")
  | none => pure ()
  let (scheme, s) := schemeParts text.toList
  let (authority, s) := Reference.authorityFront s
  let path := s.takeWhile fun c => c != '?' && c != '#'
  let (query, s) := queryFront (s.drop path.length)
  let (user, host, port) := authorityParts authority
  let host ← regularHost host
  let port ← regularPort scheme port
  let small := String.ofList (scheme.toList.map Char.toLower)
  let hasAuthority := !user.isEmpty || !host.isEmpty || port.isSome
  let path := String.ofList path
  checkPath path (!small.isEmpty) hasAuthority
  let path := if !small.isEmpty || hasAuthority then withoutDots path else path
  return { scheme := small, userInfo := encoded isUserChar user, host, port, path := encoded isPathChar path
           query := query.map fun q => String.ofList (encodeRest isQueryChar q)
           fragment := (fragmentFront? s).map fun f => String.ofList (encodeRest isFragmentChar f) }

/-- The authority of an address. -/
def authority (t : Target) : String :=
  (if t.userInfo.isEmpty then "" else t.userInfo ++ "@") ++
    (if Text.contains t.host ":" then "[" ++ t.host ++ "]" else t.host) ++
    (t.port.map fun n => ":" ++ toString n).getD ""

/-- The text of an address. -/
def text (t : Target) : String :=
  (if t.scheme.isEmpty then "" else t.scheme ++ ":") ++
    (if t.authority.isEmpty then "" else "//" ++ t.authority) ++ t.path ++
    (t.query.map ("?" ++ ·)).getD "" ++ (t.fragment.map ("#" ++ ·)).getD ""

/-- Whether an address says neither how nor where to. -/
def isRelative (t : Target) : Bool :=
  t.scheme.isEmpty || t.host.isEmpty

/-- The address that a request for an address is sent to: a relative one becomes a path from the root. -/
def rooted (t : Target) : Target :=
  if t.isRelative then
    { path := "/" ++ String.ofList (t.path.toList.dropWhile (· == '/')), query := t.query }
  else t

/-- The address with a form in place of its query, unless that is longer than addresses may be. -/
def withForm (t : Target) (fields : List (String × String)) : Except String Target :=
  let query := Percent.form fields
  if maxLength < query.length then .error "URL component 'query' too long" else .ok { t with query := some query }

/-- The address that a location given in an answer names, or what is wrong with it. -/
def follow (t : Target) (location : String) : Except String Target := do
  let url ← parse location
  let url := if !url.scheme.isEmpty && url.host.isEmpty then { url with host := t.host } else url
  let url ← if url.isRelative then parse ((Reference.join? t.text url.text).getD url.text) else pure url
  return if (t.fragment.getD "").isEmpty || !(url.fragment.getD "").isEmpty then url
    else { url with fragment := t.fragment }

end Target

end MetaSearch
