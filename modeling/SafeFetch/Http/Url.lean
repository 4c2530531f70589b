import SafeFetch.Http.Address
import SafeFetch.Http.HostName.Basic
import SafeFetch.Http.UrlParts
import SafeFetch.Percent
import SafeFetch.Text.Numeral
import SafeFetch.Text.Quoted

/-!
# URLs of requests

The strict reading of a URL that a request is made for. Every part is brought into one ASCII form:
scheme and host in small letters, the default port left out, dot segments of the path resolved, and
every character that has no place in its part escaped, while escapes that are already there are
kept.
-/

namespace SafeFetch.Http

open SafeFetch.Text

/-- A URL in normal form. -/
structure Url where
  scheme : List Char
  userInfo : List Char
  host : List Char
  port : Option Int
  path : List Char
  query : Option (List Char)
  fragment : Option (List Char)
  deriving DecidableEq, Repr

namespace Url

/-- Why a text is no URL. -/
inductive Fault where
  | tooLong
  | control (c : Char) (position : Nat)
  | port (text : String)
  | version4 (host : String)
  | version6 (host : String)
  | internationalHost (host : String)
  | unrootedPath
  | doubleSlash
  | leadingColon
  deriving DecidableEq, Repr

/-- The text of a fault. -/
def Fault.message : Fault → String
  | .tooLong => "URL too long"
  | .control c position =>
    "Invalid non-printable ASCII character in URL, " ++ quoted (String.singleton c) ++
      s!" at position {position}."
  | .port text => "Invalid port: " ++ quoted text
  | .version4 host => "Invalid IPv4 address: " ++ quoted host
  | .version6 host => "Invalid IPv6 address: " ++ quoted host
  | .internationalHost host => "Invalid IDNA hostname: " ++ quoted host
  | .unrootedPath => "For absolute URLs, path must be empty or begin with '/'"
  | .doubleSlash => "Relative URLs cannot have a path starting with '//'"
  | .leadingColon => "Relative URLs cannot have a path starting with ':'"

/-- The most characters that a URL may have. -/
def maxLength : Nat := 65536

/-- Whether `c` is a control character of ASCII. -/
def isControl (c : Char) : Bool := c.toNat < 0x20 || c.toNat == 0x7F

/-! ## Which characters are kept -/

/-- Whether `c` stands for itself in every part. -/
def isUnreserved (c : Char) : Bool :=
  UrlParts.isLetter c || ('0' ≤ c && c ≤ '9') || c == '-' || c == '.' || c == '_' || c == '~'

/-- Whether `c` is visible ASCII and none of `escaped`. -/
def isVisibleExcept (escaped : String) (c : Char) : Bool :=
  0x20 < c.toNat && c.toNat < 0x7F && !escaped.toList.contains c

/-- Whether `c` stands for itself in a fragment. -/
def isFragmentChar (c : Char) : Bool := isVisibleExcept "\"<>`" c

/-- Whether `c` stands for itself in a query. -/
def isQueryChar (c : Char) : Bool := isVisibleExcept "\"#<>" c

/-- Whether `c` stands for itself in a path. -/
def isPathChar (c : Char) : Bool := isVisibleExcept "\"#<>?`\x7b\x7d" c

/-- Whether `c` stands for itself in the user information. -/
def isUserInfoChar (c : Char) : Bool := isVisibleExcept "\"#<>?`\x7b\x7d/;=@[\\]^|" c

/-- Whether `c` stands for itself in a host name. -/
def isHostChar (c : Char) : Bool :=
  isUnreserved c || "!$&'()*+,;=\"`\x7b\x7d%|\\".toList.contains c

/-! ## Parts -/

/-- The parts of a URL before they are checked and brought into normal form. -/
structure Raw where
  scheme : List Char
  authority : List Char
  path : List Char
  query : Option (List Char)
  fragment : Option (List Char)
  deriving DecidableEq, Repr

/-- Split at the first occurrence of a delimiter; without one there is no second part. -/
def cutOptional (sep : Char) (s : List Char) : List Char × Option (List Char) :=
  match cut? sep s with
  | some (before, after) => (before, some after)
  | none => (s, none)

/-- Split a scheme off, which may be empty as long as a colon follows. -/
def splitScheme (s : List Char) : List Char × List Char :=
  match cut? ':' s with
  | some (scheme, rest) =>
    if scheme.isEmpty || (scheme.all UrlParts.isSchemeChar &&
        (scheme.head?.map UrlParts.isLetter).getD false) then (scheme, rest)
    else ([], s)
  | none => ([], s)

/-- Tell the parts of a URL apart. -/
def Raw.parse (s : List Char) : Raw :=
  let (rest, fragment) := cutOptional '#' s
  let (rest, query) := cutOptional '?' rest
  let (scheme, rest) := splitScheme rest
  let (authority, path) := UrlParts.splitAuthority rest
  { scheme, authority, path, query, fragment }

/-- Split an authority into user information, host and port. The user information goes up to the
last at sign; a host in brackets goes up to the last closing bracket, any other up to a colon. -/
def splitAuthority (authority : List Char) : List Char × List Char × List Char :=
  let rest := (authority.reverse.takeWhile (· != '@')).reverse
  let userInfo := authority.take (authority.length - rest.length - 1)
  let host :=
    if rest.head? = some '[' ∧ rest.contains ']' then
      (rest.reverse.dropWhile (· != ']')).reverse
    else rest.takeWhile (· != ':')
  let port := rest.drop host.length
  (userInfo, host, if port.head? = some ':' then port.drop 1 else port)

/-- The normal form of a host. -/
def normalHost (host : List Char) : Except Fault (List Char) :=
  if host.isEmpty then .ok []
  else if Address.looksLikeVersion4 host then
    if Address.isVersion4 host then .ok host else .error (.version4 (String.ofList host))
  else if host.head? = some '[' ∧ host.getLast? = some ']' ∧ 2 ≤ host.length then
    let address := (host.drop 1).dropLast
    if Address.isVersion6 address then .ok address else .error (.version6 (String.ofList host))
  else if host.all isAscii then .ok (Percent.encode isHostChar (host.map lowerAscii))
  else
    match HostName.toAscii? host with
    | some host => .ok host
    | none => .error (.internationalHost (String.ofList host))

/-- The default ports of schemes. -/
def defaultPorts : List (String × Int) :=
  [("ftp", 21), ("http", 80), ("https", 443), ("ws", 80), ("wss", 443)]

/-- The normal form of a port: the default one of the scheme as it is spelled is left out. -/
def normalPort (port scheme : List Char) : Except Fault (Option Int) :=
  if port.isEmpty then .ok none
  else
    match Numeral.int? port with
    | none => .error (.port (String.ofList port))
    | some number =>
      if defaultPorts.any fun (name, default) => name.toList == scheme && default == number then
        .ok none
      else .ok (some number)

/-- Check a path against the presence of a scheme and of an authority. -/
def checkPath (path : List Char) (hasScheme hasAuthority : Bool) : Except Fault Unit :=
  if hasAuthority && !path.isEmpty && path.head? != some '/' then .error .unrootedPath
  else if !hasScheme && !hasAuthority && ['/', '/'].isPrefixOf path then .error .doubleSlash
  else if !hasScheme && !hasAuthority && path.head? == some ':' then .error .leadingColon
  else .ok ()

/-- One step through the segments of a path, innermost first: `..` leaves the innermost segment
unless nothing but the empty segment before the first slash is left. -/
def enterSegment (done : List (List Char)) (segment : List Char) : List (List Char) :=
  if segment = ['.'] then done
  else if segment = ['.', '.'] then (if done = [[]] then done else done.tail)
  else segment :: done

/-- Resolve the dot segments of a path. -/
def resolveDots (path : List Char) : List Char :=
  List.intercalate ['/'] ((splitAll '/' path).foldl enterSegment []).reverse

/-- Check the parts of a URL and bring them into normal form. -/
def Raw.normalize (raw : Raw) : Except Fault Url := do
  let (userInfo, host, port) := splitAuthority raw.authority
  let scheme := raw.scheme.map lowerAscii
  let userInfo := Percent.encode isUserInfoChar userInfo
  let host ← normalHost host
  let port ← normalPort port raw.scheme
  let hasScheme := !scheme.isEmpty
  let hasAuthority := !userInfo.isEmpty || !host.isEmpty || port.isSome
  checkPath raw.path hasScheme hasAuthority
  let path := if hasScheme || hasAuthority then resolveDots raw.path else raw.path
  return {
    scheme, userInfo, host, port
    path := Percent.encode isPathChar path
    query := raw.query.map (Percent.encode isQueryChar)
    fragment := raw.fragment.map (Percent.encode isFragmentChar) }

/-- Read a URL. -/
def parse (s : String) : Except Fault Url :=
  let s := s.toList
  if maxLength < s.length then .error .tooLong
  else
    match s.findIdx? isControl with
    | some position => .error (.control (s.getD position ' ') position)
    | none => (Raw.parse s).normalize

/-! ## The text of a URL -/

/-- The host and the port as they stand in a URL. -/
def hostAndPort (u : Url) : List Char :=
  (if u.host.contains ':' then '[' :: u.host ++ [']'] else u.host) ++
    (match u.port with
      | some port => ':' :: (toString port).toList
      | none => [])

/-- The authority as it stands in a URL. -/
def authority (u : Url) : List Char :=
  (if u.userInfo.isEmpty then [] else u.userInfo ++ ['@']) ++ u.hostAndPort

/-- The characters of a URL. -/
def chars (u : Url) : List Char :=
  (if u.scheme.isEmpty then [] else u.scheme ++ [':']) ++
    (if u.authority.isEmpty then [] else '/' :: '/' :: u.authority) ++ u.path ++
    (match u.query with
      | some query => '?' :: query
      | none => []) ++
    (match u.fragment with
      | some fragment => '#' :: fragment
      | none => [])

/-- The text of a URL. -/
def text (u : Url) : String := String.ofList u.chars

/-- Whether a URL says where to connect to. -/
def isAbsolute (u : Url) : Bool := !u.scheme.isEmpty && !u.host.isEmpty

/-- The path that is asked for, without escapes; an empty path asks for the root. -/
def requestPath (u : Url) : String :=
  String.ofList (Percent.decode (if u.path.isEmpty then ['/'] else u.path))

/-- The URL of a request without a base: a URL that does not say where to connect to keeps its path
and query only, below the root. -/
def forRequest (u : Url) : Except Fault Url :=
  if u.isAbsolute then .ok u
  else
    Raw.normalize
      { scheme := [], authority := [], path := '/' :: u.path.dropWhile (· == '/'),
        query := u.query, fragment := none }

/-- The parts of a URL in normal form, as the lenient reading tells them apart. -/
def parts (u : Url) : Except UrlParts.Fault UrlParts := UrlParts.parse u.chars

/-- The host with the letters that its ASCII form stands for. -/
def readHost (u : Url) : Except HostName.Fault (List Char) :=
  if HostName.mark.isPrefixOf u.host then HostName.ofAscii u.host else .ok u.host

/-- The URL with a host put into the place of its own. -/
def withHost (u : Url) (host : List Char) : Except Fault Url := do
  let host ← if host.contains ':' then .ok host else normalHost host
  if !host.isEmpty && !u.path.isEmpty && u.path.head? != some '/' then .error .unrootedPath
  else .ok { u with host }

end Url

end SafeFetch.Http
