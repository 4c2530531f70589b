import SafeFetch.Http.Address
import SafeFetch.Text.Blank
import SafeFetch.Text.Quoted

/-!
# Parts of a URL

The lenient reading of a URL: controls and spaces in front and tabs and line ends anywhere are
left out, then scheme, authority, path, query and fragment are told apart by their delimiters. Only
an authority can be refused. A relative URL is resolved against a base part by part.
-/

namespace SafeFetch.Http

open SafeFetch.Text

/-- The five parts of a URL. -/
structure UrlParts where
  scheme : List Char
  authority : List Char
  path : List Char
  query : List Char
  fragment : List Char
  deriving DecidableEq, Repr

namespace UrlParts

/-- Why an authority is refused. -/
inductive Fault where
  | unbalancedBrackets
  | futureAddress
  | notAnAddress (host : String)
  | version4InBrackets
  /-- A character that would turn into a delimiter under compatibility normalization. -/
  | hiddenDelimiter (authority : String)
  deriving DecidableEq, Repr

/-- The text of a fault. -/
def Fault.message : Fault → String
  | .unbalancedBrackets => "Invalid IPv6 URL"
  | .futureAddress => "IPvFuture address is invalid"
  | .notAnAddress host => quoted host ++ " does not appear to be an IPv4 or IPv6 address"
  | .version4InBrackets => "An IPv4 address cannot be in brackets"
  | .hiddenDelimiter authority =>
    "netloc '" ++ authority ++ "' contains invalid characters under NFKC normalization"

/-- The characters beyond ASCII whose compatibility form holds a slash, a question mark, a number
sign, an at sign or a colon. -/
def hiddenDelimiters : List Char :=
  [
    '\u2047', '\u2048', '\u2049', '\u2100', '\u2101', '\u2105', '\u2106', '\u2A74', '\uFE13',
    '\uFE16', '\uFE55', '\uFE56', '\uFE5F', '\uFE6B', '\uFF03', '\uFF0F', '\uFF1A', '\uFF1F',
    '\uFF20']

/-- Leave out what a URL may hold by accident: controls and spaces in front, tabs and line ends
anywhere. -/
def clean (s : List Char) : List Char :=
  (s.dropWhile fun c => c.toNat ≤ 0x20).filter fun c => c != '\t' && c != '\r' && c != '\n'

/-- Whether `c` is an ASCII letter. -/
def isLetter (c : Char) : Bool := ('a' ≤ c && c ≤ 'z') || ('A' ≤ c && c ≤ 'Z')

/-- Whether `c` may stand in a scheme. -/
def isSchemeChar (c : Char) : Bool :=
  isLetter c || ('0' ≤ c && c ≤ '9') || c == '+' || c == '-' || c == '.'

/-- Split a scheme off. -/
def splitScheme (s : List Char) : Option (List Char × List Char) :=
  (cut? ':' s).filter fun (scheme, _) =>
    scheme.all isSchemeChar && (scheme.head?.map isLetter).getD false

/-- Whether `c` ends an authority. -/
def endsAuthority (c : Char) : Bool := c == '/' || c == '?' || c == '#'

/-- Split an authority off, which follows two slashes. -/
def splitAuthority : List Char → List Char × List Char
  | '/' :: '/' :: rest =>
    (rest.takeWhile (!endsAuthority ·), rest.dropWhile (!endsAuthority ·))
  | s => ([], s)

/-- Whether a host in brackets that begins with the letter v is an address of a version to come. -/
def isFutureAddress (host : List Char) : Bool :=
  match cut? '.' (host.drop 1) with
  | some (version, address) =>
    !version.isEmpty && !address.isEmpty && version.all fun c => (Hex.digitValue? c).isSome
  | none => false

/-- The fault of a host in brackets. -/
def bracketedFault? (host : List Char) : Option Fault :=
  if host.head? = some 'v' then (if isFutureAddress host then none else some .futureAddress)
  else if Address.isVersion4 host then some .version4InBrackets
  else if Address.isVersion6 host then none
  else some (.notAnAddress (String.ofList host))

/-- The fault of the brackets in an authority. -/
def bracketFault? (authority : List Char) : Option Fault :=
  let opens := authority.contains '['
  let closes := authority.contains ']'
  if opens != closes then some .unbalancedBrackets
  else if opens then
    bracketedFault? (((authority.dropWhile (· != '[')).drop 1).takeWhile (· != ']'))
  else none

/-- The fault of an authority. -/
def authorityFault? (authority : List Char) : Option Fault :=
  (bracketFault? authority).or
    (if authority.any hiddenDelimiters.contains then
      some (.hiddenDelimiter (String.ofList authority))
    else none)

/-- Split at the first occurrence of a delimiter; without one the second part is empty. -/
def cutOff (sep : Char) (s : List Char) : List Char × List Char := (cut? sep s).getD (s, [])

/-- Tell the parts of a URL apart. -/
def parse (s : List Char) : Except Fault UrlParts :=
  let s := clean s
  let (scheme, rest) := (splitScheme s).getD ([], s)
  let (authority, rest) := splitAuthority rest
  match authorityFault? authority with
  | some fault => .error fault
  | none =>
    let (rest, fragment) := cutOff '#' rest
    let (path, query) := cutOff '?' rest
    .ok { scheme := scheme.map lowerAscii, authority, path, query, fragment }

/-! ## Resolution -/

/-- The schemes whose relative URLs are resolved. -/
def relativeSchemes : List String :=
  ["ftp", "http", "gopher", "nntp", "imap", "wais", "file", "https", "shttp", "mms", "prospero",
    "rtsp", "rtsps", "rtspu", "sftp", "svn", "svn+ssh", "ws", "wss"]

/-- Whether relative URLs of a scheme are resolved. -/
def isRelativeScheme (scheme : List Char) : Bool :=
  scheme.isEmpty || relativeSchemes.any (·.toList == scheme)

/-- The URL that has the given parts. Every scheme that resolves relative URLs also has an
authority, even an empty one. -/
def text (u : UrlParts) : List Char :=
  let hasAuthority :=
    !u.authority.isEmpty || (!u.scheme.isEmpty && isRelativeScheme u.scheme) ||
      ['/', '/'].isPrefixOf u.path
  let path :=
    if hasAuthority then
      '/' :: '/' :: u.authority ++
        (if u.path.isEmpty || u.path.head? == some '/' then u.path else '/' :: u.path)
    else u.path
  (if u.scheme.isEmpty then [] else u.scheme ++ [':']) ++ path ++
    (if u.query.isEmpty then [] else '?' :: u.query) ++
    (if u.fragment.isEmpty then [] else '#' :: u.fragment)

/-- Follow the segments of a path from the root; `..` at the root stays there. -/
def followSegments (segments : List (List Char)) : List (List Char) :=
  (segments.foldl
    (fun done segment =>
      if segment = ['.', '.'] then done.tail
      else if segment = ['.'] then done
      else segment :: done)
    []).reverse

/-- Leave empty segments out, except at either end. -/
def squeeze : List (List Char) → List (List Char)
  | [] => []
  | [only] => [only]
  | first :: others =>
    first :: (others.dropLast.filter (!·.isEmpty) ++ others.getLast?.toList)

/-- The path that a path means when seen from a base path. -/
def resolvePath (base path : List Char) : List Char :=
  let baseParts := splitAll '/' base
  let baseParts := if baseParts.getLast? = some [] then baseParts else baseParts.dropLast
  let segments :=
    if path.head? = some '/' then splitAll '/' path else squeeze (baseParts ++ splitAll '/' path)
  let last := segments.getLast?.getD []
  let followed := followSegments segments
  let followed := if last = ['.'] ∨ last = ['.', '.'] then followed ++ [[]] else followed
  match List.intercalate ['/'] followed with
  | [] => ['/']
  | path => path

/-- The schemes whose paths may end in parameters. -/
def parameterSchemes : List String :=
  ["ftp", "hdl", "prospero", "http", "imap", "https", "shttp", "rtsp", "rtsps", "rtspu", "sip",
    "sips", "mms", "sftp", "tel"]

/-- Split the parameters off a path: what follows the first semicolon of its last segment. -/
def splitParameters (scheme path : List Char) : List Char × List Char :=
  if scheme.isEmpty || parameterSchemes.any (·.toList == scheme) then
    let last := (path.reverse.takeWhile (· != '/')).reverse
    let (kept, parameters) := cutOff ';' last
    (path.take (path.length - last.length) ++ kept, parameters)
  else (path, [])

/-- A path with its parameters; a semicolon without any is left out. -/
def withParameters (path parameters : List Char) : List Char :=
  if parameters.isEmpty then path else path ++ ';' :: parameters

/-- The URL that `relative` means when seen from `base`, both given as texts and as parts. -/
def join (baseText relativeText : List Char) (base relative : UrlParts) : List Char :=
  if baseText.isEmpty then relativeText
  else if relativeText.isEmpty then baseText
  else
    let scheme := if relative.scheme.isEmpty then base.scheme else relative.scheme
    if scheme != base.scheme || !isRelativeScheme scheme then relativeText
    else
      let (basePath, baseParameters) := splitParameters base.scheme base.path
      let (path, parameters) := splitParameters scheme relative.path
      let target := { relative with scheme, path := withParameters path parameters }
      if !target.authority.isEmpty then target.text
      else
        let target := { target with authority := base.authority }
        if path.isEmpty && parameters.isEmpty then
          let query := if target.query.isEmpty then base.query else target.query
          { target with path := withParameters basePath baseParameters, query }.text
        else
          { target with path := withParameters (resolvePath basePath path) parameters }.text

end UrlParts

end SafeFetch.Http
