import TokenRelay.Http.Host

/-!
# Addresses of resources

An address names a scheme, a host and the number of a service there, a path, a query and
a fragment.  Only the schemes of the web are read, and as browsers read them:
blanks around the text and line breaks within it do not count, a backslash is a slash,
any number of slashes stands before the host, and dot segments are resolved.
-/

namespace TokenRelay

/-- An address of a resource. -/
structure Url where
  secure : Bool
  username : String
  password : String
  host : Host
  /-- The number of the service at the host; none where it is the scheme's. -/
  service : Option Nat
  /-- The encoded segments of the path, at least one. -/
  segments : List String
  query : Option String
  /-- The encoded fragment, which is not sent. -/
  fragment : Option String
  deriving DecidableEq, Repr

namespace Url

/-- Whether a character is trimmed from the ends of an address. -/
def isBlank (char : Char) : Bool :=
  char.toNat ≤ 0x20

/-- A text without blanks around it and without tabs and line breaks. -/
def tidy (text : String) : List Char :=
  let inner := ((text.toList.dropWhile isBlank).reverse.dropWhile isBlank).reverse
  inner.filter fun char => char ≠ '\t' && char ≠ '\n' && char ≠ '\r'

/-- The texts before and after the first character of a kind. -/
def cut (stops : Char → Bool) : List Char → List Char × Option (List Char)
  | [] => ([], none)
  | char :: rest =>
    if stops char then
      ([], some rest)
    else
      let (before, after) := cut stops rest
      (char :: before, after)

/-- Whether a character separates segments. -/
def isSlash (char : Char) : Bool :=
  char = '/' || char = '\\'

/-- Whether the host and its service end before a character. -/
def endsAuthority (char : Char) : Bool :=
  isSlash char || char = '?' || char = '#'

/-- The scheme, and what follows its colon. -/
def readScheme? (chars : List Char) : Option (Bool × List Char) :=
  match cut (· = ':') chars with
  | (scheme, some rest) =>
    let name := String.ofList (scheme.map Char.toLower)
    if name = "http" then some (false, rest)
    else if name = "https" then some (true, rest)
    else none
  | (_, none) => none

/-- The texts before and after the last at sign. -/
def cutCredentials (authority : List Char) : List Char × List Char :=
  match cut (· = '@') authority.reverse with
  | (host, some credentials) => (credentials.reverse, host.reverse)
  | (host, none) => ([], host.reverse)

/-- The host, and the service behind the first colon that stands outside brackets. -/
def cutService : Bool → List Char → List Char × List Char
  | _, [] => ([], [])
  | inside, char :: rest =>
    if char = ':' && !inside then
      ([], rest)
    else
      let inside := if char = '[' then true else if char = ']' then false else inside
      let (host, service) := cutService inside rest
      (char :: host, service)

/-- Read the number of a service; an empty one is that of the scheme. -/
def readService? (secure : Bool) (digits : List Char) : Option (Option Nat) :=
  if digits.isEmpty then
    some none
  else if digits.all fun char => (Numeral.digit? char).isSome then
    match Host.readBase 10 digits with
    | some number =>
      if 65535 < number then none
      else if number = (if secure then 443 else 80) then some none
      else some (some number)
    | none => none
  else
    none

/-- Whether a segment stays where it is. -/
def isSingleDot (segment : List Char) : Bool :=
  [".", "%2e"].contains (String.ofList (segment.map Char.toLower))

/-- Whether a segment leads one level up. -/
def isDoubleDot (segment : List Char) : Bool :=
  ["..", ".%2e", "%2e.", "%2e%2e"].contains (String.ofList (segment.map Char.toLower))

/-- Resolve segments after some others, of which the last comes first. -/
def resolve (before : List String) : List (List Char) → List String
  | [] => before.reverse
  | segment :: rest =>
    let before :=
      if isDoubleDot segment then
        (if rest.isEmpty then "" :: before.tail else before.tail)
      else if isSingleDot segment then
        (if rest.isEmpty then "" :: before else before)
      else
        String.ofList (Percent.encode Percent.inPath segment) :: before
    resolve before rest

/-- The segments of a path, with those resolved that lead nowhere or up. -/
def readSegments (chars : List Char) : List String :=
  let path := match chars with
    | [] => []
    | char :: rest => if isSlash char then rest else char :: rest
  resolve [] (Separated.parts '/' (path.map fun char => if char = '\\' then '/' else char))

/-- Read an address; none where it is none of the web. -/
def read? (text : String) : Option Url :=
  match readScheme? (tidy text) with
  | none => none
  | some (secure, rest) =>
    let rest := rest.dropWhile isSlash
    let authority := rest.takeWhile (!endsAuthority ·)
    let (credentials, address) := cutCredentials authority
    let (username, password) := cut (· = ':') credentials
    let (host, service) := cutService false address
    let (resource, fragment) := cut (· = '#') (rest.dropWhile (!endsAuthority ·))
    let (path, query) := cut (· = '?') resource
    match Host.read? host, readService? secure service with
    | some host, some service =>
      some
        { secure := secure
          username := String.ofList (Percent.encode Percent.inCredentials username)
          password :=
            String.ofList (Percent.encode Percent.inCredentials (password.getD []))
          host := host
          service := service
          segments := readSegments path
          query := query.map fun found =>
            String.ofList (Percent.encode Percent.inQuery found)
          fragment := fragment.map fun found =>
            String.ofList (Percent.encode Percent.inFragment found) }
    | _, _ => none

/-- Add pairs to the query. -/
def withPairs (url : Url) (pairs : List (String × String)) : Url :=
  if pairs.isEmpty then
    url
  else
    let added := String.ofList (Percent.form pairs)
    let query := match url.query with
      | none => added
      | some found => if found.isEmpty then added else found ++ "&" ++ added
    { url with query := some query }

/-- What is asked for at the host: the path and the query. -/
def target (url : Url) : String :=
  let path := url.segments.foldl (fun text segment => text ++ "/" ++ segment) ""
  match url.query with
  | none => path
  | some query => path ++ "?" ++ query

/-- The text of an address without its credentials. -/
def text (url : Url) : String :=
  let scheme := if url.secure then "https://" else "http://"
  let service := match url.service with
    | none => ""
    | some number => ":" ++ Numeral.text number
  let fragment := match url.fragment with
    | none => ""
    | some found => "#" ++ found
  scheme ++ url.host.text ++ service ++ url.target ++ fragment

/-- How many octets the longest address has that a request can be sent to. -/
def longest : Nat := 65534

/-- Whether a request can be sent to an address. -/
def isSendable (url : Url) : Bool :=
  url.host.isSendable && url.text.utf8ByteSize ≤ longest

end Url

end TokenRelay
