import ContractAtlas.Web.Host

/-!
# URLs

An absolute URL: a scheme, and either an authority and a path, or for schemes without a hierarchy an
opaque path, and then a query and a fragment. Reading a URL brings it to its normal form: letter
case of scheme and domain, numbers of addresses, the default port, dots in the path, and percent
encoding.
-/

namespace ContractAtlas.Web

open Text

/-- A URL in normal form. The user information is not kept. -/
structure Url where
  scheme : String
  /-- The host, none for a URL without an authority. -/
  host : Option String
  port : Option Nat
  path : String
  query : Option String
  fragment : Option String
deriving DecidableEq, Repr

namespace Url

/-- The default ports of the schemes whose URLs always have an authority. -/
def defaultPorts : List (String × Nat) :=
  [("http", 80), ("https", 443), ("ws", 80), ("wss", 443), ("ftp", 21)]

/-- Whether URLs of a scheme always have an authority. -/
def isHierarchical (scheme : String) : Bool :=
  defaultPorts.any fun known => known.1 = scheme

/-- Whether a scheme takes backslashes for slashes. -/
def takesBackslashes (scheme : String) : Bool :=
  isHierarchical scheme || scheme = "file"

/-- The default port of a scheme. -/
def defaultPort? (scheme : String) : Option Nat :=
  (defaultPorts.find? fun known => known.1 = scheme).map Prod.snd

/-- The characters of a URL that count: blanks and control characters around it do not, and neither
do tabs and line ends anywhere. -/
def relevant (text : String) : List Char :=
  let isIgnored (character : Char) : Bool := character.toNat <= 0x20
  let trimmed := ((text.toList.dropWhile isIgnored).reverse.dropWhile isIgnored).reverse
  trimmed.filter fun character => !(['\t', '\n', '\r'].contains character)

/-- The scheme of a URL and the characters after its colon. -/
def scheme? (characters : List Char) : Option (String × List Char) :=
  let isPart (character : Char) : Bool :=
    isAlphanumeric character || ['+', '-', '.'].contains character
  let scheme := characters.takeWhile isPart
  match scheme, characters.drop scheme.length with
  | first :: _, ':' :: later =>
      if isDigit first || !isAlphanumeric first then none
      else some (String.ofList (scheme.map lowerAsciiChar), later)
  | _, _ => none

/-- Whether a character ends the authority of a URL. -/
def endsAuthority (backslashes : Bool) (character : Char) : Bool :=
  ['/', '?', '#'].contains character || (backslashes && character = '\\')

/-- The user information of an authority, if it has any, and what follows. The last at sign ends
it. -/
def splitUser (authority : List Char) : Option (List Char) × List Char :=
  if authority.contains '@' then
    let host := (authority.reverse.takeWhile (· != '@')).reverse
    (some (authority.take (authority.length - host.length - 1)), host)
  else (none, authority)

/-- Whether user information names a user or a password. -/
def namesUser (user : List Char) : Bool :=
  !user.isEmpty && user != [':']

/-- The host of an authority and the characters after it: the host ends at the first colon outside
square brackets. -/
def splitHost (isInside : Bool) : List Char -> List Char × List Char
  | [] => ([], [])
  | character :: later =>
      if character = ':' && !isInside then ([], character :: later)
      else
        let (host, rest) := splitHost
          (if character = '[' then true else if character = ']' then false else isInside) later
        (character :: host, rest)

/-- The port after a host, and what follows. No digits and the default port count as no port. The
digits end at a slash of either kind. -/
def readPort (scheme : String) : List Char -> Except UrlFault (Option Nat × List Char)
  | ':' :: later =>
      let digits := later.takeWhile isDigit
      let rest := later.drop digits.length
      if rest.head?.any fun character => character != '/' && character != '\\' then
        .error .invalidPort
      else
        match decimalValue? digits with
        | none => .ok (none, rest)
        | some port =>
            if 65535 < port then .error .invalidPort
            else .ok (if defaultPort? scheme = some port then none else some port, rest)
  | rest => .ok (none, rest)

/-- The host and port of an authority, and what follows the port. The flag tells whether the
authority ends the URL. -/
def parseAuthority (scheme : String) (endsUrl : Bool) (authority : List Char) :
    Except UrlFault (String × Option Nat × List Char) := do
  let (user, hostAndPort) := splitUser authority
  let (host, afterHost) := splitHost false hostAndPort
  let needsHost := isHierarchical scheme || !afterHost.isEmpty || (user = some [] && !endsUrl)
  if host.isEmpty && needsHost then throw .emptyHost
  let name <- if isHierarchical scheme then Host.parse host else Host.parseOpaque host
  let (port, rest) <- readPort scheme afterHost
  if host.isEmpty && user.any namesUser then throw .emptyHost
  return (String.ofList name, port, rest)

/-- Whether a character of a path, query or fragment stays as it is: printable ASCII without the
given exceptions. -/
def keepsExcept (exceptions : String) (character : Char) : Bool :=
  0x20 < character.toNat && character.toNat < 0x7F && !exceptions.toList.contains character

/-- Whether a segment of a path is a single dot. -/
def isDot (segment : List Char) : Bool :=
  [".", "%2e"].contains (String.ofList (segment.map lowerAsciiChar))

/-- Whether a segment of a path is a pair of dots. -/
def isDots (segment : List Char) : Bool :=
  ["..", ".%2e", "%2e.", "%2e%2e"].contains (String.ofList (segment.map lowerAsciiChar))

/-- Whether the characters are those of a drive: a letter, and a colon or a bar. -/
def isDriveMark (letter mark : Char) : Bool :=
  isAlphanumeric letter && !isDigit letter && (mark = ':' || mark = '|')

/-- Whether a segment of a path is a drive. -/
def isDrive : List Char -> Bool
  | [letter, mark] => isDriveMark letter mark
  | _ => false

/-- Whether a segment stays when two dots follow it: a drive, whatever stands after a backslash
behind it. -/
def staysBeforeDots : List Char -> Bool
  | [letter, mark] => isDriveMark letter mark
  | letter :: mark :: '\\' :: _ => isDriveMark letter mark
  | _ => false

/-- The segments above others, latest first. -/
def goUp : List (List Char) -> List (List Char)
  | [] => []
  | last :: earlier => if staysBeforeDots last then last :: earlier else earlier

/-- Segments, latest first, with one more. The path of a file that starts with a drive has a colon
there. -/
def addSegment (isFile : Bool) (done : List (List Char)) (segment : List Char) :
    List (List Char) :=
  if isFile && done.isEmpty && isDrive segment then [segment.take 1 ++ [':']] else segment :: done

/-- The segments of a path with its dots resolved, where `done` are the segments so far, latest
first. Dots at the end leave an empty segment. -/
def resolveDots (isFile : Bool) (done : List (List Char)) :
    List (List Char) -> List (List Char)
  | [] => done.reverse
  | [last] =>
      if isDots last then ([] :: goUp done).reverse
      else if isDot last then ([] :: done).reverse
      else (addSegment isFile done last).reverse
  | segment :: later =>
      if isDots segment then resolveDots isFile (goUp done) later
      else if isDot segment then resolveDots isFile done later
      else resolveDots isFile (addSegment isFile done segment) later

/-- A path with slashes for its backslashes. -/
def withoutBackslashes (path : List Char) : List Char :=
  path.map fun character => if character = '\\' then '/' else character

/-- The resolved segments of a path, percent encoded as far as needed. -/
def segments (isFile : Bool) (relative : List Char) : List (List Char) :=
  resolveDots isFile []
    (splitAllChars '/' (percentEncode (keepsExcept "\"<>\x60#?\x7b\x7d") relative))

/-- The path of segments. -/
def pathText (segments : List (List Char)) : List Char :=
  '/' :: ['/'].intercalate segments

/-- The path after an authority. -/
def normalPath (isHierarchical : Bool) (path : List Char) : String :=
  match if isHierarchical then withoutBackslashes path else path with
  | [] => if isHierarchical then "/" else ""
  | '/' :: relative => String.ofList (pathText (segments false relative))
  | relative => String.ofList (pathText (segments false relative))

/-- The host and path of a file. An empty host and the name of the machine itself are no host, and
neither is one before a drive. Slashes at the start of the path count once. -/
def parseFile (characters : List Char) : Except UrlFault (String × String) := do
  let characters := withoutBackslashes characters
  let (host, relative) <- match characters with
    | '/' :: '/' :: later =>
        let host := later.takeWhile (· != '/')
        if isDrive host then pure ([], later)
        else do
          let name <- if host.isEmpty then pure [] else Host.parse host
          if name.isEmpty || name = "localhost".toList then pure ([], later.drop host.length)
          else pure (name, later.drop (host.length + 1))
    | '/' :: later => pure ([], later)
    | later => pure ([], later)
  let segments := segments true relative
  let path := '/' :: (pathText segments).dropWhile (· = '/')
  return (String.ofList (if segments.head?.any isDrive then [] else host), String.ofList path)

/-- The parts of a URL before its query: the path, the query and the fragment. -/
def splitTail (characters : List Char) : List Char × Option (List Char) × Option (List Char) :=
  let (beforeFragment, fragment) := splitOnceChars '#' characters
  let (path, query) := splitOnceChars '?' beforeFragment
  (path, query, fragment)

/-- A URL from its scheme and the characters after it. -/
def parseAfterScheme (scheme : String) (characters : List Char) : Except UrlFault Url := do
  let backslashes := takesBackslashes scheme
  let isSlash (character : Char) : Bool :=
    character = '/' || (backslashes && character = '\\')
  let (front, query, fragment) := splitTail characters
  let endsUrl := query.isNone && fragment.isNone
  let query := query.map fun query => String.ofList
    (percentEncode (keepsExcept (if backslashes then "\"#<>'" else "\"#<>")) query)
  let fragment := fragment.map fun fragment => String.ofList
    (percentEncode (keepsExcept "\"<>\x60") fragment)
  if scheme = "file" then
    let (host, path) <- parseFile front
    return ⟨scheme, some host, none, path, query, fragment⟩
  else if isHierarchical scheme || (front.take 2 = ['/', '/']) then
    let afterSlashes := if isHierarchical scheme then front.dropWhile isSlash else front.drop 2
    let authority := afterSlashes.takeWhile fun c => !endsAuthority backslashes c
    let path := afterSlashes.drop authority.length
    let (host, port, rest) <- parseAuthority scheme (endsUrl && path.isEmpty) authority
    return ⟨scheme, some host, port, normalPath backslashes (rest ++ path), query, fragment⟩
  else if front.head? = some '/' then
    return ⟨scheme, none, none, normalPath false front, query, fragment⟩
  else
    let path := percentEncode (fun c => 0x20 <= c.toNat && c.toNat < 0x7F) front
    return ⟨scheme, none, none, String.ofList path, query, fragment⟩

/-- The URL that a text denotes. -/
def parse (text : String) : Except UrlFault Url :=
  match scheme? (relevant text) with
  | none => .error .relativeWithoutBase
  | some (scheme, later) => parseAfterScheme scheme later

/-- What stands between the scheme and the path of a URL. Without an authority, a path that starts
with two slashes is kept from being taken for one. -/
def authorityText (url : Url) : String :=
  match url.host with
  | some host => "//" ++ host ++ (url.port.map fun port => ":" ++ toString port).getD ""
  | none => if url.path.toList.take 2 = ['/', '/'] then "/." else ""

/-- The text of a URL. -/
def render (url : Url) : String :=
  url.scheme ++ ":" ++ url.authorityText ++ url.path ++ (url.query.map ("?" ++ ·)).getD "" ++
    (url.fragment.map ("#" ++ ·)).getD ""

/-- The greatest length of a URL in a request, in bytes. -/
def lengthLimit : Nat := 65534

/-- Whether a request can be sent to a URL: its scheme is one of the web, no character of its host
would break the head of the request, and it is not too long. -/
def mayBeRequested (url : Url) : Bool :=
  (url.scheme = "http" || url.scheme = "https") &&
    !url.host.any (fun host => host.toList.any ['"', '\x60', '\x7b', '\x7d'].contains) &&
    url.render.utf8ByteSize <= lengthLimit

end Url

end ContractAtlas.Web
