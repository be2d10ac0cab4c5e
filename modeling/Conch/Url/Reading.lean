import Conch.Url.Host

/-!
# Addresses

An address is read without a base: it starts with a scheme.  An address with the scheme
`http` or `https` is read in full and brought into its normal form; of any other only the
form is checked.  Reading is lenient: what surrounds the address is trimmed, tabs and line
ends are dropped, and in schemes with hosts a backslash is a slash.
-/

namespace Conch

/-- An address with the scheme `http` or `https`.  Its parts are in their normal form. -/
structure Url where
  scheme : String
  username : List Char
  password : List Char
  host : Url.Host
  /-- The port, unless it is the one that the scheme implies. -/
  port : Option Nat
  path : List Char
  query : Option (List Char)
  fragment : Option (List Char)
  deriving DecidableEq, Repr, Inhabited

namespace Url

/-- How addresses with a scheme are written. -/
inductive Kind where
  /-- With a host after any number of slashes. -/
  | hosted
  /-- The scheme `file`. -/
  | file
  /-- With a host if two slashes say so. -/
  | other
  deriving DecidableEq, Repr

/-- The kind of a scheme. -/
def Kind.ofScheme (scheme : List Char) : Kind :=
  if ["http", "https", "ws", "wss", "ftp"].contains (String.ofList scheme) then .hosted
  else if scheme = "file".toList then .file
  else .other

/-- The port that a scheme implies. -/
def impliedPort? (scheme : List Char) : Option Nat :=
  match String.ofList scheme with
  | "http" | "ws" => some 80
  | "https" | "wss" => some 443
  | "ftp" => some 21
  | _ => none

/-- The text of an address without what is ignored in it. -/
def essential (raw : List Char) : List Char :=
  let isEdge (c : Char) : Bool := c.toNat ≤ 0x20
  let inner := ((raw.dropWhile isEdge).reverse.dropWhile isEdge).reverse
  inner.filter fun c => !(c = '\t' || c = '\n' || c = '\r')

/-- The scheme of an address in lower case, and the text after its colon. -/
def splitScheme? (text : List Char) : Option (List Char × List Char) :=
  let isSchemeChar (c : Char) : Bool := Text.isLetterOrDigit c || "+-.".toList.contains c
  match text.dropWhile isSchemeChar with
  | ':' :: rest =>
      if text.head?.any Text.isLetter then
        some ((text.takeWhile isSchemeChar).map Text.asciiLowerChar, rest)
      else none
  | _ => none

/-- Whether a character ends the part of an address in which users and hosts stand. -/
def endsAuthority (kind : Kind) (c : Char) : Bool :=
  c = '/' || c = '?' || c = '#' || (c = '\\' && kind ≠ .other)

/-- The text before the last `@`, if there is one, and the text after it. -/
def splitUser (authority : List Char) : Option (List Char) × List Char :=
  let host := (authority.reverse.takeWhile (· ≠ '@')).reverse
  if host.length = authority.length then (none, authority)
  else (some (authority.take (authority.length - host.length - 1)), host)

/-- A host and what follows the colon after it.  Within brackets a colon belongs to the
host. -/
def splitPort : Bool → List Char → List Char × Option (List Char)
  | _, [] => ([], none)
  | inBrackets, c :: rest =>
      if c = ':' && !inBrackets then ([], some rest)
      else
        let stillInBrackets := c = '[' || (inBrackets && c ≠ ']')
        let (host, port) := splitPort stillInBrackets rest
        (c :: host, port)

/-- The number that the text of a port writes, which a backslash ends; `some none` for the
empty text. -/
def portOf? (text : List Char) : Option (Option Nat) :=
  let text := text.takeWhile (· ≠ '\\')
  if text.isEmpty then some none
  else
    match Text.digitsValue? text with
    | some n => if n ≤ 65535 then some (some n) else none
    | none => none

/-- What stands between the slashes after a scheme and the path. -/
structure Authority where
  /-- The text before the `@`, if there is an `@`. -/
  user : Option (List Char)
  host : List Char
  /-- The text after the colon, if there is a colon. -/
  port : Option (List Char)

/-- Takes an authority apart. -/
def Authority.ofText (text : List Char) : Authority :=
  let (user, rest) := splitUser text
  let (host, port) := splitPort false rest
  ⟨user, host, port⟩

/-- Whether an authority without a host may stand in an address of the kind `other`. -/
def Authority.mayLackHost (authority : Authority) (more : Bool) : Bool :=
  authority.port.isNone &&
    match authority.user with
    | none => true
    | some user => (user.isEmpty && !more) || user = [':']

/-- Whether a text is well formed after the scheme of the kind `other`. -/
def isOtherForm (rest : List Char) : Bool :=
  match rest with
  | '/' :: '/' :: rest =>
      let authority := Authority.ofText (rest.takeWhile fun c => !endsAuthority .other c)
      let more := !(rest.dropWhile fun c => !endsAuthority .other c).isEmpty
      if authority.host.isEmpty then authority.mayLackHost more
      else isOpaqueHost authority.host && ((authority.port.map portOf?).getD (some none)).isSome
  | _ => true

/-- Whether a character is a slash where backslashes count as slashes. -/
def isSlash (c : Char) : Bool :=
  c = '/' || c = '\\'

/-- Whether a text is a letter with a colon or a bar, which a `file` address may have in
place of a host. -/
def isDrive (text : List Char) : Bool :=
  match text with
  | [letter, mark] => Text.isLetter letter && (mark = ':' || mark = '|')
  | _ => false

/-- Whether a text is well formed after the scheme `file`. -/
def isFileForm (rest : List Char) : Bool :=
  match rest with
  | a :: b :: rest =>
      if isSlash a && isSlash b then
        let host := rest.takeWhile fun c => !endsAuthority .file c
        host.isEmpty || isDrive host || (Host.read? host).isSome
      else true
  | _ => true

/-- The ways of writing the segment `.`. -/
def isHere (segment : List Char) : Bool :=
  [".", "%2e"].contains (Text.asciiLower (String.ofList segment))

/-- The ways of writing the segment `..`. -/
def isUp (segment : List Char) : Bool :=
  ["..", ".%2e", "%2e.", "%2e%2e"].contains (Text.asciiLower (String.ofList segment))

/-- Segments, held last first, without the last one.  A drive letter stays. -/
def dropSegment : List (List Char) → List (List Char)
  | [] => []
  | last :: before => if isDrive last then last :: before else before

/-- The segments of a path with `.` and `..` carried out, given those before, last first.
Where the last segment, which no slash follows, is carried out, an empty one stays. -/
def foldSegments (before : List (List Char)) : List (List Char) → List (List Char)
  | [] => before.reverse
  | [last] =>
      let folded :=
        if isUp last then [] :: dropSegment before
        else if isHere last then [] :: before
        else last :: before
      folded.reverse
  | segment :: rest =>
      if isUp segment then foldSegments (dropSegment before) rest
      else if isHere segment then foldSegments before rest
      else foldSegments (segment :: before) rest

/-- The normal form of a path: it starts with a slash, and `.` and `..` are carried
out. -/
def normalPath (path : List Char) : List Char :=
  let path := match path with
    | [] => []
    | c :: rest => if isSlash c then rest else c :: rest
  let segments := (Text.splitBy isSlash path).map (percentEncode encodedInPath)
  '/' :: Text.joinWith ['/'] (foldSegments [] segments)

/-- The text before the first character that `stop` selects, and the text after it if
there is one. -/
def splitAtFirst (stop : Char → Bool) (text : List Char) : List Char × Option (List Char) :=
  match text.dropWhile fun c => !stop c with
  | [] => (text, none)
  | _ :: rest => (text.takeWhile fun c => !stop c, some rest)

/-- The user name and the password before an `@`. -/
def splitCredentials (user : List Char) : List Char × List Char :=
  let (name, password) := splitAtFirst (· = ':') user
  (percentEncode encodedInUser name, percentEncode encodedInUser (password.getD []))

/-- Reads an address of the kind `hosted` after its scheme. -/
def readHosted? (scheme rest : List Char) : Option Url :=
  let rest := rest.dropWhile isSlash
  let authority := Authority.ofText (rest.takeWhile fun c => !endsAuthority .hosted c)
  let rest := rest.dropWhile fun c => !endsAuthority .hosted c
  match Host.read? authority.host, (authority.port.map portOf?).getD (some none) with
  | some host, some port =>
      let (username, password) := splitCredentials (authority.user.getD [])
      let (rest, fragment) := splitAtFirst (· = '#') rest
      let (path, query) := splitAtFirst (· = '?') rest
      some
        { scheme := String.ofList scheme
          username
          password
          host
          port := if port = impliedPort? scheme then none else port
          path := normalPath path
          query := query.map (percentEncode encodedInQuery)
          fragment := fragment.map (percentEncode encodedInFragment) }
  | _, _ => none

/-- What a text is, taken as an address. -/
inductive Reading where
  /-- An address that can be fetched. -/
  | web (url : Url)
  /-- An address with a scheme that is not fetched. -/
  | foreign (scheme : String)
  /-- No address. -/
  | malformed
  deriving DecidableEq, Repr, Inhabited

/-- Reads a text as an address. -/
def read (raw : String) : Reading :=
  match splitScheme? (essential raw.toList) with
  | none => .malformed
  | some (scheme, rest) =>
      let name := String.ofList scheme
      match Kind.ofScheme scheme with
      | .hosted =>
          match readHosted? scheme rest with
          | none => .malformed
          | some url => if name = "http" || name = "https" then .web url else .foreign name
      | .file => if isFileForm rest then .foreign name else .malformed
      | .other => if isOtherForm rest then .foreign name else .malformed

/-- The user name and the password of an address, as they stand before its host. -/
def credentials (url : Url) : List Char :=
  if url.username.isEmpty && url.password.isEmpty then []
  else
    url.username ++ (if url.password.isEmpty then [] else ':' :: url.password) ++ ['@']

/-- An address without user name and password. -/
def withoutCredentials (url : Url) : Url :=
  { url with username := [], password := [] }

/-- The text of an address. -/
def text (url : Url) : String :=
  let port :=
    match url.port with
    | some port => ':' :: Nat.toDigits 10 port
    | none => []
  let part (mark : Char) : Option (List Char) → List Char
    | some text => mark :: text
    | none => []
  url.scheme ++ "://" ++
    String.ofList (url.credentials ++ url.host.text ++ port ++ url.path ++ part '?' url.query ++
      part '#' url.fragment)

end Url
end Conch
