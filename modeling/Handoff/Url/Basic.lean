import Handoff.Url.Host

/-!
Addresses of resources: how they are read, extended by parameters and written. Reading brings them
into one form, in which schemes and hosts are small, dots in paths are resolved and the usual number
of a scheme is left out.
-/
namespace Handoff

/-- Where a resource is served. -/
structure Url.Authority where
  user : String
  password : String
  host : Option Url.Host
  portNumber : Option Nat
  deriving DecidableEq

/-- An absolute address. -/
structure Url where
  scheme : String
  authority : Option Url.Authority
  path : String
  query : Option String
  fragment : Option String
  deriving DecidableEq

namespace Url

/-- Schemes of known kinds of addresses, with the numbers that their hosts usually listen on. -/
def schemeNumbers : List (String × Nat) :=
  [("http", 80), ("https", 443), ("ws", 80), ("wss", 443), ("ftp", 21)]

/-- The kinds of schemes. -/
inductive Kind where
  | special
  | file
  | other
  deriving DecidableEq

def kindOf (scheme : String) : Kind :=
  if scheme = "file" then .file else if schemeNumbers.any (·.1 = scheme) then .special else .other

def Kind.isSlash (kind : Kind) (c : Char) : Bool := c == '/' || (c == '\\' && kind != .other)

/-! Reading -/

/-- The text of an address as it is read: without blanks and controls at its ends, and without tabs
and line breaks anywhere. -/
def significant (s : String) : List Char :=
  let isEnd (c : Char) : Bool := decide (c ≤ ' ')
  ((((s.toList.dropWhile isEnd).reverse.dropWhile isEnd).reverse).filter
    fun c => c != '\t' && c != '\n' && c != '\r')

/-- The scheme of an address, in small letters, and what follows its colon. -/
def readScheme? (chars : List Char) : Option (String × List Char) :=
  let isSchemeChar (c : Char) : Bool := c.isAlphanum || c == '+' || c == '-' || c == '.'
  match chars.takeWhile isSchemeChar, chars.dropWhile isSchemeChar with
  | first :: rest, ':' :: after =>
    if first.isAlpha then some (String.ofList ((first :: rest).map Char.toLower), after) else none
  | _, _ => none

/-- What stands before and after the first occurrence of a character. -/
def cutAt (mark : Char) (chars : List Char) : List Char × Option (List Char) :=
  match chars.dropWhile (· != mark) with
  | [] => (chars, none)
  | _ :: after => (chars.takeWhile (· != mark), some after)

/-- What stands before and after the last occurrence of a character. -/
def cutAtLast (mark : Char) (chars : List Char) : Option (List Char × List Char) :=
  match chars.reverse.dropWhile (· != mark) with
  | [] => none
  | _ :: before => some (before.reverse, (chars.reverse.takeWhile (· != mark)).reverse)

/-- A host and what follows it: a colon outside brackets ends the host. -/
def cutHost (inside : Bool) : List Char → List Char × List Char
  | [] => ([], [])
  | c :: rest =>
    if c = ':' ∧ inside = false then ([], c :: rest)
    else
      let inside := if c = '[' then true else if c = ']' then false else inside
      let (host, after) := cutHost inside rest
      (c :: host, after)

/-- The number after the colon of a host. No digits are no number, and neither is the usual number
of the scheme. -/
def readPortNumber (scheme : String) (digits : List Char) : Except Failure (Option Nat) :=
  if digits.all Char.isDigit then
    let number := digits.foldl (fun n c => n * 10 + (c.toNat - '0'.toNat)) 0
    if 65535 < number then .error .portNumber
    else if digits.isEmpty ∨ (scheme, number) ∈ schemeNumbers then .ok none
    else .ok (some number)
  else .error .portNumber

def readHost (kind : Kind) (chars : List Char) : Except Failure (Option Host) :=
  match kind with
  | .special => if chars.isEmpty then .error .emptyHost else some <$> specialHost chars
  | .file =>
    if chars.isEmpty then .ok none
    else do
      let host ← specialHost chars
      return if host = .name "localhost" then none else some host
  | .other => if chars.isEmpty then .ok none else some <$> otherHost chars

/-- The user and the password before an at sign. -/
def readUser (chars : List Char) : String × String :=
  let (user, password) := cutAt ':' chars
  let encoded (part : List Char) := String.ofList (percentEncode userReserved part)
  (encoded user, encoded (password.getD []))

/-- What stands between the slashes that start an address and its path, and what follows it. A
backslash ends a number also where it does not end a host. -/
def readAuthority (scheme : String) (kind : Kind) (chars : List Char) :
    Except Failure (Authority × List Char) := do
  let place := chars.takeWhile (!kind.isSlash ·)
  let rest := chars.dropWhile (!kind.isSlash ·)
  let (user, served) := match cutAtLast '@' place with
    | some (user, served) => (some user, served)
    | none => (none, place)
  if user = some [] ∧ served.isEmpty then throw .emptyHost
  let (user, password) := readUser (user.getD [])
  let (host, after) := cutHost false served
  let host ← readHost kind host
  if host.isNone ∧ (!after.isEmpty ∨ !user.isEmpty ∨ !password.isEmpty) then throw .emptyHost
  let digits := (after.drop 1).takeWhile (· != '\\')
  let number ← readPortNumber scheme digits
  return (⟨user, password, host, number⟩, (after.drop 1).dropWhile (· != '\\') ++ rest)

/-- Segments that stay where they are, with and without an encoded dot. -/
def isDot (segment : List Char) : Bool :=
  [".", "%2e"].contains (String.ofList (segment.map Char.toLower))

/-- Segments that go back. -/
def isDoubleDot (segment : List Char) : Bool :=
  ["..", ".%2e", "%2e.", "%2e%2e"].contains (String.ofList (segment.map Char.toLower))

/-- A segment that names a drive: a letter with a colon or a bar. -/
def isDrive : List Char → Bool
  | [letter, mark] => letter.isAlpha && (mark == ':' || mark == '|')
  | _ => false

/-- The segments before a segment that goes back, in reverse. It does not leave a drive, even if
more follows the drive after a backslash. -/
def goBack : List (List Char) → List (List Char)
  | [] => []
  | segment :: before =>
    if isDrive (segment.takeWhile (· != '\\')) then segment :: before else before

/-- A segment as it is written, given those before it. A drive that starts the path of a file has a
colon. -/
def segmentAfter (kind : Kind) (before : List (List Char)) (segment : List Char) : List Char :=
  let written := percentEncode pathReserved segment
  if kind = .file ∧ before.isEmpty ∧ isDrive written then written.take 1 ++ [':'] else written

/-- The segments of a path with its dots resolved, given those before, in reverse. -/
def resolveDots (kind : Kind) (before : List (List Char)) : List (List Char) → List (List Char)
  | [] => before.reverse
  | segment :: rest =>
    let closing : List (List Char) := if rest.isEmpty then [[]] else []
    if isDoubleDot segment then resolveDots kind (closing ++ goBack before) rest
    else if isDot segment then resolveDots kind (closing ++ before) rest
    else resolveDots kind (segmentAfter kind before segment :: before) rest

/-- The segments of a path whose first slash has been taken. -/
def readSegments (kind : Kind) (chars : List Char) : List (List Char) :=
  resolveDots kind [] (Text.split '/' (chars.map fun c => if kind.isSlash c then '/' else c))

def pathText (segments : List (List Char)) : String :=
  String.ofList ('/' :: Text.join '/' segments)

/-- A path that follows an authority. Addresses of known kinds always have one. -/
def readPathAfter (kind : Kind) (chars : List Char) : String :=
  match chars with
  | [] => if kind = .other then "" else "/"
  | c :: rest => pathText (readSegments kind (if kind.isSlash c then rest else c :: rest))

/-! Files -/

/-- The path of a file, which starts with one slash. -/
def filePath (segments : List (List Char)) : String :=
  String.ofList ('/' :: (Text.join '/' segments).dropWhile (· == '/'))

/-- Where a file is, as its address says after two slashes. A drive in the place of a host belongs
to the path, and a path that starts with a drive has no host. -/
def readServedFile (chars : List Char) : Except Failure (Option Host × String) := do
  let place := chars.takeWhile (!Kind.file.isSlash ·)
  let rest := chars.dropWhile (!Kind.file.isSlash ·)
  if isDrive place then return (none, filePath (readSegments .file chars))
  match ← readHost .file place with
  | none => return (none, filePath (readSegments .file rest))
  | some host =>
    let segments := readSegments .file (rest.drop 1)
    return (if (segments.take 1).any isDrive then none else some host, filePath segments)

def readFile (chars : List Char) : Except Failure (Option Host × String) :=
  match chars with
  | c :: rest =>
    if Kind.file.isSlash c then
      match rest with
      | d :: served =>
        if Kind.file.isSlash d then readServedFile served
        else .ok (none, filePath (readSegments .file rest))
      | [] => .ok (none, filePath (readSegments .file []))
    else .ok (none, filePath (readSegments .file chars))
  | [] => .ok (none, filePath (readSegments .file []))

def readPlace (scheme : String) (kind : Kind) (chars : List Char) :
    Except Failure (Option Authority × String) := do
  let afterSlashes (served : List Char) : Except Failure (Option Authority × String) := do
    let (authority, rest) ← readAuthority scheme kind served
    return (some authority, readPathAfter kind rest)
  match kind, chars with
  | .special, chars => afterSlashes (chars.dropWhile kind.isSlash)
  | .file, chars => do
    let (host, path) ← readFile chars
    return (some ⟨"", "", host, none⟩, path)
  | .other, '/' :: '/' :: served => afterSlashes served
  | .other, '/' :: path => return (none, pathText (readSegments kind path))
  | .other, path => return (none, String.ofList (percentEncode [] path))

def read (s : String) : Except Failure Url := do
  match readScheme? (significant s) with
  | none => throw .relative
  | some (scheme, chars) =>
    let kind := kindOf scheme
    let (chars, fragment) := cutAt '#' chars
    let (chars, query) := cutAt '?' chars
    let (authority, path) ← readPlace scheme kind chars
    let reserved := queryReserved ++ if kind = .other then [] else ['\'']
    return {
      scheme
      authority
      path
      query := query.map fun chars => String.ofList (percentEncode reserved chars)
      fragment := fragment.map fun chars => String.ofList (percentEncode fragmentReserved chars) }

/-! Parameters -/

/-- A parameter as it is written in a query. -/
def parameter (pair : String × String) : String := formEncode pair.1 ++ "=" ++ formEncode pair.2

/-- The address with parameters at the end of its query. -/
def withParameters (url : Url) (parameters : List (String × String)) : Url :=
  let before := match url.query with
    | some query => if query.isEmpty then [] else [query]
    | none => []
  { url with query := some (String.intercalate "&" (before ++ parameters.map parameter)) }

/-! Writing -/

def Authority.text (authority : Authority) : String :=
  let password := if authority.password.isEmpty then "" else ":" ++ authority.password
  let user := authority.user ++ password
  (if user.isEmpty then "" else user ++ "@")
    ++ (match authority.host with
      | some host => host.text
      | none => "")
    ++ (match authority.portNumber with
      | some number => ":" ++ toString number
      | none => "")

/-- What stands before a path. Two slashes would be read as the start of an authority. -/
def placeText (url : Url) : String :=
  match url.authority with
  | some authority => "//" ++ authority.text
  | none => if "//".toList.isPrefixOf url.path.toList then "/." else ""

def text (url : Url) : String :=
  url.scheme ++ ":" ++ url.placeText ++ url.path
    ++ (match url.query with
      | some query => "?" ++ query
      | none => "")
    ++ (match url.fragment with
      | some fragment => "#" ++ fragment
      | none => "")

end Url

end Handoff
