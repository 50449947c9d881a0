import DocumentSearch.Text.Blank
import DocumentSearch.Url.Domain
import DocumentSearch.Url.Path

/-!
Reading a URL. Controls and spaces at the ends, and tabs and line breaks anywhere, are dropped.
The scheme comes first; the fragment and the query are cut off the rest; then the authority is cut
off the path, whose dot segments are resolved. A URL whose path is a mere text is no base.
-/

namespace DocumentSearch

inductive UrlError where
  | relative
  | emptyHost
  | invalidPort
  | invalidIpv4
  | invalidIpv6
  | invalidDomain
  | forbiddenCharacter
  | notABase
deriving DecidableEq

def UrlError.message : UrlError → String
  | .relative => "relative URL without a base"
  | .emptyHost => "empty host"
  | .invalidPort => "invalid port number"
  | .invalidIpv4 => "invalid IPv4 address"
  | .invalidIpv6 => "invalid IPv6 address"
  | .invalidDomain => "invalid international domain name"
  | .forbiddenCharacter => "invalid domain character"
  | .notABase => "URL cannot be used as a base"

namespace Url

def trimmed (text : String) : List Char := Text.trimChars (· ≤ ' ') text.toList

def isDigit (c : Char) : Bool := '0' ≤ c && c ≤ '9'

def isSchemeChar (c : Char) : Bool := isLetter c || isDigit c || c = '+' || c = '-' || c = '.'

/-- The scheme in lower case and what follows its colon. -/
def readScheme (chars : List Char) : Option (String × List Char) :=
  match Text.splitOnceChars ':' chars with
  | none => none
  | some (before, after) =>
      let name := withoutLineControls before
      if name.head?.any isLetter && name.all isSchemeChar then
        some (String.ofList (name.map Char.toLower), after)
      else none

/-- What stands before the first `mark`, and after it if there is one. -/
def cut (mark : Char) (chars : List Char) : List Char × Option (List Char) :=
  match Text.splitOnceChars mark chars with
  | none => (chars, none)
  | some (before, after) => (before, some after)

def specialHost (chars : List Char) : Except UrlError Host :=
  match Domain.toAscii (Percent.decode chars) with
  | none => .error .invalidDomain
  | some name =>
      if name.isEmpty then .error .emptyHost
      else if endsInNumber name.toList then
        match ipv4 name.toList with
        | some address => .ok (.ipv4 address)
        | none => .error .invalidIpv4
      else .ok (.domain name)

def isForbiddenInHost (c : Char) : Bool :=
  c = '\x00' || [' ', '#', '/', ':', '<', '>', '?', '@', '[', '\\', ']', '^', '|'].contains c

def plainHost (chars : List Char) : Except UrlError Host :=
  if chars.any isForbiddenInHost then .error .forbiddenCharacter
  else .ok (.domain (String.ofList (Percent.encode Percent.controls chars)))

/-- Reads a host that is not empty. -/
def readHost (special : Bool) (chars : List Char) : Except UrlError Host :=
  match chars with
  | '[' :: rest =>
      if rest.getLast? = some ']' then
        match ipv6 rest.dropLast with
        | some pieces => .ok (.ipv6 pieces)
        | none => .error .invalidIpv6
      else .error .invalidIpv6
  | _ => if special then specialHost chars else plainHost chars

/-- The host ends at the first colon outside brackets. -/
def splitHost (inBrackets : Bool) : List Char → List Char × List Char
  | [] => ([], [])
  | c :: rest =>
      if c = ':' && !inBrackets then ([], c :: rest)
      else
        let (host, after) := splitHost (c = '[' || (inBrackets && c != ']')) rest
        (c :: host, after)

/-- The port behind a colon, and what follows its digits. No digits, or those of the scheme's own
port, stand for no port. -/
def readPort (scheme : String) : List Char → Except UrlError (Option Nat × List Char)
  | [] => .ok (none, [])
  | _ :: chars =>
      let digits := chars.takeWhile isDigit
      let rest := chars.dropWhile isDigit
      let port := digits.foldl (fun value c => 10 * value + (c.toNat - 48)) 0
      if 65535 < port then .error .invalidPort
      else if rest.isEmpty || rest.head? = some '\\' then
        .ok (if digits.isEmpty || defaultPort? scheme = some port then none else some port, rest)
      else .error .invalidPort

def readUserInfo (chars : List Char) : UserInfo :=
  let (username, password) := cut ':' chars
  ⟨String.ofList (Percent.encode Percent.userInfo username),
    String.ofList (Percent.encode Percent.userInfo (password.getD []))⟩

/-- The part before the last `@`, if there is one, and the part after it. -/
def splitUserInfo (chars : List Char) : Option (List Char) × List Char :=
  let after := (chars.reverse.takeWhile (· != '@')).reverse
  if after.length = chars.length then (none, chars)
  else (some (chars.take (chars.length - after.length - 1)), after)

/-- Reads an authority; `more` says whether anything follows it. -/
def readAuthority (scheme : String) (more : Bool) (chars : List Char) :
    Except UrlError (Authority × List Char) := do
  let special := isSpecial scheme
  let (userChars, hostAndPort) := splitUserInfo chars
  if userChars = some [] && hostAndPort.isEmpty && more then throw .emptyHost
  let user := readUserInfo (userChars.getD [])
  let (hostChars, portChars) := splitHost false hostAndPort
  if hostChars.isEmpty then
    if special || !portChars.isEmpty || !user.isEmpty then throw .emptyHost
    return (⟨user, none, none⟩, [])
  let host ← readHost special hostChars
  let (port, rest) ← readPort scheme portChars
  return (⟨user, some host, port⟩, rest)

/-- What follows the slash that a file's text begins with. -/
def afterSlash? (chars : List Char) : Option (List Char) :=
  match chars.dropWhile isLineControl with
  | [] => none
  | c :: rest => if isSlash true c then some rest else none

def noHost : Authority := ⟨⟨"", ""⟩, none, none⟩

/-- The authority and the path of a file behind two slashes. A drive letter in the place of the
host begins the path, and one that begins the path leaves the host out. The local host is left out
too, but then the path begins before the slash behind it, as it does if there is no host. -/
def readFileHost (chars : List Char) : Except UrlError (Authority × List String) := do
  let hostChars := withoutLineControls (chars.takeWhile (!isSlash true ·))
  let pathChars := chars.dropWhile (!isSlash true ·)
  if isDriveLetter hostChars then return (noHost, readFilePath chars)
  if hostChars.isEmpty then return (noHost, readFilePath pathChars)
  let host ← readHost true hostChars
  if host = .domain "localhost" then return (noHost, readFilePath pathChars)
  let pathChars := pathChars.drop 1
  let authority :=
    if placesDrive [] (splitPath true pathChars) then noHost else ⟨⟨"", ""⟩, some host, none⟩
  return (authority, readFilePath pathChars)

/-- The authority and the path of a file; there is a host only behind two slashes. -/
def readFile (chars : List Char) : Except UrlError (Authority × List String) :=
  match afterSlash? chars with
  | none => .ok (noHost, readFilePath chars)
  | some rest =>
      match afterSlash? rest with
      | none => .ok (noHost, readFilePath rest)
      | some rest => readFileHost rest

/-- Reads what follows the scheme, less the query and the fragment; `more` says whether there is
either. -/
def readHierarchy (scheme : String) (more : Bool) (chars : List Char) :
    Except UrlError (Option Authority × List String) := do
  let special := isSpecial scheme
  let withAuthority (chars : List Char) : Except UrlError (Option Authority × List String) := do
    let pathChars := chars.dropWhile (!isSlash special ·)
    let (authority, rest) ←
      readAuthority scheme (more || !pathChars.isEmpty) (chars.takeWhile (!isSlash special ·))
    return (some authority, readPath special (rest ++ pathChars))
  let cleaned := withoutLineControls chars
  if scheme = "file" then
    let (authority, path) ← readFile chars
    return (some authority, path)
  else if special then withAuthority (cleaned.dropWhile (isSlash true ·))
  else match cleaned with
    | '/' :: '/' :: rest => withAuthority rest
    | '/' :: _ => return (none, readPath false cleaned)
    | _ => throw .notABase

/-- Whether a path reads as an authority where there is none. -/
def readsAsAuthority : List String → Bool
  | "" :: _ :: _ => true
  | _ => false

def read (text : String) : Except UrlError Url :=
  match readScheme (trimmed text) with
  | none => .error .relative
  | some (scheme, rest) => do
      let (rest, fragment) := cut '#' rest
      let (rest, query) := cut '?' rest
      let querySet := if isSpecial scheme then Percent.specialQuery else Percent.query
      let (authority, path) ← readHierarchy scheme (query.isSome || fragment.isSome) rest
      return {
        scheme, authority, path
        isDotted := authority.isNone && readsAsAuthority path
        query := query.map (encodedText querySet)
        fragment := fragment.map (encodedText Percent.fragment) }

end Url

end DocumentSearch
