import DocumentSearch.Url.Address

/-!
URLs that can be the base of others: a scheme, an authority if there is one, the segments of the
path, and the query and the fragment as they are written.
-/

namespace DocumentSearch

namespace Url

inductive Host where
  | domain (name : String)
  | ipv4 (address : Nat)
  | ipv6 (pieces : List Nat)
deriving DecidableEq

def Host.text : Host → String
  | .domain name => name
  | .ipv4 address => ipv4Text address
  | .ipv6 pieces => "[" ++ ipv6Text pieces ++ "]"

structure UserInfo where
  username : String
  password : String
deriving DecidableEq

def UserInfo.isEmpty (user : UserInfo) : Bool := user.username.isEmpty && user.password.isEmpty

def UserInfo.text (user : UserInfo) : String :=
  if user.isEmpty then ""
  else user.username ++ (if user.password.isEmpty then "" else ":" ++ user.password) ++ "@"

/-- Without a host, an authority is empty. -/
structure Authority where
  user : UserInfo
  host : Option Host
  port : Option Nat
deriving DecidableEq

def Authority.text (authority : Authority) : String :=
  authority.user.text ++ ((authority.host.map Host.text).getD "") ++
    ((authority.port.map fun port => ":" ++ toString port).getD "")

def defaultPort? (scheme : String) : Option Nat :=
  match scheme with
  | "http" | "ws" => some 80
  | "https" | "wss" => some 443
  | "ftp" => some 21
  | _ => none

/-- The schemes whose URLs always have a path and take a backslash for a slash. -/
def isSpecial (scheme : String) : Bool := (defaultPort? scheme).isSome || scheme = "file"

def pathText (path : List String) : String := String.join (path.map ("/" ++ ·))

end Url

/-- Without an authority, a path that begins with an empty segment would read as one, and then
`isDotted` says that a dot stands before it. -/
structure Url where
  scheme : String
  authority : Option Url.Authority
  isDotted : Bool
  path : List String
  query : Option String
  fragment : Option String
deriving DecidableEq

namespace Url

def leadText (url : Url) : String :=
  match url.authority with
  | some authority => "//" ++ authority.text
  | none => if url.isDotted then "/." else ""

def queryText (url : Url) : String := (url.query.map ("?" ++ ·)).getD ""

def fragmentText (url : Url) : String := (url.fragment.map ("#" ++ ·)).getD ""

def text (url : Url) : String :=
  url.scheme ++ ":" ++ url.leadText ++ pathText url.path ++ url.queryText ++ url.fragmentText

/-- What a request for the URL asks its host for. -/
def target (url : Url) : String := pathText url.path ++ url.queryText

def withoutUser (url : Url) : Url :=
  { url with authority := url.authority.map ({ · with user := ⟨"", ""⟩ }) }

end Url

end DocumentSearch
