import DocumentSearch.Command
import DocumentSearch.Dialogue
import DocumentSearch.Http
import DocumentSearch.Index.Remote
import DocumentSearch.Json.Reader
import DocumentSearch.Url.Endpoint

/-!
A backend reached over HTTP. A search posts its body to the index and asks for the path `_search`
below it; the configuration of an index is at the path of the index itself, where status 404 says
that there is no such index.
-/

namespace DocumentSearch

structure BackendConfiguration where
  url : String := "http://localhost:9200"
  timeoutSeconds : UInt64 := 30
deriving DecidableEq

namespace BackendConfiguration

def record : Record BackendConfiguration where
  name := "ElasticConfig"
  defaults := {}
  fields := [
    { name := "url"
      store := fun backend value => return { backend with url := ← value.asString } },
    { name := "timeout_secs"
      store := fun backend value =>
        return { backend with timeoutSeconds := ← value.asNatural } }]

def document (backend : BackendConfiguration) : Json :=
  .object [("url", .string backend.url), ("timeout_secs", .natural backend.timeoutSeconds)]

end BackendConfiguration

inductive BackendUrlError where
  | invalid (error : UrlError)
  | notABase (url : String)
deriving DecidableEq

namespace BackendUrlError

def message : BackendUrlError → String
  | .invalid error => "Invalid URL: " ++ error.message
  | .notABase url => "URL cannot be used as a base: " ++ url

/-- What lies behind the error, if it is not the error itself. -/
def cause : BackendUrlError → Option String
  | .invalid error => some error.message
  | .notABase _ => none

end BackendUrlError

/-- A backend by its base URL. -/
structure Backend where
  base : Url

namespace Backend

def ofConfiguration (configuration : BackendConfiguration) : Except BackendUrlError Backend :=
  match Url.read configuration.url with
  | .ok base => .ok ⟨base⟩
  | .error .notABase => .error (.notABase configuration.url)
  | .error error => .error (.invalid error)

abbrev Exchanging := Dialogue Http.Request Http.Reply

def searchUrl (backend : Backend) (index : String) : Url := backend.base.endpoint [index, "_search"]

def indexUrl (backend : Backend) (index : String) : Url := backend.base.endpoint [index]

/-- Whether a part of a URL stands for text. -/
def isReadable (part : String) : Bool := (Text.Utf8.decode (Url.Percent.decode part.toList)).isSome

/-- Whether a request names its user apart from its URL, which it does if the name is text and
there is a name or else a password that is text. -/
def namesUser (user : Url.UserInfo) : Bool :=
  isReadable user.username &&
    (!user.username.isEmpty || (!user.password.isEmpty && isReadable user.password))

/-- The URL that a request is sent to. -/
def requestUrl (url : Url) : Url :=
  if url.authority.any fun authority => namesUser authority.user then url.withoutUser else url

def failedSending (url : Url) : BackendError :=
  .transport ("error sending request for url (" ++ (requestUrl url).text ++ ")")

def failedBuilding (url : Url) : BackendError :=
  .transport ("builder error for url (" ++ (requestUrl url).text ++ ")")

/-- Hosts can have these characters, but requests cannot be sent to them. -/
def isUnsendable (c : Char) : Bool := ['"', '`', '\x7b', '\x7d'].contains c

def hasSendableHost (url : Url) : Bool :=
  match url.authority.bind (·.host) with
  | some host => !host.text.toList.any isUnsendable
  | none => false

/-- The length in bytes of the longest URL that a request can be sent to. -/
def longestUrl : Nat := 65534

/-- Requests can only be sent to hosts over HTTP. -/
def canRequest (url : Url) : Bool :=
  (url.scheme = "http" || url.scheme = "https") && hasSendableHost url &&
    (requestUrl url).text.utf8ByteSize ≤ longestUrl

/-- Sends one request, unless it cannot be sent at all. -/
def send (request : Http.Request) : Exchanging (Except BackendError Http.Response) :=
  if canRequest request.url then
    .ask request fun
      | some response => .done (.ok response)
      | none => .done (.error (failedSending request.url))
  else .done (.error (failedBuilding request.url))

/-- The document of a successful response; for any other the body gives the reason. -/
def documentOf (response : Http.Response) : Except BackendError Json :=
  if response.isSuccess then
    match (Text.Utf8.decode response.body).bind Json.read with
    | some document => .ok document
    | none => .error (.malformed "error decoding response body")
  else .error (.status response.status (Text.Utf8.decodeLossy response.body))

def configurationOf (name : String) (response : Http.Response) :
    Except BackendError (Option IndexConfiguration) :=
  if response.status = 404 then .ok none
  else do
    let document ← documentOf response
    return some (← IndexConfiguration.ofReport name document)

def search (backend : Backend) (request : SearchRequest) :
    Exchanging (Except BackendError Json) := do
  let reply ← send ⟨.post, backend.searchUrl request.index, some request.body⟩
  return reply.bind documentOf

def inspect (backend : Backend) (desired : IndexConfiguration) :
    Exchanging (Except BackendError (Option IndexConfiguration)) := do
  let reply ← send ⟨.get, backend.indexUrl desired.name, none⟩
  return reply.bind (configurationOf desired.name)

end Backend

end DocumentSearch
