import ContractAtlas.Crawl.Ledger
import ContractAtlas.Crawl.RateLimiter
import ContractAtlas.Crawl.Scheduler
import ContractAtlas.Session.Reader
import ContractAtlas.Store.Directory
import ContractAtlas.Web.Exchange
import ContractAtlas.Web.Form
import ContractAtlas.Web.Status

/-!
# The analysis service

The service takes the payload of a request as a form on the full route and as a document on the
lightweight one. An answer with a success status counts as done, whether its body is a session or
not. Anything else is a failure, which is recorded in the ledger before it is returned.
-/

namespace ContractAtlas.Crawl

open Web

/-- The analysis service as a client sees it. -/
structure Service where
  baseUrl : String
  /-- How long to wait for an answer, in milliseconds. -/
  timeout : Nat
  ledger : Path

namespace Service

/-- The text of the address of a route: the base without slashes at its end, and the path. -/
def urlText (service : Service) (route : Route) : String :=
  let base := (service.baseUrl.toList.reverse.dropWhile (· = '/')).reverse
  String.ofList base ++ route.path

/-- The content type of a route's bodies. -/
def contentType : Route -> String
  | .full => "application/x-www-form-urlencoded"
  | .lightweight => "application/json"

/-- The body that carries a payload. -/
def body (payload : String) : Route -> String
  | .full => Form.encodeField "path" payload
  | .lightweight => (Json.object [("path", .string payload)]).toCompactText

/-- The address of a route, or the reason why it cannot be used. -/
def url (service : Service) (route : Route) : Except String Url :=
  match Url.parse (service.urlText route) with
  | .error _ => .error "builder error"
  | .ok url =>
      if url.mayBeRequested then .ok url
      else .error ("builder error for url (" ++ url.render ++ ")")

/-- The body of a reply, or the reason of a failure. -/
def outcome : Reply -> Except String String
  | .answered status body =>
      if Status.isSuccess status then .ok (Text.textOfBytes body)
      else .error ("HTTP " ++ Status.display status ++ ": " ++ Text.textOfBytes body)
  | .unanswered reason => .error reason
  | .brokenOff _ reason => .error reason
  | .timedOut reason => .error reason

variable {m : Type -> Type} [Monad m]

/-- Sends a request. Gives the body of the answer or the reason of the failure. -/
def send (transport : Transport m) (service : Service) (request : Request) :
    m (Except String String) :=
  match service.url request.route with
  | .error reason => return .error reason
  | .ok url => do
      let reply <- transport
        { url, contentType := contentType request.route
          body := body request.payload request.route, timeout := service.timeout }
      return outcome reply

/-- The files with a failure recorded, or as they were if the ledger cannot be written. -/
def recordFailure (service : Service) (request : Request) (reason : String) (now : Timestamp)
    (files : FileTree) : FileTree :=
  match Ledger.append files service.ledger ⟨now, request.route, request.payload, reason⟩ with
  | .ok files => files
  | .error _ => files

/-- The store after the service has answered a request, with the answer or the recorded failure. -/
def settle (service : Service) (request : Request) (now : Timestamp) (store : DirectoryStore) :
    Except String String -> Except AtlasError (Option Session) × DirectoryStore
  | .ok body => (.ok (Session.read? body), store)
  | .error reason =>
      (.error (.dispatch request.payload reason),
       { store with files := service.recordFailure request reason now store.files })

/-- The dispatcher that asks the service, over a store in a data directory. The service may write
to that directory while it works, so the files are refreshed after every request. -/
def dispatcher (transport : Transport m) (now : m Timestamp) (refresh : FileTree -> m FileTree)
    (service : Service) : Dispatcher m DirectoryStore :=
  fun request store => do
    let answer <- service.send transport request
    let files <- refresh store.files
    return service.settle request (<- now) { store with files } answer

end Service

/-- A dispatcher that waits for a limiter before every request. -/
def Dispatcher.limited {m : Type -> Type} [Monad m] {σ : Type} (clock : Clock m)
    (dispatch : Dispatcher m σ) : Dispatcher (StateT RateLimiter m) σ :=
  fun request store limiter => do
    let (_, limiter) <- limiter.acquire clock
    return (<- dispatch request store, limiter)

end ContractAtlas.Crawl
