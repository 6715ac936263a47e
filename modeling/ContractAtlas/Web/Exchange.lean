import ContractAtlas.Web.Url

/-!
# Exchanges

A request to a server and what comes of it. What carries requests is a parameter in any monad, so
the same definitions serve a real network, a script of replies, and no network at all.
-/

namespace ContractAtlas.Web

/-- A request to a server. -/
structure ServerRequest where
  url : Url
  contentType : String
  body : String
  /-- How long to wait for the reply, in milliseconds. -/
  timeout : Nat
deriving DecidableEq, Repr

/-- What comes of a request. Where there is no answer, the reason is a text that whatever carries
the request gives. -/
inductive Reply where
  | answered (status : Nat) (body : List UInt8)
  /-- The server cannot be reached, or breaks off before the body of an answer. -/
  | unanswered (reason : String)
  /-- An answer has come, but its body cannot be read to the end. -/
  | brokenOff (status : Nat) (reason : String)
  | timedOut (reason : String)
deriving DecidableEq, Repr

/-- The reason of a request to which no answer has come. -/
def unsentReason (url : Url) : String :=
  "error sending request for url (" ++ url.render ++ ")"

/-- The reason of an answer whose body cannot be read. -/
def unreadReason : String := "error decoding response body"

/-- What carries requests to servers. -/
abbrev Transport (m : Type -> Type) :=
  ServerRequest -> m Reply

/-- The transport of a machine without a network. -/
def unreachable {m : Type -> Type} [Monad m] : Transport m :=
  fun request => return .unanswered (unsentReason request.url)

end ContractAtlas.Web
