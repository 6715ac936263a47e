import ContractAtlas.Graph.Builder
import ContractAtlas.Graph.Document
import ContractAtlas.Session.Writer
import ContractAtlas.Store.Directory
import ContractAtlas.Web.Target

/-!
# The read-only interface

Four routes show the sessions of a data directory and their graph. A route takes its parameters from
the query, ignores those that it does not know, and refuses one that is given twice. A session that
is absent is "not found"; any other failure of the store is a fault of the server.
-/

namespace ContractAtlas.Web

open Text

/-- The answer to a request: a status and, unless it is empty or plain text, a document. -/
structure Response where
  status : Nat
  document : Option Json

namespace Response

/-- A successful answer. -/
def ok (document : Json) : Response :=
  ⟨200, some document⟩

/-- An answer that says what is the matter. -/
def fault (status : Nat) (text : String) : Response :=
  ⟨status, some (.object [("status", .string text)])⟩

/-- An answer without a document. -/
def plain (status : Nat) : Response :=
  ⟨status, none⟩

end Response

namespace Api

/-- The version that the health route tells. -/
def version : String := "0.4.0"

/-- The value of a parameter of a query: `some none` when it is not given, and none when it is given
more than once. -/
def parameter? (query : List (String × String)) (name : String) : Option (Option String) :=
  match query.filter fun field => field.1 = name with
  | [] => some none
  | [field] => some (some field.2)
  | _ => none

/-- The truth value of a parameter, false when it is not given. -/
def flag? (query : List (String × String)) (name : String) : Option Bool :=
  match parameter? query name with
  | some none => some false
  | some (some "true") => some true
  | some (some "false") => some false
  | _ => none

/-- The answer of the health route. -/
def health : Response :=
  .ok (.object [("status", .string "OK"), ("version", .string version)])

/-- The answer of the route that lists the session directories. -/
def listSessions (store : DirectoryStore) : Response :=
  match store.directories with
  | .error fault => .fault 500 ("Failed to list sessions: " ++ fault.message)
  | .ok directories =>
      let paths := directories.map fun directory => (directory.1, Json.string directory.2.text)
      .ok (.object [("sessions", .object paths)])

/-- The answer for the session that a query names. -/
def sessionData (store : DirectoryStore) (query : String) : Response :=
  let query := trim query
  if query.isEmpty then .fault 400 "empty_path"
  else
    match SessionStore.find store query with
    | .ok (_, session) => .ok session.toJson
    | .error fault =>
        if fault.isAbsent then .fault 404 "Session data not found"
        else .fault 500 ("Failed to load session: " ++ fault.message)

/-- The answer with the graph of all sessions and its statistics. -/
def protocolView (store : DirectoryStore) (excludeZero : Bool) : Response :=
  match ContractGraph.ofStore store with
  | .error fault => .fault 500 ("Failed to build protocol graph: " ++ fault.message)
  | .ok graph =>
      let options : AnalysisOptions Float := { AnalysisOptions.standard with excludeZero }
      .ok (.object
        [("graph", graph.toJson),
         ("statistics", (graph.analyze options).toJson floatToJson)])

/-- The answer of a route to a query, none if there is no such route. -/
def route? (store : DirectoryStore) (path : String) (query : List (String × String)) :
    Option Response :=
  match path with
  | "/health" => some health
  | "/list_sessions" => some (listSessions store)
  | "/get_session_data" =>
      match parameter? query "path" with
      | none => some (.plain 400)
      | some value => some (sessionData store (value.getD ""))
  | "/protocol_view" =>
      match flag? query "exclude_zero" with
      | none => some (.plain 400)
      | some excludeZero => some (protocolView store excludeZero)
  | _ => none

/-- The answer to a request. Only reading is allowed, and a request for the head of an answer gets
no document. -/
def respond (store : DirectoryStore) (method target : String) : Response :=
  let target := Target.ofText target
  match route? store target.path target.query with
  | none => .plain 404
  | some response =>
      if method = "GET" then response
      else if method = "HEAD" then .plain response.status
      else .plain 405

end Api

end ContractAtlas.Web
