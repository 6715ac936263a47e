import ContractAtlas.Crawl.Level
import ContractAtlas.Json.Value

/-!
# Crawl reports

A request asks the analysis service for one contract: the target of the crawl, or a contract that a
variable of some session refers to. The report of a crawl lists what became of every reference, in
the order in which they were found, and every request that was sent.
-/

namespace ContractAtlas.Crawl

/-- The variable of a session that refers to a contract. -/
structure Reference where
  /-- The key of the session, displayed. -/
  source : String
  variableName : String
deriving DecidableEq, Repr

/-- A request for the analysis of one contract. -/
structure Request where
  key : SessionKey
  route : Route
  /-- What refers to the contract, nothing for the target of the crawl. -/
  reference : Option Reference
deriving DecidableEq

namespace Request

/-- The request for the target of a crawl. -/
def forTarget (key : SessionKey) : Request :=
  ⟨key, .full, none⟩

/-- The text that is sent to the service. -/
def payload (request : Request) : String :=
  request.key.display

end Request

/-- Why a reference is not followed. -/
inductive SkipReason where
  | zeroAddress
  | depthExhausted
  | invalidAddress
deriving DecidableEq, Repr

/-- The name of a reason in documents. -/
def SkipReason.name : SkipReason -> String
  | .zeroAddress => "zero_address"
  | .depthExhausted => "depth_exhausted"
  | .invalidAddress => "invalid_address"

/-- What has become of a reference. -/
inductive EntryState where
  /-- It has not been classified yet. -/
  | pending
  /-- A request for its contract waits or has been sent. -/
  | queued
  /-- The contract has a session, or was handed out before in this crawl. -/
  | analyzed
  | skipped (reason : SkipReason)
deriving DecidableEq, Repr

/-- The document of a state. -/
def EntryState.toJson : EntryState -> Json
  | .pending => .object [("state", .string "pending")]
  | .queued => .object [("state", .string "queued")]
  | .analyzed => .object [("state", .string "analyzed")]
  | .skipped reason => .object [("state", .string "skipped"), ("reason", .string reason.name)]

/-- A reference, the address that it gives, and what has become of it. -/
structure Entry where
  reference : Reference
  address : String
  state : EntryState
deriving DecidableEq, Repr

/-- The document of an entry. -/
def Entry.toJson (entry : Entry) : Json :=
  .object
    [("source", .string entry.reference.source),
     ("variable_name", .string entry.reference.variableName),
     ("address", .string entry.address),
     ("state", entry.state.toJson)]

/-- A request that failed. -/
structure Failure where
  target : String
  route : Route
  error : String
deriving DecidableEq, Repr

/-- The document of a failure. -/
def Failure.toJson (failure : Failure) : Json :=
  .object
    [("target", .string failure.target), ("route", .string failure.route.name),
     ("error", .string failure.error)]

/-- What a crawl did. -/
structure Report where
  level : Level
  passes : Nat := 0
  /-- The references with their latest states, in the order in which they were found. -/
  entries : List Entry := []
  /-- The payloads of the requests that were sent, in order. -/
  dispatched : List String := []
  failures : List Failure := []
deriving DecidableEq, Repr

namespace Report

/-- The number of references in a state. -/
def count (report : Report) (state : EntryState) : Nat :=
  (report.entries.filter fun entry => entry.state = state).length

/-- Whether a state says that a reference was not followed. -/
def isSkipped : EntryState -> Bool
  | .skipped _ => true
  | _ => false

/-- The number of references that were not followed. -/
def skipped (report : Report) : Nat :=
  (report.entries.filter fun entry => isSkipped entry.state).length

/-- The document of a report. -/
def toJson (report : Report) : Json :=
  .object
    [("level", .string report.level.name),
     ("passes", .nat report.passes),
     ("entries", .array (report.entries.map Entry.toJson)),
     ("dispatched", Json.strings report.dispatched),
     ("failures", .array (report.failures.map Failure.toJson))]

end Report

/-- The entries with a classified reference: in place of the entry that it has, or else at the
end. -/
def record (reference : Reference) (address : String) (state : EntryState) :
    List Entry -> List Entry
  | [] => [⟨reference, address, state⟩]
  | entry :: later =>
      if entry.reference = reference then ⟨reference, address, state⟩ :: later
      else entry :: record reference address state later

/-- The entries with the state of one reference changed, if it has an entry. -/
def settle (reference : Reference) (state : EntryState) : List Entry -> List Entry
  | [] => []
  | entry :: later =>
      if entry.reference = reference then { entry with state } :: later
      else entry :: settle reference state later

end ContractAtlas.Crawl
