import ContractAtlas.Crawl.Report
import ContractAtlas.Store.Basic

/-!
# The crawl

A crawl sends the target first, unless the store has it, and then works in passes. A pass classifies
every reference of every known session and then sends the requests that came out of it one by one.
An unbounded crawl ends with a pass that finds nothing to send, any other after its first pass. The
store is the record of what has been analyzed; within a crawl the keys that were handed out count as
analyzed too, so no key is sent twice.

The service is a parameter: a dispatcher takes a request and the store and gives the answer and the
store afterwards, in any monad. The store changes nowhere else.
-/

namespace ContractAtlas.Crawl

/-- What answers requests: a session, or no session, or an error, with the store afterwards. -/
abbrev Dispatcher (m : Type -> Type) (σ : Type) :=
  Request -> σ -> m (Except AtlasError (Option Session) × σ)

/-- The state of a crawl. -/
structure Run where
  report : Report
  /-- The keys that were handed out. -/
  inFlight : List SessionKey := []
  /-- The sessions that the service returned, in order. -/
  returned : List Session := []

/-- How a crawl ends. -/
inductive Ending where
  | finished (report : Report)
  | failed (fault : AtlasError)
  | passLimitReached

namespace Run

/-- The run after a request has been answered. -/
def afterAnswer (run : Run) (request : Request) (answer : Except AtlasError (Option Session)) :
    Run :=
  let dispatched := run.report.dispatched ++ [request.payload]
  match answer with
  | .ok (some session) =>
      { run with report := { run.report with dispatched }, returned := run.returned ++ [session] }
  | .ok none => { run with report := { run.report with dispatched } }
  | .error fault =>
      let failure := Failure.mk request.payload request.route fault.message
      { run with report := { run.report with
          dispatched, failures := run.report.failures ++ [failure] } }

/-- The run after a request turned out to be answered by the store already. -/
def afterAppeared (run : Run) (request : Request) : Run :=
  match request.reference with
  | some reference =>
      { run with report := { run.report with
          entries := settle reference .analyzed run.report.entries } }
  | none => run

end Run

section

variable {σ : Type} [SessionStore σ]

/-- Whether the store has a session that an address names. -/
def isStored (store : σ) (address : String) : Bool :=
  (SessionStore.lookup? store address).isSome

/-- What becomes of a reference from a session with key `source` to an address, and the request that
it leads to, if any, where the keys `inFlight` were handed out before. -/
def classify (store : σ) (level : Level) (inFlight : List SessionKey) (source : SessionKey)
    (name address : String) : EntryState × Option Request :=
  match Address.parse? address with
  | none => (.skipped .invalidAddress, none)
  | some parsed =>
      let key := SessionKey.mk source.network parsed
      if isStored store key.checksummedAddress || inFlight.contains key then (.analyzed, none)
      else if Text.lowerAscii address = Address.zero.lowerText then (.skipped .zeroAddress, none)
      else
        match level.frontierRoute? with
        | none => (.skipped .depthExhausted, none)
        | some route => (.queued, some ⟨key, route, some ⟨source.display, name⟩⟩)

/-- A classification in progress: the entries, the keys handed out, and the requests to send. -/
structure Frontier where
  entries : List Entry
  inFlight : List SessionKey
  queue : List Request := []

namespace Frontier

/-- The frontier after one reference of the session with key `source`. -/
def visit (store : σ) (level : Level) (source : SessionKey) (frontier : Frontier)
    (dependency : String × String) : Frontier :=
  let (state, request) :=
    classify store level frontier.inFlight source dependency.1 dependency.2
  { entries := record ⟨source.display, dependency.1⟩ dependency.2 state frontier.entries
    inFlight := frontier.inFlight ++ (request.map Request.key).toList
    queue := frontier.queue ++ request.toList }

/-- The frontier after all references of a session, which are passed over if it has no key. -/
def visitSession (store : σ) (level : Level) (frontier : Frontier) (session : Session) :
    Frontier :=
  match session.key with
  | .error _ => frontier
  | .ok source => session.externalAddresses.foldl (visit store level source) frontier

end Frontier

/-- The sessions whose references a pass classifies: those of the store, and those that the service
returned and the store does not show. -/
def knownSessions (store : σ) (returned : List Session) : Except StoreError (List Session) := do
  let stored <- SessionStore.sessions store
  return stored.map Prod.snd ++
    returned.filter fun session => !isStored store session.contractAddress

/-- The run after the classification of a pass, with the requests to send. -/
def Run.classifyPass (run : Run) (store : σ) : Except StoreError (Run × List Request) := do
  let sessions <- knownSessions store run.returned
  let frontier := sessions.foldl (Frontier.visitSession store run.report.level)
    ⟨run.report.entries, run.inFlight, []⟩
  return ({ run with
      report := { run.report with passes := run.report.passes + 1, entries := frontier.entries }
      inFlight := frontier.inFlight },
    frontier.queue)

variable {m : Type -> Type} [Monad m]

/-- Sends a request, unless the store has its contract by now. -/
def handOver (dispatch : Dispatcher m σ) (request : Request) (run : Run) (store : σ) :
    m (Run × σ) :=
  if isStored store request.key.checksummedAddress then return (run.afterAppeared request, store)
  else do
    let (answer, store) <- dispatch request store
    return (run.afterAnswer request answer, store)

/-- Sends the requests of a queue one by one. -/
def drain (dispatch : Dispatcher m σ) : List Request -> Run -> σ -> m (Run × σ)
  | [], run, store => return (run, store)
  | request :: later, run, store => do
      let (run, store) <- handOver dispatch request run store
      drain dispatch later run store

/-- Works in passes, at most as many as the limit says. -/
def runPasses (dispatch : Dispatcher m σ) : Nat -> Run -> σ -> m (Ending × σ)
  | 0, _, store => return (.passLimitReached, store)
  | limit + 1, run, store =>
      match run.classifyPass store with
      | .error fault => return (.failed (.store fault), store)
      | .ok (run, []) => return (.finished run.report, store)
      | .ok (run, queue) => do
          let (run, store) <- drain dispatch queue run store
          if run.report.level = .unbounded then runPasses dispatch limit run store
          else return (.finished run.report, store)

/-- Sends the target of a crawl, unless the store has it. -/
def sendTarget (dispatch : Dispatcher m σ) (key : SessionKey) (run : Run) (store : σ) :
    m (Run × σ) :=
  if isStored store key.checksummedAddress then return (run, store)
  else drain dispatch [.forTarget key] { run with inFlight := [key] } store

/-- A crawl of a level, with or without a target, of at most as many passes as the limit says. -/
def crawl (dispatch : Dispatcher m σ) (passLimit : Nat) (level : Level) (target : Option String)
    (store : σ) : m (Ending × σ) :=
  let start : Run := { report := { level } }
  match target with
  | none => runPasses dispatch passLimit start store
  | some target =>
      match SessionKey.parse target with
      | .error invalid => return (.failed (.store (.invalidTarget invalid)), store)
      | .ok key => do
          let (run, store) <- sendTarget dispatch key start store
          runPasses dispatch passLimit run store

end

end ContractAtlas.Crawl
