import ContractAtlas.Calls
import ContractAtlas.Error
import ContractAtlas.Session.Writer
import ContractAtlas.Store.Basic

/-!
# Enrichment

Enriching a session resolves the addresses of its variables and filters its external calls, and
writes both back: the addresses by name and on the variables, and the calls that are dependencies.
Every other part of the session stays. Mapping a target finds its session, enriches it and saves it.
-/

namespace ContractAtlas

open Json

/-- What an enrichment found. -/
structure EnrichmentSummary where
  /-- The resolved address of every variable, in the order of the names. -/
  externalAddresses : List (String × String)
  externalCalls : List String
  externalInterfaces : List String
  /-- The names of the getters that gave no address, in the order of the calls. -/
  unresolved : List String
deriving DecidableEq, Repr

/-- The document of what an enrichment found. -/
def EnrichmentSummary.toJson (summary : EnrichmentSummary) : Json :=
  .object
    [("external_addresses", textFieldsToJson summary.externalAddresses),
     ("external_calls", Json.strings summary.externalCalls),
     ("external_interfaces", Json.strings summary.externalInterfaces),
     ("unresolved", Json.strings summary.unresolved)]

namespace StateVariable

/-- The variable with its resolved address, if it has one. -/
def withAddress (addresses : List (String × String)) (declared : StateVariable) : StateVariable :=
  match SortedFields.find? declared.name addresses with
  | some address => { declared with address := some address }
  | none => declared

end StateVariable

namespace Session

/-- The names of the probes that are not among the resolved addresses. -/
def unresolvedNames (addresses : List (String × String)) (probes : List Probe) : List String :=
  (probes.filter fun probe => !SortedFields.has probe.name addresses).map Probe.name

/-- The external calls of a session that are dependencies. -/
def dependencies (session : Session) : List String :=
  Calls.dependencies (Calls.libraryNames session.contractData.allLibraryCalls)
    session.contractData.allExternalCalls

/-- The session with resolved addresses and filtered calls written back. -/
def withResolved (session : Session) (addresses : List (String × String)) : Session :=
  { session with
    stateVariables := session.stateVariables.map (StateVariable.withAddress addresses)
    contractData := { session.contractData with
      externalCalls := some session.dependencies
      externalAddresses := some addresses } }

/-- What enriching a session with resolved addresses finds. -/
def summary (session : Session) (addresses : List (String × String)) : EnrichmentSummary :=
  { externalAddresses := addresses
    externalCalls := session.dependencies
    externalInterfaces := Calls.interfaces session.dependencies
    unresolved := unresolvedNames addresses (ProbeSet.ofVariables session.stateVariables).probes }

/-- The address of the contract of a session. -/
def contract (session : Session) : Except AtlasError Address :=
  match Address.parse? session.contractAddress with
  | some address => .ok address
  | none => .error (.invalidAddress session.contractAddress)

end Session

variable {m : Type -> Type} [Monad m]

/-- The resolved addresses of the variables of a contract given by text. -/
def resolveVariables (reader : ContractReader m) (contract : String)
    (stateVariables : List StateVariable) : m (Except AtlasError (List (String × String))) :=
  match Address.parse? contract with
  | none => return .error (.invalidAddress contract)
  | some address => return .ok (<- resolve reader address (ProbeSet.ofVariables stateVariables))

/-- The enriched session with what was found. -/
def enrich (reader : ContractReader m) (session : Session) :
    m (Except AtlasError (Session × EnrichmentSummary)) :=
  match session.contract with
  | .error fault => return .error fault
  | .ok contract => do
      let addresses <- resolve reader contract (ProbeSet.ofVariables session.stateVariables)
      return .ok (session.withResolved addresses, session.summary addresses)

/-- Enriches the session that a query names and saves it. The store is unchanged unless the session
has been found and enriched. -/
def mapTarget {σ : Type} [SessionStore σ] (reader : ContractReader m) (query : String)
    (store : σ) : m (Except AtlasError (Path × EnrichmentSummary) × σ) :=
  match SessionStore.find store query with
  | .error fault => return (.error (.store fault), store)
  | .ok (_, session) => do
      match <- enrich reader session with
      | .error fault => return (.error fault, store)
      | .ok (enriched, summary) =>
          let (saved, store) := SessionStore.save store enriched
          return ((saved.mapError .store).map fun path => (path, summary), store)

end ContractAtlas
