import ContractAtlas.Json.Value
import ContractAtlas.SessionKey

/-!
# Sessions

A session is the document that an analysis service wrote about one contract. The library reads the
fields that it needs and keeps every other field in `extra`, so a session that is read, enriched and
written again loses nothing. The resolved dependencies are absent until the session has been
enriched.
-/

namespace ContractAtlas

/-- Where and when the source of a contract was fetched. -/
structure NetworkInfo where
  contractName : String := ""
  contractAddress : String := ""
  contractNetwork : String := ""
  lastChecked : Option String := none
  dataDirectory : String := ""

/-- What is known about the contract as a whole. -/
structure ContractData where
  allLibraryCalls : List String := []
  allExternalCalls : List String := []
  /-- The external calls that remain after filtering. -/
  externalCalls : Option (List String) := none
  /-- The resolved address of every variable, in the order of the names. -/
  externalAddresses : Option (List (String × String)) := none
  extra : List (String × Json) := []

/-- A state variable of the contract. -/
structure StateVariable where
  name : String := ""
  type : String := ""
  body : Option String := none
  isVariable : Bool := false
  /-- The resolved address. -/
  address : Option String := none
  extra : List (String × Json) := []

/-- The document about one contract. -/
structure Session where
  networkInfo : NetworkInfo := {}
  contractData : ContractData := {}
  functions : List Json := []
  stateVariables : List StateVariable := []
  scanResults : Json := .null
  extra : List (String × Json) := []

namespace Session

/-- The name of the contract. -/
def contractName (session : Session) : String :=
  session.networkInfo.contractName

/-- The address of the contract as written. -/
def contractAddress (session : Session) : String :=
  session.networkInfo.contractAddress

/-- The network of the contract as written. -/
def network (session : Session) : String :=
  session.networkInfo.contractNetwork

/-- The resolved dependencies by variable name, none before enrichment. -/
def externalAddresses (session : Session) : List (String × String) :=
  session.contractData.externalAddresses.getD []

/-- The filtered external calls, none before enrichment. -/
def externalCalls (session : Session) : List String :=
  session.contractData.externalCalls.getD []

/-- Whether the dependencies have been resolved. -/
def isEnriched (session : Session) : Bool :=
  session.contractData.externalAddresses.isSome

/-- The network of the contract, an empty one read as the default. -/
def effectiveNetwork (session : Session) : String :=
  if session.network.isEmpty then Network.defaultName else session.network

/-- The key under which a session is stored. The network need not be a supported one. -/
def key (session : Session) : Except InvalidTarget SessionKey :=
  match Address.parse? session.contractAddress with
  | some address => .ok ⟨session.effectiveNetwork, address⟩
  | none => .error ⟨session.contractAddress, .noContractAddress⟩

end Session

end ContractAtlas
