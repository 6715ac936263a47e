import ContractAtlas.Json.Writer
import ContractAtlas.Session

/-!
# Writing sessions

A session is written as an object: the known fields in declared order, optional ones only when they
have a value, and then the preserved fields in the order of their names.
-/

namespace ContractAtlas

open Json

/-- A field that is written only when it has a value. -/
def optionalField {α : Type} (name : String) (write : α -> Json) : Option α -> List (String × Json)
  | some value => [(name, write value)]
  | none => []

/-- The document of the network part. -/
def NetworkInfo.toJson (info : NetworkInfo) : Json :=
  .object <|
    [("contract_name", .string info.contractName),
     ("contract_address", .string info.contractAddress),
     ("contract_network", .string info.contractNetwork)] ++
    optionalField "last_checked" .string info.lastChecked ++
    [("data_directory", .string info.dataDirectory)]

/-- Texts by name as an object. -/
def textFieldsToJson (fields : List (String × String)) : Json :=
  .object (fields.map fun field => (field.1, .string field.2))

/-- The document of the contract part. -/
def ContractData.toJson (contract : ContractData) : Json :=
  .object <|
    [("all_library_calls", Json.strings contract.allLibraryCalls),
     ("all_external_calls", Json.strings contract.allExternalCalls)] ++
    optionalField "external_calls" Json.strings contract.externalCalls ++
    optionalField "external_addresses" textFieldsToJson contract.externalAddresses ++
    contract.extra

/-- The document of a variable. -/
def StateVariable.toJson (declared : StateVariable) : Json :=
  .object <|
    [("variable_name", .string declared.name), ("variable_type", .string declared.type)] ++
    optionalField "variable_body" .string declared.body ++
    [("is_variable", .bool declared.isVariable)] ++
    optionalField "address" .string declared.address ++
    declared.extra

namespace Session

/-- The document of a session. -/
def toJson (session : Session) : Json :=
  .object <|
    [("network_info", session.networkInfo.toJson),
     ("contract_data", session.contractData.toJson),
     ("functions_data", .array session.functions),
     ("variables_data", .array (session.stateVariables.map StateVariable.toJson)),
     ("scan_results", session.scanResults)] ++
    session.extra

/-- The text of a session document. -/
def write (session : Session) : String :=
  Json.toPrettyText session.toJson

end Session

end ContractAtlas
