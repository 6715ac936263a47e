import ContractAtlas.Json.Fields
import ContractAtlas.Session

/-!
# Reading sessions

A session is read from an object. Fields that are missing take their defaults; `null` is accepted
only where a part is optional or free. The network part also answers to the names that the download
tool writes, and may be an array of its fields in declared order.
-/

namespace ContractAtlas

open Json

namespace NetworkInfo

/-- The network part from its fields, the unknown ones ignored. -/
def ofFields? (fields : List (String × Written)) : Option NetworkInfo := do
  return {
    contractName := <- Written.field? fields ["contract_name", "ContractName"] "" Written.text?
    contractAddress := <- Written.field? fields ["contract_address", "Address"] "" Written.text?
    contractNetwork := <- Written.field? fields ["contract_network", "Network"] "" Written.text?
    lastChecked := <- Written.field? fields ["last_checked", "LastChecked"] none
      (Written.nullable? Written.text?)
    dataDirectory := <- Written.field? fields ["data_directory", "Output_Dir"] "" Written.text? }

/-- The network part from the values of its fields in declared order. -/
def ofItems? (items : List Written) : Option NetworkInfo := do
  if items.length > 5 then none
  else return {
    contractName := <- Written.optional? "" Written.text? items[0]?
    contractAddress := <- Written.optional? "" Written.text? items[1]?
    contractNetwork := <- Written.optional? "" Written.text? items[2]?
    lastChecked := <- Written.optional? none (Written.nullable? Written.text?) items[3]?
    dataDirectory := <- Written.optional? "" Written.text? items[4]? }

/-- The network part of a document. -/
def ofWritten? : Written -> Option NetworkInfo
  | .object fields => do ofFields? (<- Written.namedFields? fields)
  | .array items => ofItems? items
  | _ => none

end NetworkInfo

namespace ContractData

/-- The names of the known fields. -/
def knownFields : List String :=
  ["all_library_calls", "all_external_calls", "external_calls", "external_addresses"]

/-- The contract part of a document, whose fields have `room` levels of nesting left. -/
def ofWritten? (room : Nat) (written : Written) : Option ContractData := do
  let fields <- written.object?
  return {
    allLibraryCalls := <- Written.field? fields ["all_library_calls"] [] Written.texts?
    allExternalCalls := <- Written.field? fields ["all_external_calls"] [] Written.texts?
    externalCalls := <- Written.field? fields ["external_calls"] none
      (Written.nullable? Written.texts?)
    externalAddresses := <- Written.field? fields ["external_addresses"] none
      (Written.nullable? Written.textFields?)
    extra := <- Written.extra? room knownFields fields }

end ContractData

namespace StateVariable

/-- The names of the known fields. -/
def knownFields : List String :=
  ["variable_name", "variable_type", "variable_body", "is_variable", "address"]

/-- A variable of a document, whose fields have `room` levels of nesting left. -/
def ofWritten? (room : Nat) (written : Written) : Option StateVariable := do
  let fields <- written.object?
  return {
    name := <- Written.field? fields ["variable_name"] "" Written.text?
    type := <- Written.field? fields ["variable_type"] "" Written.text?
    body := <- Written.field? fields ["variable_body"] none (Written.nullable? Written.text?)
    isVariable := <- Written.field? fields ["is_variable"] false Written.bool?
    address := <- Written.field? fields ["address"] none (Written.nullable? Written.text?)
    extra := <- Written.extra? room knownFields fields }

end StateVariable

namespace Session

/-- The names of the known fields. -/
def knownFields : List String :=
  ["network_info", "contract_data", "functions_data", "variables_data", "scan_results"]

/-- The session of a written document, whose outermost object has `room` levels of nesting. -/
def ofWritten? (room : Nat) (written : Written) : Option Session := do
  let fields <- written.object?
  return {
    networkInfo := <- Written.field? fields ["network_info"] {} NetworkInfo.ofWritten?
    contractData := <- Written.field? fields ["contract_data"] {}
      (ContractData.ofWritten? (room - 2))
    functions := <- Written.field? fields ["functions_data"] [] fun functions => do
      (<- functions.array?).mapM (Written.value? (room - 2))
    stateVariables := <- Written.field? fields ["variables_data"] [] fun stateVariables => do
      (<- stateVariables.array?).mapM (StateVariable.ofWritten? (room - 3))
    scanResults := <- Written.field? fields ["scan_results"] .null (Written.value? (room - 1))
    extra := <- Written.extra? (room - 1) knownFields fields }

/-- The session that a text denotes. -/
def read? (text : String) : Option Session := do
  ofWritten? Written.nestingLimit (<- Written.read? text)

end Session

end ContractAtlas
