import ContractAtlas.Getter
import ContractAtlas.Json.SortedFields
import ContractAtlas.Session

/-!
# Address resolution

A variable of a contract may hold the address of another contract. `ProbeSet.ofVariables` sorts the
variables whose type may be an address into literals, whose declaration spells the address out, and
probes, whose getter has to be asked. `resolve` asks every getter in order and then puts the
literals on top. A getter that fails is left out and affects no other name. What answers the getters
is a parameter, so the same definition serves a deployed contract and a table of answers.
-/

namespace ContractAtlas

open Json

/-- The beginnings of the types that hold no address. -/
def typeExceptions : List String :=
  ["uint", "int", "bool", "bytes", "string", "mapping"]

/-- Whether a variable of a type may hold an address. -/
def isProbeCandidate (type : String) : Bool :=
  !typeExceptions.any fun excluded => excluded.toList.isPrefixOf type.toList

/-- The digits of an address literal that starts right here. -/
def literalHere? (characters : List Char) : Option Address :=
  Address.ofChars? (characters.take 42)

/-- The first address literal in a list of characters. Digits after the fortieth do not matter. -/
def firstLiteral? : List Char -> Option Address
  | [] => none
  | character :: later =>
      match literalHere? (character :: later) with
      | some address => some address
      | none => firstLiteral? later

/-- A variable whose getter has to be asked. -/
structure Probe where
  name : String
  type : String
deriving DecidableEq, Repr

/-- The variables that may hold an address. -/
structure ProbeSet where
  /-- The checksummed literals by variable name, in the order of the names. -/
  literals : List (String × String) := []
  probes : List Probe := []

namespace ProbeSet

/-- Whether there is nothing to resolve. -/
def isEmpty (probeSet : ProbeSet) : Bool :=
  probeSet.literals.isEmpty && probeSet.probes.isEmpty

/-- The variables among a list that may hold an address. -/
def candidates (stateVariables : List StateVariable) : List StateVariable :=
  stateVariables.filter fun declared => declared.isVariable && isProbeCandidate declared.type

/-- The checksummed address that the declaration of a variable spells out. -/
def literal? (declared : StateVariable) : Option String := do
  let body <- declared.body
  return (<- firstLiteral? body.toList).checksummed

/-- The literals of a list of candidates, the last one of each name. -/
def literalsOf (stateVariables : List StateVariable) : List (String × String) :=
  SortedFields.ofList (stateVariables.filterMap fun declared =>
    (literal? declared).map fun address => (declared.name, address))

/-- The candidates without a literal, in order. -/
def probesOf (stateVariables : List StateVariable) : List Probe :=
  (stateVariables.filter fun declared => (literal? declared).isNone).map fun declared =>
    ⟨declared.name, declared.type⟩

/-- The probe set of a list of variables. -/
def ofVariables (stateVariables : List StateVariable) : ProbeSet :=
  ⟨literalsOf (candidates stateVariables), probesOf (candidates stateVariables)⟩

end ProbeSet

/-- Why a getter gives no address. -/
inductive ProbeCause where
  | reverted
  | noAnswer
  | timedOut (milliseconds : Nat)
  | answer (fault : Getter.AnswerFault)
deriving DecidableEq, Repr

/-- The wording of a cause. -/
def ProbeCause.message : ProbeCause -> String
  | .reverted => "execution reverted"
  | .noAnswer => "the node gave no result"
  | .timedOut milliseconds => "timed out after " ++ toString milliseconds ++ " ms"
  | .answer fault => fault.message

/-- A getter that gave no address. -/
structure ProbeFailure where
  contract : Address
  getter : String
  cause : ProbeCause
deriving DecidableEq

/-- The wording of a failure. -/
def ProbeFailure.message (failure : ProbeFailure) : String :=
  "Address probe " ++ failure.getter ++ "() on " ++ failure.contract.checksummed ++ " failed: " ++
    failure.cause.message

/-- What answers the getters of contracts. -/
abbrev ContractReader (m : Type -> Type) :=
  Address -> String -> m (Except ProbeFailure Address)

section

variable {m : Type -> Type} [Monad m]

/-- The answers to a list of probes on a contract, in order. -/
def askAll (reader : ContractReader m) (contract : Address) (probes : List Probe) :
    m (List (String × Except ProbeFailure Address)) :=
  probes.mapM fun probe => return (probe.name, <- reader contract probe.name)

/-- The checksummed addresses among a list of answers. -/
def answered (answers : List (String × Except ProbeFailure Address)) : List (String × String) :=
  answers.filterMap fun answer =>
    match answer.2 with
    | .ok address => some (answer.1, address.checksummed)
    | .error _ => none

/-- The addresses of a probe set on a contract by variable name, a later answer in place of an
earlier one of the same name and a literal in place of both. -/
def resolve (reader : ContractReader m) (contract : Address) (probeSet : ProbeSet) :
    m (List (String × String)) := do
  let answers <- askAll reader contract probeSet.probes
  return SortedFields.insertAll (SortedFields.ofList (answered answers)) probeSet.literals

end

end ContractAtlas
