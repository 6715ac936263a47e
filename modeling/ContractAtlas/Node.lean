import ContractAtlas.Error
import ContractAtlas.Json.Fields
import ContractAtlas.Json.Writer
import ContractAtlas.Web.Exchange
import ContractAtlas.Web.Status

/-!
# Contract nodes

A node answers calls of contracts over the JSON remote procedure protocol. A getter is called on the
pending state, and the calls of one reader are numbered from zero. Whatever is wrong with a reply,
the call gives a failure of that one getter.
-/

namespace ContractAtlas

open Json Web

/-- A node as a client sees it. -/
structure Node where
  url : Url
  /-- How long to wait for an answer, in milliseconds. -/
  timeout : Nat

namespace Node

/-- The node at an address. -/
def connect (address : String) (timeout : Nat) : Except AtlasError Node :=
  match Url.parse address with
  | .ok url => .ok ⟨url, timeout⟩
  | .error fault => .error (.badUrl address fault.message)

/-- Bytes as lower-case hexadecimal digits after `0x`. -/
def hexBytes (bytes : List UInt8) : String :=
  String.ofList (['0', 'x'] ++ (bytes.flatMap Text.byteDigits).map Text.hexDigit)

/-- The bytes that pairs of hexadecimal digits write. -/
def pairedBytes? : List Char -> Option (List UInt8)
  | [] => some []
  | high :: low :: later => do
      let high <- Text.hexValue? high
      let low <- Text.hexValue? low
      return UInt8.ofNat (high.val * 16 + low.val) :: (<- pairedBytes? later)
  | _ => none

/-- The bytes of a text of hexadecimal digits after `0x`. -/
def bytes? (text : String) : Option (List UInt8) :=
  match text.toList with
  | '0' :: 'x' :: digits => pairedBytes? digits
  | _ => none

/-- The document of the call of a getter. -/
def callToJson (number : Nat) (contract : Address) (getter : String) : Json :=
  .object
    [("jsonrpc", .string "2.0"), ("id", .nat number), ("method", .string "eth_call"),
     ("params", .array
       [.object [("to", .string contract.lowerText),
                 ("input", .string (hexBytes (Getter.selector getter)))],
        .string "pending"])]

/-- The result in the body of a reply. -/
def result? (body : String) : Option (List UInt8) := do
  let fields <- (<- Written.read? body).object?
  bytes? (<- Written.required? fields ["result"] Written.text?)

/-- The address in a reply, or why there is none. -/
def addressOf (timeout : Nat) : Reply -> Except ProbeCause Address
  | .timedOut _ => .error (.timedOut timeout)
  | .unanswered _ => .error .noAnswer
  | .brokenOff _ _ => .error .noAnswer
  | .answered status body =>
      if Status.isSuccess status then
        match result? (Text.textOfBytes body) with
        | none => .error .noAnswer
        | some answer => (Getter.decode answer).mapError .answer
      else .error .noAnswer

/-- The reader of contracts on a node. Its state is the number of the next call. -/
def reader {m : Type -> Type} [Monad m] (transport : Transport m) (node : Node) :
    ContractReader (StateT Nat m) :=
  fun contract getter number => do
    let reply <- transport
      { url := node.url, contentType := "application/json"
        body := (callToJson number contract getter).toCompactText, timeout := node.timeout }
    let address := (addressOf node.timeout reply).mapError fun cause => ⟨contract, getter, cause⟩
    return (address, number + 1)

end Node

end ContractAtlas
