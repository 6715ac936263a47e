import ContractAtlas.Address

/-!
# Getters

A getter is a function of a deployed contract that takes nothing and returns an address. It is
called by the first four bytes of the hash of its signature, and its answer is one word of
thirty-two bytes whose first twelve are zero. Bytes after the word do not matter.
-/

namespace ContractAtlas.Getter

/-- The four bytes that select a getter. -/
def selector (name : String) : List UInt8 :=
  (Keccak.digest (name ++ "()").toUTF8.toList).take 4

/-- Why an answer is not an address. -/
inductive AnswerFault where
  | empty
  | notAnAddress
deriving DecidableEq, Repr

/-- The wording of a fault. -/
def AnswerFault.message : AnswerFault -> String
  | .empty => "empty return data (missing getter or reverted call)"
  | .notAnAddress => "the return data is not an address"

/-- The address that an answer holds. -/
def decode (answer : List UInt8) : Except AnswerFault Address :=
  if answer.isEmpty then .error .empty
  else
    match Address.ofWord? (answer.take 32) with
    | some address => .ok address
    | none => .error .notAnAddress

end ContractAtlas.Getter
