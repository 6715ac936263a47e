import ContractAtlas.Decimal.Literal
import ContractAtlas.Json.SortedFields

/-!
# JSON values

Two forms of a JSON text. `Json.Written` is the text as written: fields in written order with
repeats, and leaves that may denote nothing, such as a text with half a surrogate pair or a number
out of range. `Json` is what the text denotes: every leaf has a value and the fields of an object
are sorted. `Written.value?` passes from the first to the second and limits the nesting, so a part
of a text whose value is never asked for may hold leaves without a value and nest without a limit.
-/

namespace ContractAtlas

open Decimal

/-- A JSON value. -/
inductive Json where
  | null
  | bool (value : Bool)
  | number (value : Number)
  | string (text : String)
  | array (items : List Json)
  | object (fields : List (String × Json))
deriving Inhabited, Repr

namespace Json

/-- An integer as a JSON value. -/
def integer (value : Int) : Json :=
  .number (.integer value)

/-- A natural number as a JSON value. -/
def nat (value : Nat) : Json :=
  .number (.integer value)

/-- A text, or null when there is none. -/
def textOrNull : Option String -> Json
  | some text => .string text
  | none => .null

/-- A list of texts as a JSON value. -/
def strings (texts : List String) : Json :=
  .array (texts.map .string)

/-- A JSON text as written. -/
inductive Written where
  | null
  | bool (value : Bool)
  | number (value : Option Number)
  | string (text : Option String)
  | array (items : List Written)
  | object (fields : List (Option String × Written))
deriving Inhabited, Repr

namespace Written

/-- The nesting that a document may use, counted from the outermost container. A container is read
only if it leaves a positive rest. -/
def nestingLimit : Nat := 128

mutual

/-- The value that a written JSON text denotes, in a place that has `room` levels of nesting
left. -/
def value? (room : Nat) : Written -> Option Json
  | .null => some .null
  | .bool value => some (.bool value)
  | .number value => value.map .number
  | .string text => text.map .string
  | .array items =>
      if room <= 1 then none else (values? (room - 1) items).map .array
  | .object fields =>
      if room <= 1 then none
      else (fieldValues? (room - 1) fields).map fun fields => .object (SortedFields.ofList fields)

/-- The values of a list of written JSON texts. -/
def values? (room : Nat) : List Written -> Option (List Json)
  | [] => some []
  | item :: later => do
      let value <- value? room item
      let values <- values? room later
      return value :: values

/-- The fields of an object in written order, with the values of their texts. -/
def fieldValues? (room : Nat) : List (Option String × Written) -> Option (List (String × Json))
  | [] => some []
  | (name, item) :: later => do
      let name <- name
      let value <- value? room item
      let fields <- fieldValues? room later
      return (name, value) :: fields

end

end Written

end Json

end ContractAtlas
