import ContractAtlas.Json.Reader

/-!
# Reading fields

Readers for the parts of a document with known fields. A known field occurs at most once under all
of its names. A reader of a part either keeps the fields that it does not know, which then must have
a value, or ignores them, and then anything that is written properly may stand there.
-/

namespace ContractAtlas.Json.Written

/-- The fields of an object whose names all denote texts. -/
def namedFields? : List (Option String × Written) -> Option (List (String × Written))
  | [] => some []
  | (name, value) :: later => do
      let name <- name
      let fields <- namedFields? later
      return (name, value) :: fields

/-- The fields of an object. -/
def object? : Written -> Option (List (String × Written))
  | .object fields => namedFields? fields
  | _ => none

/-- The items of an array. -/
def array? : Written -> Option (List Written)
  | .array items => some items
  | _ => none

/-- The text of a string. -/
def text? : Written -> Option String
  | .string text => text
  | _ => none

/-- A truth value. -/
def bool? : Written -> Option Bool
  | .bool value => some value
  | _ => none

/-- The texts of an array of strings. -/
def texts? (written : Written) : Option (List String) := do
  (<- written.array?).mapM text?

/-- The texts of an object of strings, by name. -/
def textFields? (written : Written) : Option (List (String × String)) := do
  let fields <- written.object?
  let texts <- fields.mapM fun field => field.2.text?.map fun text => (field.1, text)
  return SortedFields.ofList texts

/-- A part that may be null. -/
def nullable? {α : Type} (read : Written -> Option α) : Written -> Option (Option α)
  | .null => some none
  | written => (read written).map some

/-- A part that may be missing, and then is `absent`. -/
def optional? {α : Type} (absent : α) (read : Written -> Option α) : Option Written -> Option α
  | none => some absent
  | some written => read written

/-- The value of the only field with one of the names: `some none` when there is no such field, and
none when there are several. -/
def single? (names : List String) (fields : List (String × Written)) : Option (Option Written) :=
  match fields.filter fun field => names.contains field.1 with
  | [] => some none
  | [field] => some (some field.2)
  | _ => none

/-- A known field: read if it is there once, `absent` if it is missing. -/
def field? {α : Type} (fields : List (String × Written)) (names : List String) (absent : α)
    (read : Written -> Option α) : Option α := do
  optional? absent read (<- single? names fields)

/-- A known field that has to be there, exactly once. -/
def required? {α : Type} (fields : List (String × Written)) (names : List String)
    (read : Written -> Option α) : Option α := do
  read (<- (<- single? names fields))

/-- A natural number, which fits into 64 bits like every integer that is read. -/
def nat? : Written -> Option Nat
  | .number (some (.integer value)) => if 0 <= value then some value.toNat else none
  | _ => none

/-- A choice between named alternatives: the name alone, or an object of the name with null. -/
def choice? {α : Type} (ofName? : String -> Option α) : Written -> Option α
  | .string name => do ofName? (<- name)
  | .object [(name, .null)] => do ofName? (<- name)
  | _ => none

/-- The values of the fields that are not known, in a place that has `room` levels of nesting
left. -/
def extra? (room : Nat) (known : List String) (fields : List (String × Written)) :
    Option (List (String × Json)) := do
  let unknown := fields.filter fun field => !known.contains field.1
  let values <- unknown.mapM fun field => (field.2.value? room).map fun value => (field.1, value)
  return SortedFields.ofList values

end ContractAtlas.Json.Written
