import ContractAtlas.Json.Writer
import ContractAtlas.Proofs.Decimal.Literal
import ContractAtlas.Proofs.Itemwise
import ContractAtlas.Proofs.Json.SortedFields

/-!
# Values and their written form

Every value has a written form, which a text of the value is read as. A value that was read in a
place with some room for nesting is the value of its own written form in that place
(`value?_written`): reading sorts fields and drops repeated names, and a second reading finds
nothing more to do.
-/

namespace ContractAtlas

open Decimal

/-- A property of values holds of all if every container has it once its parts have it. -/
@[elab_as_elim] theorem Json.induction {motive : Json → Prop} (null : motive .null)
    (bool : ∀ value, motive (.bool value)) (number : ∀ value, motive (.number value))
    (string : ∀ text, motive (.string text))
    (array : ∀ items, (∀ item ∈ items, motive item) → motive (.array items))
    (object : ∀ fields, (∀ field ∈ fields, motive field.2) → motive (.object fields))
    (value : Json) : motive value :=
  Json.rec (motive_1 := motive) (motive_2 := fun items => ∀ item ∈ items, motive item)
    (motive_3 := fun fields => ∀ field ∈ fields, motive field.2)
    (motive_4 := fun field => motive field.2)
    null bool number string array object
    (fun _ member => by cases member)
    (fun _ _ first later => List.forall_mem_cons.mpr ⟨first, later⟩)
    (fun _ member => by cases member)
    (fun _ _ first later => List.forall_mem_cons.mpr ⟨first, later⟩)
    (fun _ _ held => held) value

namespace Json

mutual

/-- The written form of a value. -/
def written : Json → Written
  | .null => .null
  | .bool value => .bool value
  | .number value => .number (some value)
  | .string text => .string (some text)
  | .array items => .array (writtenItems items)
  | .object fields => .object (writtenFields fields)

/-- The written forms of a list of values. -/
def writtenItems : List Json → List Written
  | [] => []
  | item :: later => written item :: writtenItems later

/-- The written forms of a list of fields. -/
def writtenFields : List (String × Json) → List (Option String × Written)
  | [] => []
  | (name, value) :: later => (some name, written value) :: writtenFields later

end

/-- What the text of a number is read as. The text of an infinite number is the word for nothing. -/
def rereadNumber (number : Number) : Written :=
  match Number.ofLiteral? number.render with
  | some denoted => .number denoted
  | none => .null

mutual

/-- What the text of a value is read as: its written form, except that a number may be another one,
or none. -/
def reread : Json → Written
  | .null => .null
  | .bool value => .bool value
  | .number value => rereadNumber value
  | .string text => .string (some text)
  | .array items => .array (rereadItems items)
  | .object fields => .object (rereadFields fields)

/-- What the texts of a list of values are read as. -/
def rereadItems : List Json → List Written
  | [] => []
  | item :: later => reread item :: rereadItems later

/-- What the texts of a list of fields are read as. -/
def rereadFields : List (String × Json) → List (Option String × Written)
  | [] => []
  | (name, value) :: later => (some name, reread value) :: rereadFields later

end

mutual

/-- The numbers in a value. -/
def numbers : Json → List Number
  | .number value => [value]
  | .array items => itemNumbers items
  | .object fields => fieldNumbers fields
  | _ => []

/-- The numbers in a list of values. -/
def itemNumbers : List Json → List Number
  | [] => []
  | item :: later => numbers item ++ itemNumbers later

/-- The numbers in a list of fields. -/
def fieldNumbers : List (String × Json) → List Number
  | [] => []
  | (_, value) :: later => numbers value ++ fieldNumbers later

end

/-- Items are written one by one. -/
theorem writtenItems_eq_map (items : List Json) : writtenItems items = items.map written := by
  induction items with
  | nil => rfl
  | cons item later inductionHypothesis => rw [writtenItems, inductionHypothesis, List.map_cons]

/-- Fields are written one by one, each under its name. -/
theorem writtenFields_eq_map (fields : List (String × Json)) :
    writtenFields fields = fields.map fun field => (some field.1, field.2.written) := by
  induction fields with
  | nil => rfl
  | cons field later inductionHypothesis =>
      rw [writtenFields, inductionHypothesis, List.map_cons]

/-- Items are read again one by one. -/
theorem rereadItems_eq_map (items : List Json) : rereadItems items = items.map reread := by
  induction items with
  | nil => rfl
  | cons item later inductionHypothesis =>
      rw [rereadItems, inductionHypothesis, List.map_cons]

/-- Fields are read again one by one, each under its name. -/
theorem rereadFields_eq_map (fields : List (String × Json)) :
    rereadFields fields = fields.map fun field => (some field.1, field.2.reread) := by
  induction fields with
  | nil => rfl
  | cons field later inductionHypothesis =>
      rw [rereadFields, inductionHypothesis, List.map_cons]

/-- The numbers in some items are those in one of them. -/
theorem mem_itemNumbers {number : Number} {items : List Json} :
    number ∈ itemNumbers items ↔ ∃ item ∈ items, number ∈ item.numbers := by
  induction items with
  | nil => simp [itemNumbers]
  | cons item later inductionHypothesis => simp [itemNumbers, inductionHypothesis]

/-- The numbers in some fields are those in the value of one of them. -/
theorem mem_fieldNumbers {number : Number} {fields : List (String × Json)} :
    number ∈ fieldNumbers fields ↔ ∃ field ∈ fields, number ∈ field.2.numbers := by
  induction fields with
  | nil => simp [fieldNumbers]
  | cons field later inductionHypothesis => simp [fieldNumbers, inductionHypothesis]

/-- A value whose numbers are integers is read as its written form. -/
theorem reread_eq_written {value : Json}
    (integers : ∀ number ∈ value.numbers, number.IsInteger) : value.reread = value.written := by
  induction value using Json.induction with
  | null => rfl
  | bool value => rfl
  | number value =>
      rw [reread, rereadNumber, Number.ofLiteral?_render (integers value List.mem_cons_self),
        written]
  | string text => rfl
  | array items inductionHypothesis =>
      rw [reread, written, rereadItems_eq_map, writtenItems_eq_map]
      exact congrArg _ (List.map_congr_left fun item member =>
        inductionHypothesis item member fun number inside =>
          integers number (mem_itemNumbers.mpr ⟨item, member, inside⟩))
  | object fields inductionHypothesis =>
      rw [reread, written, rereadFields_eq_map, writtenFields_eq_map]
      refine congrArg _ (List.map_congr_left fun field member => ?_)
      rw [inductionHypothesis field member fun number inside =>
        integers number (mem_fieldNumbers.mpr ⟨field, member, inside⟩)]

namespace Written

/-- Items have values exactly when each item has one. -/
theorem values?_eq_some_iff {room : Nat} {items : List Written} {values : List Json} :
    values? room items = some values ↔
      List.Forall₂ (fun item value => value? room item = some value) items values := by
  induction items generalizing values with
  | nil => simp [values?, eq_comm]
  | cons item later inductionHypothesis =>
      cases values with
      | nil => simp [values?, Option.bind_eq_some_iff]
      | cons value others =>
          rw [List.forall₂_cons, ← inductionHypothesis]
          simp [values?, Option.bind_eq_some_iff]

/-- A written field with the field that it denotes, in a place that has `room` levels of nesting
left. -/
def Denotes (room : Nat) (field : Option String × Written) (value : String × Json) : Prop :=
  field.1 = some value.1 ∧ value? room field.2 = some value.2

/-- Fields have values exactly when each field denotes one. -/
theorem fieldValues?_eq_some_iff {room : Nat} {fields : List (Option String × Written)}
    {values : List (String × Json)} :
    fieldValues? room fields = some values ↔ List.Forall₂ (Denotes room) fields values := by
  induction fields generalizing values with
  | nil => simp [fieldValues?, eq_comm]
  | cons field later inductionHypothesis =>
      obtain ⟨name, item⟩ := field
      cases values with
      | nil => simp [fieldValues?, Option.bind_eq_some_iff]
      | cons value others =>
          obtain ⟨valueName, value⟩ := value
          rw [List.forall₂_cons, ← inductionHypothesis]
          simp [fieldValues?, Option.bind_eq_some_iff, Denotes, and_assoc]

/-- The parts of a list of values are read as they are written if each value is. -/
theorem values?_written {room : Nat} {items : List Json}
    (read : ∀ item ∈ items, value? room item.written = some item) :
    values? room (writtenItems items) = some items := by
  rw [values?_eq_some_iff, writtenItems_eq_map, List.forall₂_map_left_iff]
  exact List.forall₂_same.mpr read

/-- Fields that are written have the values that they were written from. -/
theorem fieldValues?_written {room : Nat} {fields : List (String × Json)}
    (read : ∀ field ∈ fields, value? room field.2.written = some field.2) :
    fieldValues? room (writtenFields fields) = some fields := by
  rw [fieldValues?_eq_some_iff, writtenFields_eq_map, List.forall₂_map_left_iff]
  exact List.forall₂_same.mpr fun field member => ⟨rfl, read field member⟩

/-- A value that was read in a place is the value of its own written form there. -/
theorem value?_written {value : Json} {room : Nat} {source : Written}
    (read : value? room source = some value) : value? room value.written = some value := by
  induction value using Json.induction generalizing room source with
  | null => rfl
  | bool value => rfl
  | number value => rfl
  | string text => rfl
  | array items inductionHypothesis =>
      cases source with
      | array sources =>
          rw [value?] at read
          split at read
          · cases read
          rename_i deep
          obtain ⟨values, readItems, same⟩ := Option.map_eq_some_iff.mp read
          obtain rfl : values = items := by simpa using same
          have parts := values?_eq_some_iff.mp readItems
          rw [written, value?, if_neg deep, values?_written, Option.map_some]
          intro item member
          obtain ⟨partner, _, readItem⟩ := exists_of_mem_forall₂ parts member
          exact inductionHypothesis item member readItem
      | object sources => rw [value?] at read; split at read <;> simp at read
      | _ => simp [value?] at read
  | object fields inductionHypothesis =>
      cases source with
      | object sources =>
          rw [value?] at read
          split at read
          · cases read
          rename_i deep
          obtain ⟨values, readFields, same⟩ := Option.map_eq_some_iff.mp read
          obtain rfl : SortedFields.ofList values = fields := by simpa using same
          have parts := fieldValues?_eq_some_iff.mp readFields
          rw [written, value?, if_neg deep, fieldValues?_written, Option.map_some,
            SortedFields.ofList_eq_self (SortedFields.sorted_ofList values)]
          intro field member
          obtain ⟨partner, _, readField⟩ :=
            exists_of_mem_forall₂ parts (SortedFields.mem_of_mem_ofList member)
          exact inductionHypothesis field member readField.2
      | array sources => rw [value?] at read; split at read <;> simp at read
      | _ => simp [value?] at read

end Written

end Json

end ContractAtlas
