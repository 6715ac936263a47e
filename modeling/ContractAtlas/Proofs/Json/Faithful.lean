import ContractAtlas.Proofs.Json.Fields

/-!
# Faithful readers

A reader of a known field looks at the written form of a value. It is faithful if what it has read
determines that value: the value is what has been read, written again. The readers of texts, truth
values and lists are faithful, and stay so for parts that may be null. A field that a faithful
reader has read therefore can be compared with the field that is written in its place
(`exists_value?_object`).
-/

namespace ContractAtlas.Json.Written

open SortedFields

variable {α : Type} {room : Nat}

/-- Whether the value of whatever is read is what has been read, written again. -/
def Faithful (room : Nat) (read : Written → Option α) (write : α → Json) : Prop :=
  ∀ source part value, read source = some part → value? room source = some value →
    value = write part

/-- Texts are written as they were read. -/
theorem faithful_text : Faithful room text? .string := by
  intro source part value readPart readValue
  cases source with
  | string text =>
      obtain rfl : text = some part := readPart
      simpa [value?, eq_comm] using readValue
  | _ => cases readPart

/-- Truth values are written as they were read. -/
theorem faithful_bool : Faithful room bool? .bool := by
  intro source part value readPart readValue
  cases source with
  | bool truth =>
      obtain rfl : truth = part := Option.some.inj readPart
      simpa [value?, eq_comm] using readValue
  | _ => cases readPart

/-- A value kept as it is is written as it was read. -/
theorem faithful_value : Faithful room (value? room) id :=
  fun _ _ _ readPart readValue => Option.some.inj (readValue.symm.trans readPart)

/-- The value of an array lists the values of its items. -/
theorem value?_array_eq_some_iff {source : Written} {items : List Written}
    (array : source.array? = some items) {value : Json} :
    value? room source = some value ↔ 1 < room ∧
      ∃ values, List.Forall₂ (fun item value => value? (room - 1) item = some value) items values ∧
        value = .array values := by
  cases source with
  | array sources =>
      obtain rfl : sources = items := Option.some.inj array
      rw [value?]
      split
      · rename_i shallow
        simp [Nat.not_lt.mpr shallow]
      · rename_i deep
        simp only [Option.map_eq_some_iff, values?_eq_some_iff, Nat.lt_of_not_le deep, true_and]
        constructor
        · rintro ⟨values, parts, same⟩
          exact ⟨values, parts, same.symm⟩
        · rintro ⟨values, parts, same⟩
          exact ⟨values, parts, same.symm⟩
  | _ => cases array

/-- Arrays are written as they were read when their items are. -/
theorem faithful_items {read : Written → Option α} {write : α → Json}
    (faithful : Faithful (room - 1) read write) :
    Faithful room (fun items => do (<- items.array?).mapM read)
      (fun parts => .array (parts.map write)) := by
  intro source parts value readParts readValue
  obtain ⟨items, array, readItems⟩ := Option.bind_eq_some_iff.mp readParts
  obtain ⟨_, values, valueParts, rfl⟩ := (value?_array_eq_some_iff array).mp readValue
  have readEach := mapM_eq_some_iff.mp readItems
  clear readItems array readParts readValue
  congr 1
  induction readEach generalizing values with
  | nil =>
      cases valueParts
      rfl
  | cons readItem _ inductionHypothesis =>
      cases valueParts with
      | cons readFirst readLater =>
          rw [faithful _ _ _ readItem readFirst, inductionHypothesis _ readLater, List.map_cons]

/-- Arrays of texts are written as they were read. -/
theorem faithful_texts : Faithful room texts? Json.strings :=
  faithful_items faithful_text

/-- A part that may be null is written as it was read when the part itself is, and null as null. -/
theorem faithful_nullable {read : Written → Option α} {write : α → Json}
    (faithful : Faithful room read write) :
    Faithful room (nullable? read) (fun part => (part.map write).getD .null) := by
  intro source part value readPart readValue
  have present (notNull : nullable? read source = (read source).map some) :
      value = (part.map write).getD .null := by
    rw [notNull] at readPart
    obtain ⟨held, readHeld, rfl⟩ := Option.map_eq_some_iff.mp readPart
    exact faithful source held value readHeld readValue
  cases source with
  | null =>
      obtain rfl : none = part := Option.some.inj readPart
      simpa [value?, eq_comm] using readValue
  | _ => exact present rfl

/-- The value that an object has under a name of a known field is what the field has been read as,
written again. -/
theorem eq_write_of_find? {read : Written → Option α} {write : α → Json} {absent part : α}
    {texts : List String} {fields : List (String × Written)} {values : List (String × Json)}
    (faithful : Faithful room read write) (readField : field? fields texts absent read = some part)
    (parts : List.Forall₂ (ReadAs room) fields values) {name : String} {value : Json}
    (present : find? name (ofList values) = some value) (named : name ∈ texts) :
    value = write part := by
  obtain ⟨found, single, readFound⟩ := field?_eq_some_iff.mp readField
  obtain ⟨source, rfl, readValue⟩ := exists_of_find? single parts present named
  exact faithful source part value readFound readValue

/-- Fields keep their names when they are read. -/
theorem names_eq_of_readAs {fields : List (String × Written)} {values : List (String × Json)}
    (parts : List.Forall₂ (ReadAs room) fields values) : names values = names fields := by
  induction parts with
  | nil => rfl
  | cons first _ inductionHypothesis =>
      exact congrArg₂ List.cons first.1.symm inductionHypothesis

/-- The empty array is read wherever two levels of nesting are left. -/
theorem value?_array_nil (deep : 1 < room) : value? room (.array []) = some (.array []) :=
  (value?_array_eq_some_iff rfl).mpr ⟨deep, [], .nil, rfl⟩

/-- The empty object is read wherever two levels of nesting are left. -/
theorem value?_object_nil (deep : 1 < room) : value? room (.object []) = some (.object []) :=
  have empty : object? (.object []) = some [] := rfl
  (value?_object_eq_some_iff empty).mpr ⟨deep, [], .nil, rfl⟩

/-- A known field is read from a source whose value is what the object has under the field's name,
or the value of `empty` when the field is missing. -/
theorem exists_source (empty : Written) (emptyValue : Json) {read : Written → Option α}
    {absent part : α} {name : String} {fields : List (String × Written)}
    {values : List (String × Json)} (readField : field? fields [name] absent read = some part)
    (parts : List.Forall₂ (ReadAs room) fields values) (readEmpty : read empty = some absent)
    (valueEmpty : value? room empty = some emptyValue) :
    ∃ source, read source = some part ∧
      value? room source = some ((find? name (ofList values)).getD emptyValue) := by
  obtain ⟨found, single, readFound⟩ := field?_eq_some_iff.mp readField
  cases held : find? name (ofList values) with
  | some value =>
      obtain ⟨source, rfl, readValue⟩ := exists_of_find? single parts held List.mem_cons_self
      exact ⟨source, readFound, readValue⟩
  | none =>
      cases found with
      | none =>
          obtain rfl : absent = part := Option.some.inj readFound
          exact ⟨empty, readEmpty, valueEmpty⟩
      | some source =>
          obtain ⟨other, named, inFields⟩ := exists_mem_of_single? single
          obtain rfl := List.mem_singleton.mp named
          rw [find?_ofList, find?_eq_none_iff] at held
          refine absurd ?_ held
          have inValues : other ∈ names values := by
            rw [names_eq_of_readAs parts]
            exact List.mem_map_of_mem inFields
          simpa [names] using inValues

/-! ## Values of written objects -/

/-- What is found among the values of fields is the value of what is found among the fields. -/
theorem find?_of_readAs {fields values : List (String × Json)}
    (parts : List.Forall₂ (ReadAs room) (writtenByName fields) values) (name : String) :
    find? name values = (find? name fields).bind fun value => value? room value.written := by
  rw [writtenByName, List.forall₂_map_left_iff] at parts
  induction parts with
  | nil => rfl
  | cons first _ inductionHypothesis =>
      rw [find?_cons, find?_cons, inductionHypothesis, ← first.1]
      split
      · exact first.2.symm
      · rfl

/-- An object whose fields have different names and values has a value, which holds the value of
every field under its name. -/
theorem exists_value?_object {fields : List (String × Json)} (deep : 1 < room)
    (distinct : (names fields).Nodup)
    (readable : ∀ field ∈ fields, ∃ value, value? (room - 1) field.2.written = some value) :
    ∃ kept, value? room (Json.object fields).written = some (.object kept) ∧
      ∀ name, find? name kept =
        (find? name fields).bind fun value => value? (room - 1) value.written := by
  obtain ⟨values, parts⟩ : ∃ values,
      List.Forall₂ (ReadAs (room - 1)) (writtenByName fields) values := by
    simp only [writtenByName, List.forall₂_map_left_iff]
    clear distinct
    induction fields with
    | nil => exact ⟨[], .nil⟩
    | cons field later inductionHypothesis =>
        obtain ⟨⟨value, readValue⟩, readLater⟩ := List.forall_mem_cons.mp readable
        obtain ⟨values, parts⟩ := inductionHypothesis readLater
        exact ⟨(field.1, value) :: values, .cons ⟨rfl, readValue⟩ parts⟩
  refine ⟨ofList values, (value?_object_eq_some_iff (object?_written fields)).mpr
    ⟨deep, values, parts, rfl⟩, fun name => ?_⟩
  rw [find?_ofList_of_nodup, find?_of_readAs parts]
  rwa [names_eq_of_readAs parts, names_writtenByName]

/-- A list of texts has itself for its value. -/
@[simp] theorem value?_strings (deep : 1 < room) (texts : List String) :
    value? room (Json.strings texts).written = some (Json.strings texts) := by
  refine (value?_array_eq_some_iff (array?_written _)).mpr ⟨deep, texts.map .string, ?_, rfl⟩
  rw [List.map_map, List.forall₂_map_left_iff, List.forall₂_map_right_iff]
  exact List.forall₂_same.mpr fun _ _ => rfl

end ContractAtlas.Json.Written
