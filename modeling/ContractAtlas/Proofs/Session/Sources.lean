import ContractAtlas.Proofs.Json.Faithful
import ContractAtlas.Proofs.Session.Reading

/-!
# What a session is read from

A document has a value as JSON, and it has a session. `Session.ReadFrom` ties the two together, part
by part: what each part of the session was read from has the value that the document holds under the
part's name. In particular a session has no numbers but those of its document.
-/

namespace ContractAtlas

open Json Json.SortedFields

namespace Session

/-- What the parts of a session are read from: the values that a document has under their names, or
those of empty parts where it has none. -/
structure ReadFrom (room : Nat) (before : List (String × Json)) (session : Session) : Prop where
  network : ∃ source, NetworkInfo.ofWritten? source = some session.networkInfo ∧
    Written.value? (room - 1) source = some ((find? "network_info" before).getD (.object []))
  contract : ∃ source, ContractData.ofWritten? (room - 1 - 1) source = some session.contractData ∧
    Written.value? (room - 1) source = some ((find? "contract_data" before).getD (.object []))
  functions : ∃ source, Written.value? (room - 1) source = some (.array session.functions) ∧
    (find? "functions_data" before).getD (.array []) = .array session.functions
  stateVariables : ∃ sources values,
    List.Forall₂ (fun source declared =>
      StateVariable.ofWritten? (room - 1 - 1 - 1) source = some declared) sources
      session.stateVariables ∧
    List.Forall₂ (fun source value => Written.value? (room - 1 - 1) source = some value) sources
      values ∧
    (find? "variables_data" before).getD (.array []) = .array values
  scanResults : ∃ source, Written.value? (room - 1) source = some session.scanResults ∧
    (find? "scan_results" before).getD .null = session.scanResults
  preserved : Written.Preserved (room - 1) knownFields session.extra
  unknown : ∀ name ∉ knownFields, find? name session.extra = find? name before

/-- The parts of a session are read from the fields of the object that it is read from. -/
theorem readFrom_of_ofWritten? {room : Nat} (deep : 3 < room) {source : Written}
    {session : Session} {before : List (String × Json)}
    (read : ofWritten? room source = some session)
    (readValue : Written.value? room source = some (.object before)) :
    ReadFrom room before session := by
  obtain ⟨fields, object, readInfo, readContract, readFunctions, readVariables, readResults,
    readExtra⟩ := ofWritten?_eq_some_iff.mp read
  obtain ⟨_, values, parts, same⟩ := (Written.value?_object_eq_some_iff object).mp readValue
  obtain rfl : before = ofList values := by simpa using same
  have inner : 1 < room - 1 := by omega
  -- A part that the document leaves out is read as if it were there and empty.
  refine ⟨?_, ?_, ?_, ?_, ?_, Written.preserved_of_extra? readExtra,
    fun _ unknown => Written.find?_extra? readExtra parts unknown⟩
  · exact Written.exists_source (.object []) _ readInfo parts rfl (Written.value?_object_nil inner)
  · exact Written.exists_source (.object []) _ readContract parts rfl
      (Written.value?_object_nil inner)
  · obtain ⟨source, readPart, readValue⟩ := Written.exists_source (.array []) _ readFunctions parts
      rfl (Written.value?_array_nil inner)
    have same := Written.faithful_items Written.faithful_value _ _ _ readPart readValue
    simp only [List.map_id] at same
    exact ⟨source, same ▸ readValue, same⟩
  · obtain ⟨source, readPart, readValue⟩ := Written.exists_source (.array []) _ readVariables parts
      rfl (Written.value?_array_nil inner)
    obtain ⟨items, array, readItems⟩ := Option.bind_eq_some_iff.mp readPart
    obtain ⟨_, values, valueParts, same⟩ :=
      (Written.value?_array_eq_some_iff array).mp readValue
    exact ⟨items, values, mapM_eq_some_iff.mp readItems, valueParts, same⟩
  · obtain ⟨source, readPart, readValue⟩ := Written.exists_source .null _ readResults parts rfl rfl
    exact ⟨source, readPart, Written.faithful_value _ _ _ readPart readValue⟩

end Session

/-! ## Numbers -/

/-- There are no numbers in texts. -/
theorem Json.numbers_strings (texts : List String) : (Json.strings texts).numbers = [] := by
  rw [Json.strings, numbers, List.eq_nil_iff_forall_not_mem]
  intro number member
  obtain ⟨item, inside, held⟩ := mem_itemNumbers.mp member
  obtain ⟨text, _, rfl⟩ := List.mem_map.mp inside
  cases held

/-- There are no numbers in fields of texts. -/
theorem numbers_textFieldsToJson (fields : List (String × String)) :
    (textFieldsToJson fields).numbers = [] := by
  rw [textFieldsToJson, numbers, List.eq_nil_iff_forall_not_mem]
  intro number member
  obtain ⟨field, inside, held⟩ := mem_fieldNumbers.mp member
  obtain ⟨text, _, rfl⟩ := List.mem_map.mp inside
  cases held

/-- The numbers of two lists of fields come one after the other. -/
theorem Json.fieldNumbers_append (first second : List (String × Json)) :
    fieldNumbers (first ++ second) = fieldNumbers first ++ fieldNumbers second := by
  induction first with
  | nil => rfl
  | cons field later inductionHypothesis =>
      rw [List.cons_append, fieldNumbers, fieldNumbers, inductionHypothesis, List.append_assoc]

/-- There are no numbers in a network part. -/
theorem NetworkInfo.numbers_toJson (info : NetworkInfo) : info.toJson.numbers = [] := by
  obtain ⟨_, _, _, checked, _⟩ := info
  cases checked <;> rfl

/-- The numbers of a variable are those of the fields that it preserves. -/
theorem StateVariable.numbers_toJson (declared : StateVariable) :
    declared.toJson.numbers = fieldNumbers declared.extra := by
  obtain ⟨_, _, body, _, address, _⟩ := declared
  cases body <;> cases address <;> rfl

/-- The numbers of a contract part are those of the fields that it preserves. -/
theorem ContractData.numbers_toJson (contract : ContractData) :
    contract.toJson.numbers = fieldNumbers contract.extra := by
  have known : fieldNumbers contract.knownPart = [] := by
    obtain ⟨_, _, calls, addresses, _⟩ := contract
    cases calls <;> cases addresses <;>
      simp [knownPart, optionalField, fieldNumbers, numbers_strings, numbers_textFieldsToJson]
  rw [toJson_eq, numbers, fieldNumbers_append, known, List.nil_append]

/-- The numbers of a session are those of the parts that it keeps as they are. -/
theorem Session.mem_numbers_toJson {session : Session} {number : Decimal.Number} :
    number ∈ session.toJson.numbers ↔ number ∈ fieldNumbers session.contractData.extra ∨
      number ∈ itemNumbers session.functions ∨
      (∃ declared ∈ session.stateVariables, number ∈ fieldNumbers declared.extra) ∨
      number ∈ session.scanResults.numbers ∨ number ∈ fieldNumbers session.extra := by
  simp [toJson_eq, knownPart, numbers, fieldNumbers, NetworkInfo.numbers_toJson,
    ContractData.numbers_toJson, mem_itemNumbers, StateVariable.numbers_toJson]

/-- Preserved fields have no numbers but those of the object that they stood in. -/
theorem mem_fieldNumbers_of_preserved {room : Nat} {knownNames : List String}
    {extra before : List (String × Json)} (preserved : Written.Preserved room knownNames extra)
    (unknownSame : ∀ name ∉ knownNames, find? name extra = find? name before)
    {number : Decimal.Number} (member : number ∈ fieldNumbers extra) :
    number ∈ fieldNumbers before := by
  obtain ⟨field, inExtra, held⟩ := mem_fieldNumbers.mp member
  have found := (find?_eq_some_iff preserved.sorted.nodup).mpr inExtra
  rw [unknownSame _ (preserved.unknown field inExtra)] at found
  exact mem_fieldNumbers.mpr ⟨field, mem_of_find? found, held⟩

/-- The numbers that a variable preserves stand in what it was read from. -/
theorem StateVariable.mem_numbers_of_ofWritten? {room : Nat} {source : Written}
    {declared : StateVariable} {value : Json} (read : ofWritten? (room - 1) source = some declared)
    (readValue : Written.value? room source = some value) {number : Decimal.Number}
    (member : number ∈ fieldNumbers declared.extra) : number ∈ value.numbers := by
  obtain ⟨fields, object, _, _, _, _, _, readExtra⟩ := ofWritten?_eq_some_iff.mp read
  obtain ⟨_, values, parts, rfl⟩ := (Written.value?_object_eq_some_iff object).mp readValue
  exact mem_fieldNumbers_of_preserved (Written.preserved_of_extra? readExtra)
    (fun _ unknown => Written.find?_extra? readExtra parts unknown) member

/-- The numbers that a contract part preserves stand in what it was read from. -/
theorem ContractData.mem_numbers_of_ofWritten? {room : Nat} {source : Written}
    {contract : ContractData} {value : Json} (read : ofWritten? (room - 1) source = some contract)
    (readValue : Written.value? room source = some value) {number : Decimal.Number}
    (member : number ∈ fieldNumbers contract.extra) : number ∈ value.numbers := by
  obtain ⟨fields, object, _, _, _, _, readExtra⟩ := ofWritten?_eq_some_iff.mp read
  obtain ⟨_, values, parts, rfl⟩ := (Written.value?_object_eq_some_iff object).mp readValue
  exact mem_fieldNumbers_of_preserved (Written.preserved_of_extra? readExtra)
    (fun _ unknown => Written.find?_extra? readExtra parts unknown) member

/-- The numbers of a part that is empty when it is missing stand in the object that it was read
from. -/
theorem mem_numbers_of_getD {before : List (String × Json)} {name : String} {empty value : Json}
    (plain : empty.numbers = []) (same : (find? name before).getD empty = value)
    {number : Decimal.Number} (member : number ∈ value.numbers) :
    number ∈ (Json.object before).numbers := by
  subst same
  cases present : find? name before with
  | none =>
      rw [present, Option.getD_none, plain] at member
      cases member
  | some value =>
      rw [present] at member
      exact mem_fieldNumbers.mpr ⟨_, mem_of_find? present, member⟩

/-- A session has no numbers but those of the document that it was read from. -/
theorem Session.ReadFrom.mem_numbers {room : Nat} {before : List (String × Json)}
    {session : Session} (readFrom : ReadFrom room before session) {number : Decimal.Number}
    (member : number ∈ session.toJson.numbers) : number ∈ (Json.object before).numbers := by
  obtain inContract | inFunctions | ⟨declared, isDeclared, inVariable⟩ | inResults | inExtra :=
    mem_numbers_toJson.mp member
  · obtain ⟨source, read, readValue⟩ := readFrom.contract
    exact mem_numbers_of_getD rfl rfl
      (ContractData.mem_numbers_of_ofWritten? read readValue inContract)
  · obtain ⟨_, _, same⟩ := readFrom.functions
    exact mem_numbers_of_getD rfl same inFunctions
  · obtain ⟨sources, values, read, readValues, same⟩ := readFrom.stateVariables
    obtain ⟨source, readSource, value, inValues, readValue⟩ :=
      exists_of_mem_of_forall₂ read readValues isDeclared
    refine mem_numbers_of_getD rfl same (mem_itemNumbers.mpr ⟨value, inValues, ?_⟩)
    exact StateVariable.mem_numbers_of_ofWritten? readSource readValue inVariable
  · obtain ⟨_, _, same⟩ := readFrom.scanResults
    exact mem_numbers_of_getD rfl same inResults
  · exact mem_fieldNumbers_of_preserved readFrom.preserved readFrom.unknown inExtra

end ContractAtlas
