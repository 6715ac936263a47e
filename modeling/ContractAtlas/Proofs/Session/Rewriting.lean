import ContractAtlas.Proofs.Session.Sources

/-!
# Sessions read from their own texts

A session may have numbers that its text does not denote, and then it is not read from its text as
it was. Its network part has no numbers, nor do its resolved addresses, so whatever is read from the
text has the same network part, and is enriched if the session is.
-/

namespace ContractAtlas

open Json

/-- The fields that the text of an object is read as, by name. -/
theorem Json.Written.object?_reread (fields : List (String × Json)) :
    object? (Json.object fields).reread =
      some (fields.map fun field => (field.1, field.2.reread)) := by
  rw [Json.reread, object?, namedFields?_eq_some_iff, rereadFields_eq_map, List.map_map]
  rfl

/-- A known field that an object has is read from the text of its value. -/
theorem Json.Written.read_of_field? {α : Type} {fields : List (String × Json)} {name : String}
    {value : Json} (member : (name, value) ∈ fields) {absent part : α} {read : Written → Option α}
    (readField : field? (fields.map fun field => (field.1, field.2.reread)) [name] absent read =
      some part) : read value.reread = some part := by
  obtain ⟨found, single, readFound⟩ := field?_eq_some_iff.mp readField
  have isValue := eq_of_single? single
    (List.mem_map_of_mem (f := fun field => (field.1, field.2.reread)) member)
    (List.mem_singleton_self name)
  rwa [isValue] at readFound

/-- A network part without its unknown fields is read as it was. -/
theorem NetworkInfo.ofWritten?_reread (info : NetworkInfo) :
    ofWritten? info.toJson.reread = some info := by
  rw [reread_eq_written (by simp [info.numbers_toJson]), ofWritten?_toJson]

/-- A contract part with resolved addresses is read as one that has some. -/
theorem ContractData.isSome_externalAddresses_of_reread {room : Nat} {contract read : ContractData}
    (readAgain : ofWritten? room contract.toJson.reread = some read)
    (resolved : contract.externalAddresses.isSome = true) :
    read.externalAddresses.isSome = true := by
  obtain ⟨addresses, present⟩ := Option.isSome_iff_exists.mp resolved
  obtain ⟨fields, object, _, _, _, readAddresses, _⟩ := ofWritten?_eq_some_iff.mp readAgain
  rw [toJson_eq, Written.object?_reread, Option.some.injEq] at object
  have member : ("external_addresses", textFieldsToJson addresses) ∈
      contract.knownPart ++ contract.extra := by
    simp [knownPart, optionalField, present]
  have readPart := Written.read_of_field? member (object ▸ readAddresses)
  -- The addresses are an object, and only a null would be read as none.
  rw [textFieldsToJson, reread] at readPart
  obtain ⟨texts, _, isTexts⟩ := Option.map_eq_some_iff.mp readPart
  simp [← isTexts]

namespace Session

/-- What is read from the text of a session has its network part, and is enriched if it is. -/
theorem eq_networkInfo_of_read?_write {session again : Session}
    (read : read? session.write = some again) :
    again.networkInfo = session.networkInfo ∧
      (session.isEnriched = true → again.isEnriched = true) := by
  rw [read?, write, Written.read?_toPrettyText_eq_reread] at read
  obtain ⟨fields, object, readInfo, readContract, _⟩ := ofWritten?_eq_some_iff.mp read
  rw [toJson_eq, Written.object?_reread, Option.some.injEq] at object
  subst object
  have info : ("network_info", session.networkInfo.toJson) ∈ session.knownPart ++ session.extra := by
    simp [knownPart]
  have contract : ("contract_data", session.contractData.toJson) ∈
      session.knownPart ++ session.extra := by
    simp [knownPart]
  have readInfo := Written.read_of_field? info readInfo
  have readContract := Written.read_of_field? contract readContract
  rw [NetworkInfo.ofWritten?_reread] at readInfo
  exact ⟨(Option.some.inj readInfo).symm,
    ContractData.isSome_externalAddresses_of_reread readContract⟩

end Session

end ContractAtlas
