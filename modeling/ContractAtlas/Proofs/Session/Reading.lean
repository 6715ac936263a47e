import ContractAtlas.Proofs.Json.Fields
import ContractAtlas.Proofs.Json.Text
import ContractAtlas.Session.Reader
import ContractAtlas.Session.Writer

/-!
# Sessions read back

A session that was read from a document is read again from the document that it is written as, on
the level of written objects (`Session.ofWritten?_toJson`) and of texts (`Session.read?_write`). The
reader and the writer of each part are described by one law each: what the reader takes from an
object, field by field, and under which names the written object holds the fields.
-/

namespace ContractAtlas

open Json Json.SortedFields

/-! ## Optional fields -/

/-- An optional field is found under its name when it has a value. -/
theorem find?_optionalField {α : Type} (name other : String) (write : α → Json)
    (value : Option α) :
    find? other (optionalField name write value) =
      if name = other then value.map write else none := by
  cases value with
  | none => simp [optionalField]
  | some value => rfl

/-- An optional part that is written is read back when the part itself is. -/
theorem optional?_nullable? {α : Type} {write : α → Json} {read : Written → Option α}
    (value : Option α) (reads : ∀ part, value = some part →
      Written.nullable? read (write part).written = some (some part)) :
    Written.optional? none (Written.nullable? read) (value.map (Json.written ∘ write)) =
      some value := by
  cases value with
  | none => rfl
  | some part => exact reads part rfl

/-- A text that may be null is read back. -/
theorem nullable?_text (text : String) :
    Written.nullable? Written.text? (Json.string text).written = some (some text) := rfl

/-- Texts that may be null are read back. -/
theorem nullable?_texts (texts : List String) :
    Written.nullable? Written.texts? (Json.strings texts).written = some (some texts) :=
  congrArg (Option.map some) (Written.texts?_written texts)

/-! ## The network part -/

namespace NetworkInfo

/-- The network part is read from whatever document it is written as. -/
theorem ofWritten?_toJson (info : NetworkInfo) : ofWritten? info.toJson.written = some info := by
  obtain ⟨name, address, network, checked, directory⟩ := info
  cases checked <;>
    simp [toJson, optionalField, Json.written, writtenFields, ofWritten?, Written.namedFields?,
      ofFields?, Written.field?, Written.single?, Written.optional?, Written.text?,
      Written.nullable?]

end NetworkInfo

/-! ## Variables -/

namespace StateVariable

/-- What a variable is read from: the fields of an object, each under its name. -/
theorem ofWritten?_eq_some_iff {room : Nat} {source : Written} {declared : StateVariable} :
    ofWritten? room source = some declared ↔ ∃ fields, source.object? = some fields ∧
      Written.field? fields ["variable_name"] "" Written.text? = some declared.name ∧
      Written.field? fields ["variable_type"] "" Written.text? = some declared.type ∧
      Written.field? fields ["variable_body"] none (Written.nullable? Written.text?) =
        some declared.body ∧
      Written.field? fields ["is_variable"] false Written.bool? = some declared.isVariable ∧
      Written.field? fields ["address"] none (Written.nullable? Written.text?) =
        some declared.address ∧
      Written.extra? room knownFields fields = some declared.extra := by
  simp only [ofWritten?, Option.bind_eq_bind, Option.bind_eq_some_iff, Option.pure_def,
    Option.some.injEq]
  constructor
  · rintro ⟨fields, object, name, readName, type, readType, body, readBody, kind, readKind, address,
      readAddress, extra, readExtra, rfl⟩
    exact ⟨fields, object, readName, readType, readBody, readKind, readAddress, readExtra⟩
  · rintro ⟨fields, object, readName, readType, readBody, readKind, readAddress, readExtra⟩
    exact ⟨fields, object, _, readName, _, readType, _, readBody, _, readKind, _, readAddress, _,
      readExtra, rfl⟩

/-- The known fields of a variable as they are written. -/
def knownPart (declared : StateVariable) : List (String × Json) :=
  [("variable_name", .string declared.name), ("variable_type", .string declared.type)] ++
    optionalField "variable_body" .string declared.body ++
    [("is_variable", .bool declared.isVariable)] ++
    optionalField "address" .string declared.address

/-- A variable is written as its known part and the fields that it preserves. -/
theorem toJson_eq (declared : StateVariable) :
    declared.toJson = .object (declared.knownPart ++ declared.extra) := rfl

/-- The known part of a variable has known names, in their order. -/
theorem names_knownPart_sublist (declared : StateVariable) :
    (names declared.knownPart).Sublist knownFields := by
  obtain ⟨name, type, body, kind, address, extra⟩ := declared
  cases body <;> cases address <;> simp [knownPart, optionalField, names, knownFields]

/-- A variable whose preserved fields can be read is read back. -/
theorem ofWritten?_toJson {room : Nat} {declared : StateVariable}
    (preserved : Written.Preserved room knownFields declared.extra) :
    ofWritten? room declared.toJson.written = some declared := by
  have field? {name : String} (isKnown : name ∈ knownFields) {α : Type} (absent : α)
      (read : Written → Option α) :=
    Written.field?_written preserved (by decide) declared.names_knownPart_sublist isKnown absent
      read
  refine ofWritten?_eq_some_iff.mpr ⟨writtenByName (declared.knownPart ++ declared.extra),
    Written.object?_written _, ?_, ?_, ?_, ?_, ?_, Written.extra?_written preserved
      declared.names_knownPart_sublist⟩
  · rw [field? (by decide)]
    rfl
  · rw [field? (by decide)]
    rfl
  · rw [field? (by decide)]
    simpa [knownPart, find?_cons, find?_append, find?_optionalField] using
      optional?_nullable? declared.body fun text _ => nullable?_text text
  · rw [field? (by decide)]
    simp [knownPart, find?_cons, find?_append, find?_optionalField, Written.optional?,
      Json.written, Written.bool?]
  · rw [field? (by decide)]
    simpa [knownPart, find?_cons, find?_append, find?_optionalField] using
      optional?_nullable? declared.address fun text _ => nullable?_text text

/-- A variable that has been read has preserved fields that can be read. -/
theorem preserved_of_ofWritten? {room : Nat} {source : Written} {declared : StateVariable}
    (read : ofWritten? room source = some declared) :
    Written.Preserved room knownFields declared.extra := by
  obtain ⟨_, _, _, _, _, _, _, readExtra⟩ := ofWritten?_eq_some_iff.mp read
  exact Written.preserved_of_extra? readExtra

end StateVariable

/-! ## The contract part -/

/-- Sorted fields of texts are read back. -/
theorem textFields?_written {fields : List (String × String)} (sorted : Sorted fields) :
    Written.textFields? (textFieldsToJson fields).written = some fields := by
  have texts : (writtenByName (fields.map fun field => (field.1, Json.string field.2))).mapM
      (fun field => field.2.text?.map fun text => (field.1, text)) = some fields := by
    rw [writtenByName, List.map_map, mapM_eq_some_iff, List.forall₂_map_left_iff]
    exact List.forall₂_same.mpr fun _ _ => rfl
  rw [textFieldsToJson, Written.textFields?, Written.object?_written]
  simp [texts, ofList_eq_self sorted]

/-- Fields of texts that have been read are sorted. -/
theorem sorted_of_textFields? {source : Written} {fields : List (String × String)}
    (read : Written.textFields? source = some fields) : Sorted fields := by
  simp only [Written.textFields?, Option.bind_eq_bind, Option.bind_eq_some_iff, Option.pure_def,
    Option.some.injEq] at read
  obtain ⟨_, _, texts, _, rfl⟩ := read
  exact sorted_ofList texts

namespace ContractData

/-- What the contract part is read from: the fields of an object, each under its name. -/
theorem ofWritten?_eq_some_iff {room : Nat} {source : Written} {contract : ContractData} :
    ofWritten? room source = some contract ↔ ∃ fields, source.object? = some fields ∧
      Written.field? fields ["all_library_calls"] [] Written.texts? =
        some contract.allLibraryCalls ∧
      Written.field? fields ["all_external_calls"] [] Written.texts? =
        some contract.allExternalCalls ∧
      Written.field? fields ["external_calls"] none (Written.nullable? Written.texts?) =
        some contract.externalCalls ∧
      Written.field? fields ["external_addresses"] none (Written.nullable? Written.textFields?) =
        some contract.externalAddresses ∧
      Written.extra? room knownFields fields = some contract.extra := by
  simp only [ofWritten?, Option.bind_eq_bind, Option.bind_eq_some_iff, Option.pure_def,
    Option.some.injEq]
  constructor
  · rintro ⟨fields, object, libraryCalls, readLibraryCalls, allCalls, readAllCalls, calls,
      readCalls, addresses, readAddresses, extra, readExtra, rfl⟩
    exact ⟨fields, object, readLibraryCalls, readAllCalls, readCalls, readAddresses, readExtra⟩
  · rintro ⟨fields, object, readLibraryCalls, readAllCalls, readCalls, readAddresses, readExtra⟩
    exact ⟨fields, object, _, readLibraryCalls, _, readAllCalls, _, readCalls, _, readAddresses, _,
      readExtra, rfl⟩

/-- The known fields of the contract part as they are written. -/
def knownPart (contract : ContractData) : List (String × Json) :=
  [("all_library_calls", Json.strings contract.allLibraryCalls),
   ("all_external_calls", Json.strings contract.allExternalCalls)] ++
    optionalField "external_calls" Json.strings contract.externalCalls ++
    optionalField "external_addresses" textFieldsToJson contract.externalAddresses

/-- A contract part is written as its known part and the fields that it preserves. -/
theorem toJson_eq (contract : ContractData) :
    contract.toJson = .object (contract.knownPart ++ contract.extra) := rfl

/-- The known part has known names, in their order. -/
theorem names_knownPart_sublist (contract : ContractData) :
    (names contract.knownPart).Sublist knownFields := by
  obtain ⟨libraryCalls, allCalls, calls, addresses, extra⟩ := contract
  cases calls <;> cases addresses <;> simp [knownPart, optionalField, names, knownFields]

/-- The state in which reading leaves the contract part. -/
structure AsRead (room : Nat) (contract : ContractData) : Prop where
  sorted : ∀ addresses, contract.externalAddresses = some addresses → Sorted addresses
  preserved : Written.Preserved room knownFields contract.extra

/-- An empty contract part is in the state in which reading leaves one. -/
theorem asRead_empty (room : Nat) : AsRead room {} where
  sorted _ present := by cases present
  preserved := ⟨sorted_nil, List.forall_mem_nil _, List.forall_mem_nil _⟩

/-- What has been read of a contract is in the state in which reading leaves it. -/
theorem asRead_of_ofWritten? {room : Nat} {source : Written} {contract : ContractData}
    (read : ofWritten? room source = some contract) : AsRead room contract := by
  obtain ⟨fields, _, _, _, _, readAddresses, readExtra⟩ := ofWritten?_eq_some_iff.mp read
  refine ⟨fun addresses present => ?_, Written.preserved_of_extra? readExtra⟩
  obtain ⟨_, readFields⟩ := Written.exists_of_nullable? (present ▸ readAddresses)
  exact sorted_of_textFields? readFields

/-- A contract part in the state in which reading leaves it is read back. -/
theorem ofWritten?_toJson {room : Nat} {contract : ContractData} (asRead : AsRead room contract) :
    ofWritten? room contract.toJson.written = some contract := by
  have field? {name : String} (isKnown : name ∈ knownFields) {α : Type} (absent : α)
      (read : Written → Option α) :=
    Written.field?_written asRead.preserved (by decide) contract.names_knownPart_sublist isKnown
      absent read
  refine ofWritten?_eq_some_iff.mpr ⟨writtenByName (contract.knownPart ++ contract.extra),
    Written.object?_written _, ?_, ?_, ?_, ?_, Written.extra?_written asRead.preserved
      contract.names_knownPart_sublist⟩
  · rw [field? (by decide)]
    exact Written.texts?_written contract.allLibraryCalls
  · rw [field? (by decide)]
    exact Written.texts?_written contract.allExternalCalls
  · rw [field? (by decide)]
    simpa [knownPart, find?_cons, find?_append, find?_optionalField] using
      optional?_nullable? contract.externalCalls fun texts _ => nullable?_texts texts
  · rw [field? (by decide)]
    have readFields : ∀ addresses, contract.externalAddresses = some addresses →
        Written.nullable? Written.textFields? (textFieldsToJson addresses).written =
          some (some addresses) := fun addresses present =>
      congrArg (Option.map some) (textFields?_written (asRead.sorted addresses present))
    simpa [knownPart, find?_cons, find?_append, find?_optionalField] using
      optional?_nullable? contract.externalAddresses readFields

end ContractData

/-! ## The session -/

namespace Session

/-- What a session is read from: the fields of an object, each under its name. -/
theorem ofWritten?_eq_some_iff {room : Nat} {source : Written} {session : Session} :
    ofWritten? room source = some session ↔ ∃ fields, source.object? = some fields ∧
      Written.field? fields ["network_info"] {} NetworkInfo.ofWritten? =
        some session.networkInfo ∧
      Written.field? fields ["contract_data"] {} (ContractData.ofWritten? (room - 2)) =
        some session.contractData ∧
      Written.field? fields ["functions_data"] [] (fun functions => do
        (<- functions.array?).mapM (Written.value? (room - 2))) = some session.functions ∧
      Written.field? fields ["variables_data"] [] (fun stateVariables => do
        (<- stateVariables.array?).mapM (StateVariable.ofWritten? (room - 3))) =
          some session.stateVariables ∧
      Written.field? fields ["scan_results"] .null (Written.value? (room - 1)) =
        some session.scanResults ∧
      Written.extra? (room - 1) knownFields fields = some session.extra := by
  simp only [ofWritten?, Option.bind_eq_bind, Option.bind_eq_some_iff, Option.pure_def,
    Option.some.injEq]
  constructor
  · rintro ⟨fields, object, info, readInfo, contract, readContract, functions, readFunctions,
      stateVariables, readVariables, results, readResults, extra, readExtra, rfl⟩
    exact ⟨fields, object, readInfo, readContract, readFunctions, readVariables, readResults,
      readExtra⟩
  · rintro ⟨fields, object, readInfo, readContract, readFunctions, readVariables, readResults,
      readExtra⟩
    exact ⟨fields, object, _, readInfo, _, readContract, _, readFunctions, _, readVariables, _,
      readResults, _, readExtra, rfl⟩

/-- The known fields of a session as they are written. -/
def knownPart (session : Session) : List (String × Json) :=
  [("network_info", session.networkInfo.toJson),
   ("contract_data", session.contractData.toJson),
   ("functions_data", .array session.functions),
   ("variables_data", .array (session.stateVariables.map StateVariable.toJson)),
   ("scan_results", session.scanResults)]

/-- A session is written as its known part and the fields that it preserves. -/
theorem toJson_eq (session : Session) :
    session.toJson = .object (session.knownPart ++ session.extra) := rfl

/-- The state in which reading leaves a session, in a place that has `room` levels of nesting. -/
structure AsRead (room : Nat) (session : Session) : Prop where
  contractData : session.contractData.AsRead (room - 2)
  functions : ∀ function ∈ session.functions,
    Written.value? (room - 2) function.written = some function
  stateVariables : ∀ declared ∈ session.stateVariables,
    Written.Preserved (room - 3) StateVariable.knownFields declared.extra
  scanResults : Written.value? (room - 1) session.scanResults.written = some session.scanResults
  preserved : Written.Preserved (room - 1) knownFields session.extra

/-- What has been read of a session is in the state in which reading leaves it. -/
theorem asRead_of_ofWritten? {room : Nat} {source : Written} {session : Session}
    (read : ofWritten? room source = some session) : AsRead room session := by
  obtain ⟨fields, _, _, readContract, readFunctions, readVariables, readResults, readExtra⟩ :=
    ofWritten?_eq_some_iff.mp read
  refine ⟨?_, fun function member => ?_, fun declared member => ?_, ?_,
    Written.preserved_of_extra? readExtra⟩
  · obtain ⟨found, _, readFound⟩ := Written.field?_eq_some_iff.mp readContract
    cases found with
    | none => exact Option.some.inj readFound ▸ ContractData.asRead_empty (room - 2)
    | some part => exact ContractData.asRead_of_ofWritten? readFound
  · obtain ⟨item, readItem⟩ := Written.exists_of_mem_items readFunctions member
    exact Written.value?_written readItem
  · obtain ⟨item, readItem⟩ := Written.exists_of_mem_items readVariables member
    exact StateVariable.preserved_of_ofWritten? readItem
  · obtain ⟨found, _, readFound⟩ := Written.field?_eq_some_iff.mp readResults
    cases found with
    | none => exact Option.some.inj readFound ▸ rfl
    | some part => exact Written.value?_written readFound

/-- A session in the state in which reading leaves it is read from its own document. -/
theorem ofWritten?_toJson {room : Nat} {session : Session} (asRead : AsRead room session) :
    ofWritten? room session.toJson.written = some session := by
  have covered : (names session.knownPart).Sublist knownFields := .refl _
  have field? {name : String} (isKnown : name ∈ knownFields) {α : Type} (absent : α)
      (read : Written → Option α) :=
    Written.field?_written asRead.preserved (by decide) covered isKnown absent read
  refine ofWritten?_eq_some_iff.mpr ⟨writtenByName (session.knownPart ++ session.extra),
    Written.object?_written _, ?_, ?_, ?_, ?_, ?_, Written.extra?_written asRead.preserved covered⟩
  · rw [field? (by decide)]
    exact NetworkInfo.ofWritten?_toJson session.networkInfo
  · rw [field? (by decide)]
    exact ContractData.ofWritten?_toJson asRead.contractData
  · rw [field? (by decide)]
    have reads : ∀ function ∈ session.functions,
        Written.value? (room - 2) (id function).written = some function := asRead.functions
    have items := Written.items?_written reads
    rw [List.map_id] at items
    exact items
  · rw [field? (by decide)]
    exact Written.items?_written fun declared member =>
      StateVariable.ofWritten?_toJson (asRead.stateVariables declared member)
  · rw [field? (by decide)]
    exact asRead.scanResults

/-- A session in the state in which reading leaves it, whose numbers are integers, is read from its
own text. -/
theorem read?_write {session : Session} (asRead : AsRead Written.nestingLimit session)
    (integers : ∀ number ∈ session.toJson.numbers, number.IsInteger) :
    read? session.write = some session := by
  rw [read?, write, Written.read?_toPrettyText integers]
  exact ofWritten?_toJson asRead

/-- A session with nothing but its network part and its variables is as it was read. -/
theorem asRead_of_plain (networkInfo : NetworkInfo) (stateVariables : List StateVariable)
    (plain : ∀ declared ∈ stateVariables, declared.extra = []) :
    AsRead Written.nestingLimit { networkInfo, stateVariables } where
  contractData := ContractData.asRead_empty _
  functions := List.forall_mem_nil _
  stateVariables declared member := by
    rw [plain declared member]
    exact ⟨sorted_nil, List.forall_mem_nil _, List.forall_mem_nil _⟩
  scanResults := rfl
  preserved := ⟨sorted_nil, List.forall_mem_nil _, List.forall_mem_nil _⟩

/-- A session read from a text has the nesting limit as its room. -/
theorem asRead_of_read? {text : String} {session : Session} (read : read? text = some session) :
    AsRead Written.nestingLimit session := by
  obtain ⟨source, _, readSource⟩ := Option.bind_eq_some_iff.mp read
  exact asRead_of_ofWritten? readSource

/-- A session that was read from some text, and whose numbers are integers, is written as a text
that is read as an equal session, which is in turn written as the same text. -/
theorem rewritten_text_eq {text : String} {session : Session} (read : read? text = some session)
    (integers : ∀ number ∈ session.toJson.numbers, number.IsInteger) :
    ∃ reread, read? session.write = some reread ∧ reread = session ∧
      reread.write = session.write :=
  ⟨session, read?_write (asRead_of_read? read) integers, rfl, rfl⟩

/-- A document with the network part as an array, an address table that is empty but not absent, the
integers at both limits and minus zero, and escapes in a name and in a text. -/
theorem rewritten_text_eq_nested :
    let text := "\x7b\"network_info\":[\"Vault\",\"0x1\",\"\",null],\"contract_data\":" ++
      "\x7b\"name\":[-9223372036854775808,18446744073709551615,-0]," ++
      "\"external_addresses\":\x7b\x7d\x7d,\"\\u0001\":\x7b\"b\":\"\\\"\\\\\\ud83d\\ude00\"\x7d\x7d"
    ∃ session, (read? text = some session ∧
        ∀ number ∈ session.toJson.numbers, number.IsInteger) ∧
      ∃ reread, read? session.write = some reread ∧ reread = session ∧
        reread.write = session.write := by
  intro text
  have evaluated : (read? text).any (fun session =>
      decide (∀ number ∈ session.toJson.numbers, number.IsInteger)) = true := by decide +kernel
  obtain ⟨session, read, integers⟩ := (Option.any_eq_true ..).mp evaluated
  exact ⟨session, ⟨read, of_decide_eq_true integers⟩,
    rewritten_text_eq read (of_decide_eq_true integers)⟩

end Session

end ContractAtlas
