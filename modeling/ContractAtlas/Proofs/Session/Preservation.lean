import ContractAtlas.Enrichment
import ContractAtlas.Proofs.Session.Sources

/-!
# What an enriched document keeps

A field of a document is either known, and then written from what it was read as, or unknown, and
then kept in the extra fields of its part. `exists_keepsFields` says once what both together
preserve of an object; the parts of a session differ in their known fields only, and the network
part in having no extra fields at all. Enriching replaces the addresses and the external calls and
touches nothing else.
-/

namespace ContractAtlas

open Json Json.SortedFields

/-- Whether a field stands in an object: with its value, or with any value if its name is among
`replaced`. One that is null may be missing if its name is among `optional`. -/
def KeepsField (replaced optional : List String) (after : List (String × Json)) (name : String)
    (value : Json) : Prop :=
  find? name after = some value ∨ name ∈ replaced ∧ (find? name after).isSome = true ∨
    name ∈ optional ∧ value = .null

/-- Whether every field of an object stands in another one. -/
def KeepsFields (replaced optional : List String) (before after : List (String × Json)) : Prop :=
  ∀ name value, find? name before = some value → KeepsField replaced optional after name value

/-- Whether an object has fields under some names as they are when they have been written. -/
def HoldsWritten (room : Nat) (fieldNames : List String) (fields kept : List (String × Json)) :
    Prop :=
  ∀ name ∈ fieldNames, find? name kept =
    (find? name fields).bind fun value => Written.value? room value.written

/-- A field that is written as what it was read as is kept. -/
theorem KeepsField.of_read {α : Type} {room : Nat} {replaced optional : List String}
    {read : Written → Option α} {write : α → Json} {absent part : α} {texts : List String}
    {fields : List (String × Written)} {values kept : List (String × Json)}
    (faithful : Written.Faithful room read write)
    (readField : Written.field? fields texts absent read = some part)
    (parts : List.Forall₂ (Written.ReadAs room) fields values) {name : String} {value : Json}
    (present : find? name (ofList values) = some value) (named : name ∈ texts)
    (held : find? name kept = some (write part)) : KeepsField replaced optional kept name value :=
  .inl (held.trans
    (congrArg some (Written.eq_write_of_find? faithful readField parts present named).symm))

/-- An object that is written from known fields and preserved ones keeps the fields of the object
that these were read from if it keeps the known ones. -/
theorem exists_keepsFields {room : Nat} {knownNames : List String} (replaced optional : List String)
    (known : List (String × Json)) {extra before : List (String × Json)} (deep : 1 < room)
    (distinct : knownNames.Nodup) (preserved : Written.Preserved (room - 1) knownNames extra)
    (unknownSame : ∀ name ∉ knownNames, find? name extra = find? name before)
    (covered : (names known).Sublist knownNames)
    (readable : ∀ field ∈ known, ∃ value, Written.value? (room - 1) field.2.written = some value)
    (keepsKnown : ∀ kept, HoldsWritten (room - 1) knownNames known kept →
      ∀ name ∈ knownNames, ∀ value, find? name before = some value →
        KeepsField replaced optional kept name value) :
    ∃ kept, Written.value? room (Json.object (known ++ extra)).written = some (.object kept) ∧
      HoldsWritten (room - 1) knownNames known kept ∧
      KeepsFields replaced optional before kept := by
  have readableToo : ∀ field ∈ known ++ extra, ∃ value,
      Written.value? (room - 1) field.2.written = some value := by
    intro field member
    obtain member | member := List.mem_append.mp member
    · exact readable field member
    · exact ⟨field.2, preserved.readable field member⟩
  obtain ⟨kept, written, holds⟩ := Written.exists_value?_object deep
    (Written.nodup_names_append preserved distinct covered) readableToo
  have holdsKnown : HoldsWritten (room - 1) knownNames known kept := by
    intro name isKnown
    rw [holds, Written.find?_append_of_known preserved isKnown]
  refine ⟨kept, written, holdsKnown, fun name value present => ?_⟩
  by_cases isKnown : name ∈ knownNames
  · exact keepsKnown kept holdsKnown name isKnown value present
  · have inExtra : find? name extra = some value := by
      rw [unknownSame name isKnown, present]
    refine .inl ?_
    rw [holds, Written.find?_append_of_unknown covered isKnown, inExtra]
    exact preserved.readable (name, value) (mem_of_find? inExtra)

namespace StateVariable

/-- Whether a written variable keeps the fields of a document's. -/
def Keeps (before after : Json) : Prop :=
  ∃ fields kept, before = .object fields ∧ after = .object kept ∧
    KeepsFields ["address"] ["variable_body", "address"] fields kept

/-- A variable that was read keeps its declared fields when they are written. Its address may be
replaced by another one, but never by none. -/
theorem keepsField_of_holdsWritten {room : Nat} {source : Written} {declared : StateVariable}
    (read : ofWritten? room source = some declared) {fields : List (String × Written)}
    (object : source.object? = some fields) {values : List (String × Json)}
    (parts : List.Forall₂ (Written.ReadAs room) fields values) {address : Option String}
    (stays : declared.address.isSome = true → address.isSome = true) {kept : List (String × Json)}
    (holds : HoldsWritten room knownFields { declared with address }.knownPart kept) :
    ∀ name ∈ knownFields, ∀ value, find? name (ofList values) = some value →
      KeepsField ["address"] ["variable_body", "address"] kept name value := by
  obtain ⟨fieldsToo, objectToo, readName, readType, readBody, readKind, readAddress, _⟩ :=
    ofWritten?_eq_some_iff.mp read
  obtain rfl := Option.some.inj (objectToo.symm.trans object)
  intro name isKnown value present
  have held := holds name isKnown
  simp only [knownFields, List.mem_cons, List.not_mem_nil, or_false] at isKnown
  rcases isKnown with rfl | rfl | rfl | rfl | rfl
  · exact .of_read Written.faithful_text readName parts present List.mem_cons_self held
  · exact .of_read Written.faithful_text readType parts present List.mem_cons_self held
  · obtain rfl := Written.eq_write_of_find? (Written.faithful_nullable Written.faithful_text)
      readBody parts present List.mem_cons_self
    cases body : declared.body with
    | none => exact .inr (.inr ⟨List.mem_cons_self, rfl⟩)
    | some text =>
        refine .inl (held.trans ?_)
        simp [knownPart, body, optionalField, find?_cons, Json.written, Written.value?]
  · refine .of_read Written.faithful_bool readKind parts present List.mem_cons_self ?_
    rw [held]
    simp [knownPart, find?_cons, find?_append, find?_optionalField, Json.written, Written.value?]
  · obtain rfl := Written.eq_write_of_find? (Written.faithful_nullable Written.faithful_text)
      readAddress parts present List.mem_cons_self
    cases before : declared.address with
    | none => exact .inr (.inr ⟨by simp, rfl⟩)
    | some text =>
        obtain ⟨resolved, rfl⟩ := Option.isSome_iff_exists.mp (stays (by rw [before]; rfl))
        refine .inr (.inl ⟨List.mem_cons_self, ?_⟩)
        rw [held]
        simp [knownPart, find?_cons, find?_append, find?_optionalField, Json.written,
          Written.value?]

/-- A variable is written with the fields that it was read from. Its address may have been resolved
since. -/
theorem exists_keeps {room : Nat} (deep : 1 < room) {source : Written}
    {declared : StateVariable} {value : Json} (read : ofWritten? (room - 1) source = some declared)
    (readValue : Written.value? room source = some value) {address : Option String}
    (stays : declared.address.isSome = true → address.isSome = true) :
    ∃ after, Written.value? room { declared with address }.toJson.written = some after ∧
      Keeps value after := by
  obtain ⟨fields, object, _, _, _, _, _, readExtra⟩ := ofWritten?_eq_some_iff.mp read
  obtain ⟨_, values, parts, rfl⟩ := (Written.value?_object_eq_some_iff object).mp readValue
  have readable : ∀ field ∈ { declared with address }.knownPart, ∃ value,
      Written.value? (room - 1) field.2.written = some value := by
    obtain ⟨_, _, body, _, _, _⟩ := declared
    cases body <;> cases address <;>
      simp [knownPart, optionalField, Json.written, Written.value?]
  obtain ⟨kept, written, _, keeps⟩ := exists_keepsFields _ _ _ deep (by decide)
    (Written.preserved_of_extra? readExtra)
    (fun _ unknown => Written.find?_extra? readExtra parts unknown) (names_knownPart_sublist _)
    readable fun _ => keepsField_of_holdsWritten read object parts stays
  exact ⟨_, written, _, kept, rfl, rfl, keeps⟩

/-- Only the address of a variable changes, and it does not get lost. -/
theorem withAddress_eq (addresses : List (String × String)) (declared : StateVariable) :
    ∃ address, declared.withAddress addresses = { declared with address } ∧
      (declared.address.isSome = true → address.isSome = true) := by
  unfold withAddress
  split
  · exact ⟨_, rfl, fun _ => rfl⟩
  · exact ⟨_, rfl, id⟩

/-- Variables with resolved addresses are written with the fields that they were read from. -/
theorem exists_keeps_items {room : Nat} (deep : 1 < room) {items : List Written}
    {stateVariables : List StateVariable} {values : List Json}
    (read : List.Forall₂ (fun item declared => ofWritten? (room - 1) item = some declared) items
      stateVariables)
    (readValues : List.Forall₂ (fun item value => Written.value? room item = some value) items
      values) (addresses : List (String × String)) :
    ∃ kept, List.Forall₂ (fun item value => Written.value? room item = some value)
        (((stateVariables.map (withAddress addresses)).map toJson).map Json.written) kept ∧
      List.Forall₂ Keeps values kept := by
  induction read generalizing values with
  | nil =>
      cases readValues
      exact ⟨[], .nil, .nil⟩
  | @cons item declared _ _ readFirst _ inductionHypothesis =>
      cases readValues with
      | cons valueFirst valueLater =>
          obtain ⟨later, written, keeps⟩ := inductionHypothesis valueLater
          obtain ⟨address, same, stays⟩ := withAddress_eq addresses declared
          obtain ⟨first, writtenFirst, keepsFirst⟩ := exists_keeps deep readFirst valueFirst stays
          refine ⟨first :: later, .cons ?_ written, .cons keepsFirst keeps⟩
          exact same ▸ writtenFirst

end StateVariable

/-- Fields of texts have a value wherever two levels of nesting are left. -/
theorem exists_value?_textFields {room : Nat} (deep : 1 < room) {fields : List (String × String)}
    (sorted : Sorted fields) :
    ∃ value, Written.value? room (textFieldsToJson fields).written = some value := by
  have sameNames : names (fields.map fun field => (field.1, Json.string field.2)) =
      names fields := by
    simp [names]
  have distinct : (names (fields.map fun field => (field.1, Json.string field.2))).Nodup :=
    sameNames ▸ sorted.nodup
  obtain ⟨kept, written, _⟩ := Written.exists_value?_object deep distinct fun field member => by
    obtain ⟨source, _, rfl⟩ := List.mem_map.mp member
    exact ⟨.string source.2, rfl⟩
  exact ⟨_, written⟩

namespace ContractData

/-- The contract part that was read keeps its declared fields when they are written, those apart
that are resolved. -/
theorem keepsField_of_holdsWritten {room : Nat} (deep : 1 < room) {source : Written}
    {contract : ContractData} (read : ofWritten? room source = some contract)
    {fields : List (String × Written)} (object : source.object? = some fields)
    {values : List (String × Json)} (parts : List.Forall₂ (Written.ReadAs room) fields values)
    {calls : List String} {addresses : List (String × String)} {table : Json}
    (tableValue : Written.value? room (textFieldsToJson addresses).written = some table)
    {kept : List (String × Json)}
    (holds : HoldsWritten room knownFields { contract with
      externalCalls := some calls, externalAddresses := some addresses }.knownPart kept) :
    ∀ name ∈ knownFields, ∀ value, find? name (ofList values) = some value →
      KeepsField ["external_calls", "external_addresses"] [] kept name value := by
  obtain ⟨fieldsToo, objectToo, readLibraryCalls, readAllCalls, _⟩ :=
    ofWritten?_eq_some_iff.mp read
  obtain rfl := Option.some.inj (objectToo.symm.trans object)
  intro name isKnown value present
  have held := holds name isKnown
  simp only [knownFields, List.mem_cons, List.not_mem_nil, or_false] at isKnown
  rcases isKnown with rfl | rfl | rfl | rfl
  · exact .of_read Written.faithful_texts readLibraryCalls parts present List.mem_cons_self
      (held.trans (Written.value?_strings deep _))
  · exact .of_read Written.faithful_texts readAllCalls parts present List.mem_cons_self
      (held.trans (Written.value?_strings deep _))
  · refine .inr (.inl ⟨List.mem_cons_self, ?_⟩)
    rw [held]
    exact Option.isSome_iff_exists.mpr ⟨_, Written.value?_strings deep calls⟩
  · refine .inr (.inl ⟨by simp, ?_⟩)
    rw [held]
    exact Option.isSome_iff_exists.mpr ⟨_, tableValue⟩

/-- The contract part is written with the fields that it was read from. Its external calls and
addresses may have been resolved since. -/
theorem exists_keeps {room : Nat} (deep : 2 < room) {source : Written} {contract : ContractData}
    {value : Json} (read : ofWritten? (room - 1) source = some contract)
    (readValue : Written.value? room source = some value) (calls : List String)
    {addresses : List (String × String)} (sorted : Sorted addresses) :
    ∃ fields kept, value = .object fields ∧
      Written.value? room { contract with
        externalCalls := some calls, externalAddresses := some addresses }.toJson.written =
          some (.object kept) ∧
      KeepsFields ["external_calls", "external_addresses"] [] fields kept := by
  obtain ⟨fields, object, _, _, _, _, readExtra⟩ := ofWritten?_eq_some_iff.mp read
  obtain ⟨_, values, parts, rfl⟩ := (Written.value?_object_eq_some_iff object).mp readValue
  have inner : 1 < room - 1 := by omega
  obtain ⟨table, tableValue⟩ := exists_value?_textFields inner sorted
  set resolved : ContractData := { contract with
    externalCalls := some calls, externalAddresses := some addresses } with resolvedEq
  have readable : ∀ field ∈ resolved.knownPart, ∃ value,
      Written.value? (room - 1) field.2.written = some value := by
    simp [resolvedEq, knownPart, optionalField, inner, tableValue]
  obtain ⟨kept, written, _, keeps⟩ := exists_keepsFields _ _ resolved.knownPart
    (by omega) (by decide) (Written.preserved_of_extra? readExtra)
    (fun _ unknown => Written.find?_extra? readExtra parts unknown) (names_knownPart_sublist _)
    readable fun _ => keepsField_of_holdsWritten inner read object parts tableValue
  exact ⟨_, kept, rfl, written, keeps⟩

end ContractData

namespace NetworkInfo

/-- The declared names of the fields of the network part in order, each with the name that the
download tool writes. -/
def fieldNames : List (String × String) :=
  [("contract_name", "ContractName"), ("contract_address", "Address"),
   ("contract_network", "Network"), ("last_checked", "LastChecked"),
   ("data_directory", "Output_Dir")]

/-- The declared name of the field that has a name. -/
def declaredName? (name : String) : Option String :=
  (fieldNames.find? fun field => field.1 = name || field.2 = name).map Prod.fst

/-- Whether a written network part holds the fields of a document's under their declared names,
those of an array being named by their positions. A field without a declared name counts unless its
name is among the `forgotten` ones. -/
def Keeps (forgotten : String → Prop) (kept : List (String × Json)) : Json → Prop
  | .object fields => ∀ name value, find? name fields = some value → ¬ forgotten name →
      ∃ declared, declaredName? name = some declared ∧
        KeepsField [] ["last_checked"] kept declared value
  | .array items => ∀ (position : Nat) value, items[position]? = some value →
      ∃ field, fieldNames[position]? = some field ∧
        KeepsField [] ["last_checked"] kept field.1 value
  | _ => False

/-- The values of the network part under their declared names, the absent one as null. -/
def values (info : NetworkInfo) : List Json :=
  [.string info.contractName, .string info.contractAddress, .string info.contractNetwork,
   (info.lastChecked.map .string).getD .null, .string info.dataDirectory]

/-- The fields of the network part as they are written. -/
def writtenPart (info : NetworkInfo) : List (String × Json) :=
  [("contract_name", .string info.contractName), ("contract_address", .string info.contractAddress),
   ("contract_network", .string info.contractNetwork)] ++
    optionalField "last_checked" .string info.lastChecked ++
    [("data_directory", .string info.dataDirectory)]

/-- Network fields are written in the order in which they are declared. -/
theorem names_writtenPart_sublist (info : NetworkInfo) :
    (names info.writtenPart).Sublist (fieldNames.map Prod.fst) := by
  obtain ⟨name, address, network, checked, directory⟩ := info
  cases checked <;> simp [writtenPart, optionalField, names, fieldNames]

/-- The network part as it is written has its values under their declared names. -/
theorem exists_value? {room : Nat} (deep : 1 < room) (info : NetworkInfo) :
    ∃ kept, Written.value? room info.toJson.written = some (.object kept) ∧
      ∀ part ∈ fieldNames.zip info.values, KeepsField [] ["last_checked"] kept part.1.1 part.2 := by
  have distinct : (names info.writtenPart).Nodup :=
    List.Nodup.sublist info.names_writtenPart_sublist (by decide)
  have readable : ∀ field ∈ info.writtenPart, ∃ value,
      Written.value? (room - 1) field.2.written = some value := by
    obtain ⟨_, _, _, checked, _⟩ := info
    cases checked <;> simp [writtenPart, optionalField, Json.written, Written.value?]
  obtain ⟨kept, written, holds⟩ := Written.exists_value?_object deep distinct readable
  have held (name : String) (text : String)
      (present : find? name info.writtenPart = some (.string text)) :
      KeepsField [] ["last_checked"] kept name (.string text) := by
    refine .inl ?_
    rw [holds, present]
    rfl
  refine ⟨kept, written, ?_⟩
  simp only [fieldNames, values, List.zip_cons_cons, List.zip_nil_right, List.forall_mem_cons]
  refine ⟨held _ _ rfl, held _ _ rfl, held _ _ rfl, ?_, held _ _ ?_, List.forall_mem_nil _⟩
  · cases checked : info.lastChecked with
    | none => exact .inr (.inr ⟨List.mem_cons_self, rfl⟩)
    | some text => exact held _ _ (by rw [writtenPart, checked]; rfl)
  · simp [writtenPart, find?_cons, find?_append, find?_optionalField]

/-- The value under a declared name, or under the name that stands for it, is the one that has been
read. -/
theorem eq_of_ofFields? {room : Nat} {fields : List (String × Written)}
    {values : List (String × Json)} {info : NetworkInfo} (read : ofFields? fields = some info)
    (parts : List.Forall₂ (Written.ReadAs room) fields values) {name : String} {value : Json}
    (present : find? name (ofList values) = some value) :
    ∀ part ∈ fieldNames.zip info.values, name ∈ [part.1.1, part.1.2] → value = part.2 := by
  simp only [ofFields?, Option.bind_eq_bind, Option.bind_eq_some_iff, Option.pure_def,
    Option.some.injEq] at read
  obtain ⟨contractName, readName, address, readAddress, network, readNetwork, checked, readChecked,
    directory, readDirectory, rfl⟩ := read
  simp only [fieldNames, NetworkInfo.values, List.zip_cons_cons, List.zip_nil_right,
    List.forall_mem_cons]
  exact ⟨Written.eq_write_of_find? Written.faithful_text readName parts present,
    Written.eq_write_of_find? Written.faithful_text readAddress parts present,
    Written.eq_write_of_find? Written.faithful_text readNetwork parts present,
    Written.eq_write_of_find? (Written.faithful_nullable Written.faithful_text) readChecked parts
      present,
    Written.eq_write_of_find? Written.faithful_text readDirectory parts present,
    List.forall_mem_nil _⟩

/-- The value of an item of the array form is the one that has been read. -/
theorem eq_of_ofItems? {room : Nat} {items : List Written} {values : List Json}
    {info : NetworkInfo} (read : ofItems? items = some info)
    (parts : List.Forall₂ (fun item value => Written.value? room item = some value) items values)
    {position : Nat} {value : Json} (present : values[position]? = some value) :
    ∃ part, (fieldNames.zip info.values)[position]? = some part ∧ value = part.2 := by
  obtain ⟨inValues, rfl⟩ := List.getElem?_eq_some_iff.mp present
  have inItems : position < items.length := parts.length_eq ▸ inValues
  have readValue := (List.forall₂_iff_get.mp parts).2 position inItems inValues
  have found : items[position]? = some items[position] := List.getElem?_eq_getElem inItems
  unfold ofItems? at read
  split at read
  · cases read
  rename_i short
  simp only [Option.bind_eq_bind, Option.bind_eq_some_iff, Option.pure_def,
    Option.some.injEq] at read
  obtain ⟨contractName, readName, address, readAddress, network, readNetwork, checked, readChecked,
    directory, readDirectory, rfl⟩ := read
  have atMost : position < 5 := by omega
  have text {absent part : String} (readPart : Written.optional? absent Written.text?
      items[position]? = some part) : values[position] = .string part :=
    Written.faithful_text _ _ _ (by rwa [found] at readPart) readValue
  interval_cases position
  · exact ⟨_, rfl, text readName⟩
  · exact ⟨_, rfl, text readAddress⟩
  · exact ⟨_, rfl, text readNetwork⟩
  · exact ⟨_, rfl, Written.faithful_nullable Written.faithful_text _ _ _
      (by rwa [found] at readChecked) readValue⟩
  · exact ⟨_, rfl, text readDirectory⟩

/-- Every declared network field has a value. -/
theorem exists_mem_zip_values (info : NetworkInfo) {field : String × String}
    (member : field ∈ fieldNames) : ∃ value, (field, value) ∈ fieldNames.zip info.values := by
  simp only [fieldNames, List.mem_cons, List.not_mem_nil, or_false] at member
  rcases member with rfl | rfl | rfl | rfl | rfl <;> simp [fieldNames, values]

/-- The network part is written with the fields that it was read from, those without a declared name
apart. -/
theorem exists_keeps {room : Nat} (deep : 1 < room) {source : Written} {info : NetworkInfo}
    {value : Json} (read : ofWritten? source = some info)
    (readValue : Written.value? room source = some value) :
    ∃ kept, Written.value? room info.toJson.written = some (.object kept) ∧
      Keeps (fun name => declaredName? name = none) kept value := by
  obtain ⟨kept, written, keeps⟩ := info.exists_value? deep
  refine ⟨kept, written, ?_⟩
  cases source with
  | object sources =>
      obtain ⟨fields, named, readFields⟩ := Option.bind_eq_some_iff.mp read
      have object : (Written.object sources).object? = some fields := named
      obtain ⟨_, values, parts, rfl⟩ := (Written.value?_object_eq_some_iff object).mp readValue
      intro name value present known
      obtain ⟨declared, isDeclared⟩ := Option.ne_none_iff_exists'.mp known
      obtain ⟨field, found, rfl⟩ := Option.map_eq_some_iff.mp isDeclared
      obtain ⟨part, member⟩ := info.exists_mem_zip_values (List.mem_of_find?_eq_some found)
      refine ⟨field.1, isDeclared, ?_⟩
      -- A field is read under either of its two names, and written under the declared one.
      have spelled : name ∈ [field.1, field.2] := by
        obtain rfl | rfl : field.1 = name ∨ field.2 = name := by
          simpa only [Bool.or_eq_true, decide_eq_true_eq] using List.find?_some found
        · exact List.mem_cons_self
        · exact List.mem_cons_of_mem _ List.mem_cons_self
      rw [eq_of_ofFields? readFields parts present (field, part) member spelled]
      exact keeps (field, part) member
  | array items =>
      obtain ⟨_, values, parts, rfl⟩ := (Written.value?_array_eq_some_iff rfl).mp readValue
      intro position value present
      obtain ⟨part, found, rfl⟩ := eq_of_ofItems? read parts present
      refine ⟨part.1, ?_, keeps part (List.mem_of_getElem? found)⟩
      exact (List.getElem?_zip_eq_some.mp found).1
  | _ => cases read

/-- Nothing is forgotten exactly if every field has a declared name. -/
theorem keeps_all_iff {kept : List (String × Json)} {value : Json}
    (keeps : Keeps (fun name => declaredName? name = none) kept value) :
    Keeps (fun _ => False) kept value ↔ ∀ fields, value = .object fields →
      ∀ name ∈ names fields, (declaredName? name).isSome = true := by
  cases value with
  | object fields =>
      simp only [Keeps, Json.object.injEq, forall_eq', not_false_eq_true, true_imp_iff]
      constructor
      · intro all name member
        cases present : find? name fields with
        | none => exact absurd member (find?_eq_none_iff.mp present)
        | some value =>
            obtain ⟨declared, isDeclared, _⟩ := all name value present
            rw [isDeclared]
            rfl
      · intro declared name value present
        have inFields : name ∈ names fields := List.mem_map_of_mem (mem_of_find? present)
        exact keeps name value present
          (Option.isSome_iff_ne_none.mp (declared name inFields))
  | array items =>
      have all : Keeps (fun _ => False) kept (.array items) := keeps
      simp [all]
  | _ => exact absurd keeps id

end NetworkInfo

namespace Session

/-- Whether the document of an enriched session keeps the fields of the one that it was read from:
those of the network part under their declared names, apart from `forgotten` ones, those of the
contract part and of every variable apart from what has been resolved, and all others as they
were. -/
structure Keeps (forgotten : String → Prop) (before after : List (String × Json)) : Prop where
  network : ∀ info, find? "network_info" before = some info →
    ∃ kept, find? "network_info" after = some (.object kept) ∧
      NetworkInfo.Keeps forgotten kept info
  contract : ∀ part, find? "contract_data" before = some part →
    ∃ fields kept, part = .object fields ∧ find? "contract_data" after = some (.object kept) ∧
      KeepsFields ["external_calls", "external_addresses"] [] fields kept
  stateVariables : ∀ part, find? "variables_data" before = some part →
    ∃ items kept, part = .array items ∧ find? "variables_data" after = some (.array kept) ∧
      List.Forall₂ StateVariable.Keeps items kept
  others : ∀ name ∉ ["network_info", "contract_data", "variables_data"], ∀ value,
    find? name before = some value → find? name after = some value

/-! ### Parts -/

section

variable {room : Nat} {session : Session} {before : List (String × Json)}

/-- The network part that is written keeps what the one that was read has under the names it
declares. -/
theorem ReadFrom.exists_network (readFrom : ReadFrom room before session) (deep : 1 < room - 1) :
    ∃ kept, Written.value? (room - 1) session.networkInfo.toJson.written = some (.object kept) ∧
      ∀ info, find? "network_info" before = some info →
        NetworkInfo.Keeps (fun name => NetworkInfo.declaredName? name = none) kept info := by
  obtain ⟨source, read, value⟩ := readFrom.network
  obtain ⟨kept, written, keeps⟩ := NetworkInfo.exists_keeps deep read value
  refine ⟨kept, written, fun info present => ?_⟩
  rwa [present] at keeps

/-- The contract part that is written keeps what the one that was read has outside of its calls and
addresses. -/
theorem ReadFrom.exists_contract (readFrom : ReadFrom room before session) (deep : 2 < room - 1)
    (calls : List String) {addresses : List (String × String)} (sorted : Sorted addresses) :
    ∃ kept, Written.value? (room - 1) { session.contractData with
        externalCalls := some calls, externalAddresses := some addresses }.toJson.written =
          some (.object kept) ∧
      ∀ part, find? "contract_data" before = some part → ∃ fields, part = .object fields ∧
        KeepsFields ["external_calls", "external_addresses"] [] fields kept := by
  obtain ⟨source, read, value⟩ := readFrom.contract
  obtain ⟨fields, kept, same, written, keeps⟩ :=
    ContractData.exists_keeps deep read value calls sorted
  refine ⟨kept, written, fun part present => ?_⟩
  rw [present] at same
  exact ⟨fields, same, keeps⟩

/-- Each variable that is written keeps what the one that was read has. -/
theorem ReadFrom.exists_stateVariables (readFrom : ReadFrom room before session)
    (deep : 1 < room - 1 - 1) (addresses : List (String × String)) :
    ∃ kept, Written.value? (room - 1) (Json.array
        ((session.withResolved addresses).stateVariables.map StateVariable.toJson)).written =
          some (.array kept) ∧
      ∀ part, find? "variables_data" before = some part → ∃ items, part = .array items ∧
        List.Forall₂ StateVariable.Keeps items kept := by
  obtain ⟨sources, values, read, parts, same⟩ := readFrom.stateVariables
  obtain ⟨kept, written, keeps⟩ := StateVariable.exists_keeps_items deep read parts addresses
  have array := Written.array?_written
    ((session.withResolved addresses).stateVariables.map StateVariable.toJson)
  refine ⟨kept, (Written.value?_array_eq_some_iff array).mpr ⟨by omega, kept, written, rfl⟩,
    fun part present => ?_⟩
  rw [present] at same
  exact ⟨values, same, keeps⟩

/-- An enriched session keeps the declared fields that the session was read from when they are
written, those apart that hold what has been resolved. -/
theorem ReadFrom.keepsField_of_holdsWritten (readFrom : ReadFrom room before session)
    {addresses : List (String × String)} {info contract items : Json}
    (writtenInfo : Written.value? (room - 1)
      (session.withResolved addresses).networkInfo.toJson.written = some info)
    (writtenContract : Written.value? (room - 1)
      (session.withResolved addresses).contractData.toJson.written = some contract)
    (writtenItems : Written.value? (room - 1) (Json.array
      ((session.withResolved addresses).stateVariables.map StateVariable.toJson)).written =
        some items) {kept : List (String × Json)}
    (holds : HoldsWritten (room - 1) knownFields (session.withResolved addresses).knownPart kept) :
    ∀ name ∈ knownFields, ∀ value, find? name before = some value →
      KeepsField ["network_info", "contract_data", "variables_data"] [] kept name value := by
  obtain ⟨_, functionsValue, functionsSame⟩ := readFrom.functions
  obtain ⟨_, resultsValue, resultsSame⟩ := readFrom.scanResults
  intro name isKnown value present
  have held := holds name isKnown
  simp only [knownFields, List.mem_cons, List.not_mem_nil, or_false] at isKnown
  rcases isKnown with rfl | rfl | rfl | rfl | rfl
  · exact .inr (.inl ⟨by simp, Option.isSome_iff_exists.mpr ⟨_, held.trans writtenInfo⟩⟩)
  · exact .inr (.inl ⟨by simp, Option.isSome_iff_exists.mpr ⟨_, held.trans writtenContract⟩⟩)
  · rw [present] at functionsSame
    obtain rfl := functionsSame
    exact .inl (held.trans (Written.value?_written functionsValue))
  · exact .inr (.inl ⟨by simp, Option.isSome_iff_exists.mpr ⟨_, held.trans writtenItems⟩⟩)
  · rw [present] at resultsSame
    obtain rfl := resultsSame
    exact .inl (held.trans (Written.value?_written resultsValue))

end

/-- An enriched session is written with the fields that the session was read from. -/
theorem exists_keeps {room : Nat} (deep : 3 < room) {session : Session}
    {before : List (String × Json)} (readFrom : ReadFrom room before session)
    {addresses : List (String × String)} (sorted : Sorted addresses) :
    ∃ after, Written.value? room (session.withResolved addresses).toJson.written =
        some (.object after) ∧
      Keeps (fun name => NetworkInfo.declaredName? name = none) before after := by
  obtain ⟨info, writtenInfo, keepsInfo⟩ := readFrom.exists_network (by omega)
  obtain ⟨contract, writtenContract, keepsContract⟩ :=
    readFrom.exists_contract (by omega) session.dependencies sorted
  obtain ⟨items, writtenItems, keepsItems⟩ := readFrom.exists_stateVariables (by omega) addresses
  obtain ⟨_, functionsValue, _⟩ := readFrom.functions
  have writtenFunctions := Written.value?_written functionsValue
  obtain ⟨_, resultsValue, _⟩ := readFrom.scanResults
  have writtenResults := Written.value?_written resultsValue
  have readable : ∀ field ∈ (session.withResolved addresses).knownPart, ∃ value,
      Written.value? (room - 1) field.2.written = some value := by
    simp only [knownPart, List.forall_mem_cons]
    exact ⟨⟨_, writtenInfo⟩, ⟨_, writtenContract⟩, ⟨_, writtenFunctions⟩, ⟨_, writtenItems⟩,
      ⟨_, writtenResults⟩, List.forall_mem_nil _⟩
  obtain ⟨after, written, held, keeps⟩ := exists_keepsFields _ _
    (session.withResolved addresses).knownPart (by omega) (by decide) readFrom.preserved
    readFrom.unknown (.refl _) readable
    fun _ => readFrom.keepsField_of_holdsWritten writtenInfo writtenContract writtenItems
  refine ⟨after, written, ?_, ?_, ?_, ?_⟩
  · intro value present
    exact ⟨info, (held "network_info" (by decide)).trans writtenInfo, keepsInfo value present⟩
  · intro value present
    obtain ⟨fields, same, keepsFields⟩ := keepsContract value present
    exact ⟨fields, contract, same, (held "contract_data" (by decide)).trans writtenContract,
      keepsFields⟩
  · intro value present
    obtain ⟨values, same, keepsEach⟩ := keepsItems value present
    exact ⟨values, items, same, (held "variables_data" (by decide)).trans writtenItems, keepsEach⟩
  · intro name unresolved value present
    obtain same | ⟨replaced, _⟩ | ⟨optional, _⟩ := keeps name value present
    · exact same
    · exact absurd replaced unresolved
    · cases optional

/-- Resolving adds no number to a session. -/
theorem numbers_withResolved {session : Session} {addresses : List (String × String)}
    {number : Decimal.Number} :
    number ∈ (session.withResolved addresses).toJson.numbers ↔
      number ∈ session.toJson.numbers := by
  have extra (declared : StateVariable) :
      (declared.withAddress addresses).extra = declared.extra := by
    obtain ⟨address, same, _⟩ := StateVariable.withAddress_eq addresses declared
    rw [same]
  simp [mem_numbers_toJson, withResolved, extra]

/-- A document that is read, enriched and written again is a document that keeps the fields of the
first one, those of the network part without a declared name apart. -/
theorem exists_keeps_write {text : String} {before : List (String × Json)} {session : Session}
    (document : Json.read? text = some (.object before))
    (integers : ∀ number ∈ (Json.object before).numbers, number.IsInteger)
    (read : read? text = some session) {addresses : List (String × String)}
    (sorted : Sorted addresses) :
    ∃ after, Json.read? (session.withResolved addresses).write = some (.object after) ∧
      Keeps (fun name => NetworkInfo.declaredName? name = none) before after := by
  obtain ⟨source, written, readSource⟩ := Option.bind_eq_some_iff.mp read
  have value : Written.value? Written.nestingLimit source = some (.object before) := by
    obtain ⟨_, writtenToo, value⟩ := Option.bind_eq_some_iff.mp document
    obtain rfl := Option.some.inj (written.symm.trans writtenToo)
    exact value
  have readFrom := readFrom_of_ofWritten? (by decide) readSource value
  obtain ⟨after, writtenAfter, keeps⟩ := exists_keeps (by decide) readFrom sorted
  refine ⟨after, ?_, keeps⟩
  rw [Json.read?, write, Written.read?_toPrettyText fun number member =>
    integers number (readFrom.mem_numbers (numbers_withResolved.mp member))]
  exact writtenAfter

/-- Nothing is forgotten exactly if every field of the network part has a declared name. -/
theorem keeps_all_iff {before after : List (String × Json)}
    (keeps : Keeps (fun name => NetworkInfo.declaredName? name = none) before after) :
    Keeps (fun _ => False) before after ↔
      ∀ fields, find? "network_info" before = some (.object fields) →
        ∀ name ∈ names fields, (NetworkInfo.declaredName? name).isSome = true := by
  constructor
  · intro all fields present
    obtain ⟨kept, held, keepsInfo⟩ := keeps.network _ present
    obtain ⟨keptToo, heldToo, keepsAll⟩ := all.network _ present
    obtain rfl : kept = keptToo := by simpa [held] using heldToo
    exact (NetworkInfo.keeps_all_iff keepsInfo).mp keepsAll fields rfl
  · intro declared
    refine ⟨fun info present => ?_, keeps.contract, keeps.stateVariables, keeps.others⟩
    obtain ⟨kept, held, keepsInfo⟩ := keeps.network info present
    refine ⟨kept, held, (NetworkInfo.keeps_all_iff keepsInfo).mpr fun fields same => ?_⟩
    exact declared fields (same ▸ present)

/-- A session stays as it was read when addresses are resolved. -/
theorem AsRead.withResolved {room : Nat} {session : Session} (asRead : AsRead room session)
    {addresses : List (String × String)} (sorted : Sorted addresses) :
    AsRead room (session.withResolved addresses) where
  contractData :=
    { sorted := fun _ present => Option.some.inj present ▸ sorted
      preserved := asRead.contractData.preserved }
  functions := asRead.functions
  stateVariables declared member := by
    obtain ⟨before, inSession, rfl⟩ := List.mem_map.mp member
    obtain ⟨address, same, _⟩ := StateVariable.withAddress_eq addresses before
    rw [same]
    exact asRead.stateVariables before inSession
  scanResults := asRead.scanResults
  preserved := asRead.preserved

end Session

/-- The addresses that are found are sorted by name. -/
theorem sorted_resolve {ω : Type} (reader : ContractReader (StateM ω)) (contract : Address)
    (probeSet : ProbeSet) (world : ω) :
    Sorted ((resolve reader contract probeSet).run world).1 :=
  (sorted_ofList _).insertAll _

/-- A session that has been enriched is the session with some addresses resolved. -/
theorem exists_withResolved_of_enrich {ω : Type} {reader : ContractReader (StateM ω)}
    {session enriched : Session} {summary : EnrichmentSummary} {world later : ω}
    (enriches : (enrich reader session).run world = (.ok (enriched, summary), later)) :
    ∃ addresses, Sorted addresses ∧ enriched = session.withResolved addresses := by
  unfold enrich at enriches
  cases contract : session.contract with
  | error fault =>
      rw [contract] at enriches
      cases enriches
  | ok address =>
      rw [contract] at enriches
      have both := Prod.mk.inj (Except.ok.inj (Prod.mk.inj enriches).1)
      exact ⟨_, sorted_resolve reader address _ world, both.1.symm⟩

end ContractAtlas
