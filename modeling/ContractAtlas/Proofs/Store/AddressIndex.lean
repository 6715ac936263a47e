import ContractAtlas.AddressIndex
import ContractAtlas.Proofs.Store.BareSessions
import ContractAtlas.Proofs.Json.SortedFields
import ContractAtlas.Proofs.Store.Listing

/-!
# The index and the lookup of an address

Both name a document for an address, out of the documents of the directories that encode it
(`documentsAt`). The lookup takes the first one of them. The index is built by setting one entry
after the other, so the last one stays in it. In a well-keyed store in exact mode they know the same
addresses, and they name the same document for an address exactly if its first document is its last
one (`rebuild_agrees_iff`). One contract address on two networks has two documents.
-/

namespace ContractAtlas

namespace Json.SortedFields

variable {α : Type}

/-- The values that pairs give to a name, in order. -/
def valuesOf (name : String) (pairs : List (String × α)) : List α :=
  (pairs.filter fun pair => pair.1 = name).map Prod.snd

/-- Looking up a name gives the first of its values. -/
theorem find?_eq_head?_valuesOf (name : String) (pairs : List (String × α)) :
    find? name pairs = (valuesOf name pairs).head? := by
  induction pairs with
  | nil => rfl
  | cons pair later inductionHypothesis =>
      rw [find?_cons, inductionHypothesis, valuesOf, valuesOf, List.filter_cons]
      by_cases same : pair.1 = name <;> simp [same]

/-- Of the values of a name the last one stays in the sorted form. -/
theorem find?_ofList_eq_getLast?_valuesOf (name : String) (pairs : List (String × α)) :
    find? name (ofList pairs) = (valuesOf name pairs).getLast? := by
  rw [find?_ofList, find?_eq_head?_valuesOf, valuesOf, List.filter_reverse, List.map_reverse,
    List.head?_reverse, valuesOf]

end Json.SortedFields

open Json

/-- The address in the key that a directory name encodes. -/
def SessionKey.encodedAddress? (name : String) : Option Address :=
  (ofDirectoryName? name).map fun encoded => encoded.1.address

namespace DirectoryView

variable {σ : Type} [SessionStore σ] [DirectoryView σ] {store : σ}

/-- The documents of the directories whose names encode an address, in the order of the names. -/
def documentsAt (store : σ) (address : Address) : List Path :=
  match complete store with
  | .error _ => []
  | .ok named =>
      (named.filter fun directory => SessionKey.encodedAddress? directory.1 = some address).map
        Prod.snd

/-- In exact mode an address finds the first of its documents. -/
theorem lookup?_eq_head?_documentsAt (exact : keyMatch store = .exact) (address : Address) :
    SessionStore.lookup? store address.checksummed = (documentsAt store address).head? := by
  have accepts (name : String) : KeyMatch.exact.accepts address.checksummed name =
      decide (SessionKey.encodedAddress? name = some address) := by
    rw [Bool.eq_iff_iff, KeyMatch.accepts_exact_checksummed, decide_eq_true_eq,
      SessionKey.encodedAddress?]
    simp
  rw [lookup?_eq, documentsAt, exact]
  cases complete store with
  | error _ => rfl
  | ok named => simp only [accepts, List.head?_map, List.head?_filter]

/-- All documents of an address in a data directory are different. -/
theorem nodup_documentsAt {store : DirectoryStore} (wellFormed : store.files.WellFormed)
    (address : Address) : (documentsAt store address).Nodup := by
  rw [documentsAt]
  cases listing : complete store with
  | error _ => exact List.nodup_nil
  | ok named =>
      exact (DirectoryStore.nodup_documents wellFormed listing).sublist
        (List.filter_sublist.map Prod.snd)

end DirectoryView

namespace AddressIndex

open DirectoryView

variable {σ : Type} [SessionStore σ] [DirectoryView σ] {store : σ}

/-- The document that an index names for an address. -/
def document? (index : AddressIndex) (address : Address) : Option Path :=
  SortedFields.find? address.checksummed index.entries

/-- The entry that a directory gives if the document is of the session that its name encodes. -/
def entryOf? (directory : String × Path) : Option (String × Path) :=
  (SessionKey.encodedAddress? directory.1).map fun address => (address.checksummed, directory.2)

/-- In a well-keyed store the entries can be read off the directory names. -/
theorem filterMap_entryOf?_loadable (wellKeyed : WellKeyed store) {named : List (String × Path)}
    (listing : complete store = .ok named) :
    (SessionStore.loadable store (named.map Prod.snd)).filterMap entryAt? =
      named.filterMap entryOf? := by
  rw [SessionStore.loadable, List.filterMap_map, List.filterMap_filterMap]
  refine List.filterMap_congr fun directory member => ?_
  obtain ⟨session, key, contractName, loads, keyed, encodes⟩ :=
    wellKeyed directory.1 directory.2 ⟨named, listing, member⟩
  simp [loads, entryAt?, keyed, entryOf?, SessionKey.encodedAddress?, encodes,
    SessionKey.checksummedAddress]

/-- An index is built from the entries of what the store lists as complete. -/
theorem rebuild_eq (wellKeyed : WellKeyed store) (now : Timestamp) :
    rebuild store now = (complete store).map fun named =>
      ⟨some now, SortedFields.ofList (named.filterMap entryOf?)⟩ := by
  rw [rebuild, SessionStore.sessions, documents_eq]
  cases listing : complete store with
  | error _ => rfl
  | ok named =>
      simp only [Except.map, bind, Except.bind, pure, Except.pure,
        filterMap_entryOf?_loadable wellKeyed listing]

/-- An index is built of every store that can be listed. -/
theorem exists_rebuild (wellKeyed : WellKeyed store) {named : List (String × Path)}
    (listing : complete store = .ok named) (now : Timestamp) :
    ∃ index, rebuild store now = .ok index := by
  rw [rebuild_eq wellKeyed, listing]
  exact ⟨_, rfl⟩

/-- The entries of the directories give an address the documents of the directories that encode
it. -/
theorem valuesOf_filterMap_entryOf? (address : Address) (named : List (String × Path)) :
    SortedFields.valuesOf address.checksummed (named.filterMap entryOf?) =
      (named.filter fun directory =>
        SessionKey.encodedAddress? directory.1 = some address).map Prod.snd := by
  rw [SortedFields.valuesOf, List.filter_filterMap, List.map_filterMap, ← List.filterMap_eq_map,
    List.filterMap_filter]
  refine List.filterMap_congr fun directory _ => ?_
  cases encoded : SessionKey.encodedAddress? directory.1 with
  | none => simp [entryOf?, encoded]
  | some other =>
      by_cases same : other = address
      · simp [entryOf?, encoded, same]
      · simp [entryOf?, encoded, same, Address.checksummed_injective.eq_iff]

/-- The index names the last document of an address. -/
theorem document?_eq_getLast?_documentsAt (wellKeyed : WellKeyed store) {now : Timestamp}
    {index : AddressIndex} (rebuilt : rebuild store now = .ok index) (address : Address) :
    index.document? address = (documentsAt store address).getLast? := by
  rw [rebuild_eq wellKeyed] at rebuilt
  cases listing : complete store with
  | error _ => simp [listing, Except.map] at rebuilt
  | ok named =>
      rw [listing] at rebuilt
      obtain rfl := Except.ok.inj rebuilt
      rw [document?, SortedFields.find?_ofList_eq_getLast?_valuesOf, valuesOf_filterMap_entryOf?,
        documentsAt, listing]

/-- There is no index only if the directories cannot be listed, and then nothing is found either. -/
theorem documentsAt_eq_nil_of_rebuild (wellKeyed : WellKeyed store) {now : Timestamp}
    {fault : StoreError} (failed : rebuild store now = .error fault) (address : Address) :
    documentsAt store address = [] := by
  rw [rebuild_eq wellKeyed] at failed
  cases listing : complete store with
  | error _ => rw [documentsAt, listing]
  | ok named => simp [listing, Except.map] at failed

/-- Among different items the first one is the last one only if there are no others. -/
theorem head?_eq_getLast?_iff {α : Type} {items : List α} (distinct : items.Nodup) :
    items.head? = items.getLast? ↔ items.length ≤ 1 := by
  cases items with
  | nil => simp
  | cons first later =>
      cases later using List.reverseRecOn with
      | nil => simp
      | append_singleton between last =>
          have apart : first ≠ last := by
            rintro rfl
            simp at distinct
          rw [← List.cons_append, List.getLast?_concat]
          simp [apart]

/-- In a well-keyed store in exact mode the index has an entry for exactly the addresses that find a
document. Both name the same one exactly if the first document of the address is its last one, so if
all its documents are different, exactly if it has no more than one. Where the store cannot be
listed there is no index and no address finds anything. -/
theorem rebuild_agrees_iff (exact : keyMatch store = .exact) (wellKeyed : WellKeyed store)
    (now : Timestamp) :
    match rebuild store now with
    | .error _ => ∀ address : Address, SessionStore.lookup? store address.checksummed = none
    | .ok index => ∀ address : Address,
        let found := SessionStore.lookup? store address.checksummed
        let held := documentsAt store address
        ((index.document? address).isSome = true ↔ found.isSome = true) ∧
          (index.document? address = found ↔ held.head? = held.getLast?) ∧
          (held.Nodup → (index.document? address = found ↔ held.length ≤ 1)) := by
  cases rebuilt : rebuild store now with
  | error fault =>
      intro address
      rw [lookup?_eq_head?_documentsAt exact, documentsAt_eq_nil_of_rebuild wellKeyed rebuilt]
      rfl
  | ok index =>
      intro address found held
      have first : found = held.head? := lookup?_eq_head?_documentsAt exact address
      have last : index.document? address = held.getLast? :=
        document?_eq_getLast?_documentsAt wellKeyed rebuilt address
      rw [first, last]
      refine ⟨by simp, eq_comm, fun distinct => ?_⟩
      rw [eq_comm, head?_eq_getLast?_iff distinct]

/-- The index of a store with sessions at two addresses names the document of either, and none for a
third address. -/
theorem rebuild_agrees_two_addresses :
    let first : SessionKey := ⟨"bsc", ⟨List.replicate 40 1, rfl⟩⟩
    let second : SessionKey := ⟨"mainet", ⟨List.replicate 40 2, rfl⟩⟩
    let other : Address := ⟨List.replicate 40 3, rfl⟩
    let store : MemoryStore := ⟨.exact,
      [first, second].map fun key => (key.display, some (bareSession key))⟩
    keyMatch store = .exact ∧ WellKeyed store ∧
      ∃ index, rebuild store .epoch = .ok index ∧
        (∀ address ∈ [first.address, second.address, other],
          index.document? address = SessionStore.lookup? store address.checksummed) ∧
        index.document? first.address =
          some ⟨"bsc:0x1111111111111111111111111111111111111111/sessionData.json"⟩ ∧
        index.document? second.address =
          some ⟨"mainet:0x2222222222222222222222222222222222222222/sessionData.json"⟩ ∧
        index.document? other = none := by
  intro first second other store
  have exact : keyMatch store = .exact := rfl
  have wellKeyed : WellKeyed store := by
    refine MemoryStore.wellKeyed_bareSessions (by decide) fun key member => ?_
    obtain rfl | rfl : key = first ∨ key = second := by simpa using member
    · decide
    · decide
  have atFirst : documentsAt store first.address =
      [⟨"bsc:0x1111111111111111111111111111111111111111/sessionData.json"⟩] := by
    decide
  have atSecond : documentsAt store second.address =
      [⟨"mainet:0x2222222222222222222222222222222222222222/sessionData.json"⟩] := by
    decide
  have atOther : documentsAt store other = [] := by decide
  obtain ⟨index, rebuilt⟩ := exists_rebuild wellKeyed rfl .epoch
  have agrees := rebuild_agrees_iff exact wellKeyed .epoch
  rw [rebuilt] at agrees
  have same (address : Address) (few : (documentsAt store address).length ≤ 1)
      (distinct : (documentsAt store address).Nodup) :
      index.document? address = SessionStore.lookup? store address.checksummed :=
    ((agrees address).2.2 distinct).mpr few
  have sameFirst := same first.address (by simp [atFirst]) (by simp [atFirst])
  have sameSecond := same second.address (by simp [atSecond]) (by simp [atSecond])
  have sameOther := same other (by simp [atOther]) (by simp [atOther])
  refine ⟨exact, wellKeyed, index, rebuilt, by simp [sameFirst, sameSecond, sameOther], ?_, ?_, ?_⟩
  · rw [sameFirst, lookup?_eq_head?_documentsAt exact, atFirst]
    rfl
  · rw [sameSecond, lookup?_eq_head?_documentsAt exact, atSecond]
    rfl
  · rw [sameOther, lookup?_eq_head?_documentsAt exact, atOther]
    rfl

/-- Of two sessions at one address, on two networks, the address finds one and the index names the
other. -/
theorem index_names_other_network :
    let address : Address := ⟨List.replicate 40 1, rfl⟩
    let first : SessionKey := ⟨"bsc", address⟩
    let second : SessionKey := ⟨"mainet", address⟩
    let store : MemoryStore := ⟨.exact,
      [(first.display, some (bareSession first)), (second.display, some (bareSession second))]⟩
    keyMatch store = .exact ∧ WellKeyed store ∧
      SessionStore.lookup? store address.checksummed =
        some ⟨"bsc:0x1111111111111111111111111111111111111111/sessionData.json"⟩ ∧
      ∃ index, rebuild store .epoch = .ok index ∧
        index.document? address =
          some ⟨"mainet:0x1111111111111111111111111111111111111111/sessionData.json"⟩ ∧
        index.document? address ≠ SessionStore.lookup? store address.checksummed := by
  intro address first second store
  have exact : keyMatch store = .exact := rfl
  have plain : ∀ key ∈ [first, second], key.network ≠ "" ∧ ':' ∉ key.network.toList := by decide
  have wellKeyed : WellKeyed store := MemoryStore.wellKeyed_bareSessions (by decide) plain
  have both : documentsAt store address =
      [⟨"bsc:0x1111111111111111111111111111111111111111/sessionData.json"⟩,
        ⟨"mainet:0x1111111111111111111111111111111111111111/sessionData.json"⟩] := by
    decide
  obtain ⟨index, rebuilt⟩ := exists_rebuild wellKeyed rfl .epoch
  have found := lookup?_eq_head?_documentsAt exact address
  have named := document?_eq_getLast?_documentsAt wellKeyed rebuilt address
  rw [both] at found named
  refine ⟨exact, wellKeyed, found, index, rebuilt, named, ?_⟩
  rw [found, named]
  decide

end AddressIndex

end ContractAtlas
