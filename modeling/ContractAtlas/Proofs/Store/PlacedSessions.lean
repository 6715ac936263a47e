import ContractAtlas.Proofs.Store.Documents

/-!
# Sessions that are placed under their keys

Where the names of directories tell the keys of their sessions (`NamesKeys`), what is found under a
name is the session with the key that the name encodes. A list of sessions with a name for each
gives such a store in memory and in a data directory if the names are in order and encode the keys
(`TellsKeys`). What both stores then find is proved of any store that has the sessions in the
directories (`Places`). -/

namespace ContractAtlas

open Json.SortedFields

/-- Whether every complete directory is named by the key of its session, if the session can be
loaded, on a supported network, and no two directories are named by one key. -/
structure NamesKeys {σ : Type} [RegisteringStore σ] [DirectoryView σ] (store : σ) : Prop where
  named : ∀ name path session, DirectoryView.Complete store name path →
    SessionStore.load store path = .ok session →
    ∃ key, session.key = .ok key ∧ key.EncodedBy name ∧ Network.isSupported key.network = true
  alone : ∀ names, RegisteringStore.directoryNames store = .ok names →
    ∀ name ∈ names, ∀ other ∈ names, ∀ key : SessionKey,
      key.EncodedBy name → key.EncodedBy other → name = other

/-- Names tell keys if they do so for the directories that are listed. -/
theorem NamesKeys.of_listing {σ : Type} [RegisteringStore σ] [DirectoryView σ] {store : σ}
    {names : List String} {directories : List (String × Path)}
    (listing : RegisteringStore.directoryNames store = .ok names)
    (complete : DirectoryView.complete store = .ok directories)
    (named : ∀ directory ∈ directories, ∀ session,
      SessionStore.load store directory.2 = .ok session →
      ∃ key, session.key = .ok key ∧ key.EncodedBy directory.1 ∧
        Network.isSupported key.network = true)
    (alone : ∀ name ∈ names, ∀ other ∈ names, ∀ key : SessionKey,
      key.EncodedBy name → key.EncodedBy other → name = other) : NamesKeys store where
  named name path session := by
    rintro ⟨listed, completeToo, member⟩
    obtain rfl := Except.ok.inj (complete.symm.trans completeToo)
    exact named _ member session
  alone listed listingToo := by
    obtain rfl := Except.ok.inj (listing.symm.trans listingToo)
    exact alone

/-! ## Sessions with a directory for each -/

/-- Whether the names that are given to sessions are those of directories, in order, and encode the
keys of the sessions, which are different and on supported networks. -/
structure TellsKeys (placed : List (String × Session)) : Prop where
  sorted : (placed.map Prod.fst).Pairwise (· < ·)
  areNames : ∀ one ∈ placed, IsDirectoryName one.1
  named : ∀ one ∈ placed, ∃ key, one.2.key = .ok key ∧ key.EncodedBy one.1 ∧
    Network.isSupported key.network = true
  distinct : (placed.map fun one => one.2.key).Nodup

/-- No two names encode one key. -/
theorem TellsKeys.alone {placed : List (String × Session)} (tells : TellsKeys placed) :
    ∀ name ∈ placed.map Prod.fst, ∀ other ∈ placed.map Prod.fst, ∀ key : SessionKey,
      key.EncodedBy name → key.EncodedBy other → name = other := by
  simp only [List.forall_mem_map]
  intro first isFirst second isSecond key encodes encodesToo
  obtain ⟨keyFirst, keyedFirst, encodedFirst, _⟩ := tells.named first isFirst
  obtain ⟨keySecond, keyedSecond, encodedSecond, _⟩ := tells.named second isSecond
  have same : first.2.key = second.2.key := by
    rw [keyedFirst, keyedSecond, encodedFirst.unique encodes, encodesToo.unique encodedSecond]
  rw [List.inj_on_of_nodup_map tells.distinct isFirst isSecond same]

/-- Whether a store has the sessions that are placed, each in its directory, and no others. -/
structure Places {σ : Type} [RegisteringStore σ] [DirectoryView σ] (store : σ)
    (path : String → Path) (placed : List (String × Session)) : Prop where
  directoryNames : RegisteringStore.directoryNames store = .ok (placed.map Prod.fst)
  complete : DirectoryView.complete store = .ok (placed.map fun one => (one.1, path one.1))
  loads : ∀ one ∈ placed, SessionStore.load store (path one.1) = .ok one.2

namespace Places

variable {σ : Type} [RegisteringStore σ] [DirectoryView σ] {store : σ} {path : String → Path}
  {placed : List (String × Session)}

/-- The complete directories are those of the sessions. -/
theorem complete_iff (places : Places store path placed) {name : String} {document : Path} :
    DirectoryView.Complete store name document ↔
      ∃ one ∈ placed, one.1 = name ∧ path one.1 = document := by
  simp [DirectoryView.Complete, places.complete]

/-- What a complete directory holds is the session that was placed there. -/
theorem exists_of_complete (places : Places store path placed) {name : String} {document : Path}
    {session : Session} (complete : DirectoryView.Complete store name document)
    (loads : SessionStore.load store document = .ok session) :
    (name, session) ∈ placed ∧ document = path name := by
  obtain ⟨one, member, rfl, rfl⟩ := places.complete_iff.mp complete
  obtain rfl := Except.ok.inj ((places.loads one member).symm.trans loads)
  exact ⟨member, rfl⟩

/-- Names tell keys in a store that has placed sessions whose names do. -/
theorem namesKeys (places : Places store path placed) (tells : TellsKeys placed) :
    NamesKeys store := by
  refine .of_listing places.directoryNames places.complete ?_ tells.alone
  rintro directory inComplete session loads
  obtain ⟨one, member, rfl⟩ := List.mem_map.mp inComplete
  obtain rfl := Except.ok.inj ((places.loads one member).symm.trans loads)
  exact tells.named one member

/-- The store shows what was placed in it. -/
theorem shows (places : Places store path placed) {one : String × Session} (member : one ∈ placed) :
    SessionStore.Shows store one.2 :=
  DirectoryView.shows_iff.mpr
    ⟨one.1, path one.1, places.complete_iff.mpr ⟨one, member, rfl, rfl⟩, places.loads one member⟩

/-- A query finds the first directory that it accepts. -/
theorem lookup?_eq (places : Places store path placed) {query : String} {name : String}
    (first : (placed.map Prod.fst).find? ((DirectoryView.keyMatch store).accepts query) =
      some name) : SessionStore.lookup? store query = some (path name) := by
  rw [DirectoryView.lookup?_eq, places.complete]
  rw [List.find?_map] at first
  obtain ⟨one, found, rfl⟩ := Option.map_eq_some_iff.mp first
  simp only [List.find?_map, Option.map_map]
  exact Option.map_eq_some_iff.mpr ⟨one, found, rfl⟩

/-- The session in the first directory that a query accepts is found. -/
theorem find_eq (places : Places store path placed) {query : String} {one : String × Session}
    (member : one ∈ placed)
    (first : (placed.map Prod.fst).find? ((DirectoryView.keyMatch store).accepts query) =
      some one.1) : SessionStore.find store query = .ok (path one.1, one.2) :=
  SessionStore.find_eq_ok_iff.mpr ⟨places.lookup?_eq first, places.loads one member⟩

end Places

/-- The store in memory with the sessions that are placed. -/
def MemoryStore.ofPlaced (keyMatch : KeyMatch) (placed : List (String × Session)) : MemoryStore :=
  ⟨keyMatch, placed.map fun one => (one.1, some one.2)⟩

namespace TellsKeys

variable {placed : List (String × Session)} (tells : TellsKeys placed) (keyMatch : KeyMatch)

include tells

/-- The store in memory has its directories in order. -/
theorem sorted_ofPlaced : Sorted (MemoryStore.ofPlaced keyMatch placed).directories := by
  have names_eq : names (MemoryStore.ofPlaced keyMatch placed).directories =
      placed.map Prod.fst := by
    simp [names, MemoryStore.ofPlaced]
  rw [Sorted, names_eq]
  exact tells.sorted

/-- The store in memory places the sessions. -/
theorem places_ofPlaced :
    Places (MemoryStore.ofPlaced keyMatch placed) MemoryStore.documentPath placed where
  directoryNames := by
    simp [RegisteringStore.directoryNames, MemoryStore.ofPlaced, names]
  complete := by
    simp [DirectoryView.complete, MemoryStore.ofPlaced, MemoryStore.document?, List.filterMap_map,
      Function.comp_def, List.filterMap_eq_map']
  loads one member := by
    have held : (one.1, some one.2) ∈ (MemoryStore.ofPlaced keyMatch placed).directories :=
      List.mem_map_of_mem member
    exact MemoryStore.load_documentPath_of_isName (tells.areNames one member).isName
      (MemoryStore.session?_of_mem (tells.sorted_ofPlaced keyMatch) held)

/-- The documents of placed sessions make a well formed tree. -/
theorem wellFormed_documentFiles : (DirectoryStore.documentFiles
    (placed.map fun one => (one.1, one.2.write))).WellFormed := by
  refine DirectoryStore.wellFormed_documentFiles ?_ ?_
  · simpa [Function.comp_def] using tells.sorted.nodup
  · simpa using fun name session member => (tells.areNames (name, session) member).isName

/-- The text of a session is what is found under its name. -/
theorem lookup_document {one : String × Session} (member : one ∈ placed) :
    (placed.map fun one => (one.1, one.2.write)).lookup one.1 = some one.2.write := by
  obtain ⟨before, later, rfl⟩ := List.append_of_mem member
  refine List.lookup_eq_some_iff.mpr ⟨before.map fun one => (one.1, one.2.write),
    later.map fun one => (one.1, one.2.write), by simp, fun document isBefore => ?_⟩
  obtain ⟨other, isOther, rfl⟩ := List.mem_map.mp isBefore
  have ordered := tells.sorted
  rw [List.map_append] at ordered
  have less : other.1 < one.1 := (List.pairwise_append.mp ordered).2.2 _
    (List.mem_map_of_mem isOther) _ (List.mem_cons_self ..)
  exact bne_iff_ne.mpr less.ne'

/-- The store in the data directory with the texts of the sessions places the sessions. -/
theorem places_ofDocuments
    (readable : ∀ one ∈ placed, Session.read? one.2.write = some one.2) :
    let store := DirectoryStore.ofDocuments keyMatch (placed.map fun one => (one.1, one.2.write))
    Places store store.documentPath placed := by
  intro store
  have names_eq :
      (placed.map fun one => (one.1, one.2.write)).map Prod.fst = placed.map Prod.fst := by
    simp
  have sorted : ((placed.map fun one => (one.1, one.2.write)).map Prod.fst).Pairwise (· < ·) :=
    names_eq ▸ tells.sorted
  have areNames : ∀ name ∈ (placed.map fun one => (one.1, one.2.write)).map Prod.fst,
      IsDirectoryName name := by
    rw [names_eq]
    exact List.forall_mem_map.mpr tells.areNames
  refine ⟨?_, ?_, fun one member => DirectoryStore.load_ofDocuments (tells.areNames one member)
    (tells.lookup_document member) (readable one member)⟩
  · rw [← names_eq]
    exact DirectoryStore.directoryNames_ofDocuments sorted fun name listed =>
      (areNames name listed).isName
  · refine (DirectoryStore.complete_ofDocuments sorted areNames).trans ?_
    simp [store, Function.comp_def]

/-- Every document can be replaced. -/
theorem replaceable_ofDocuments {name : String} {session : Session}
    (member : (name, session) ∈ placed) :
    (DirectoryStore.ofDocuments keyMatch (placed.map fun one => (one.1, one.2.write))).Replaceable
      name := by
  refine DirectoryStore.replaceable_ofDocuments (tells.areNames _ member) ?_
  simpa using ⟨session, member⟩

end TellsKeys

/-! ## Two sessions -/

/-- Two sessions tell their keys if their names are in order and are those of two keys. -/
theorem TellsKeys.pair {key other : SessionKey} {session otherSession : Session}
    {contractName otherName : String} (apart : key ≠ other)
    (ordered : key.directoryName contractName < other.directoryName otherName)
    (areNames : IsDirectoryName (key.directoryName contractName) ∧
      IsDirectoryName (other.directoryName otherName))
    (keyed : session.key = .ok key ∧ otherSession.key = .ok other)
    (supported : Network.isSupported key.network = true ∧
      Network.isSupported other.network = true) :
    TellsKeys [(key.directoryName contractName, session),
      (other.directoryName otherName, otherSession)] where
  sorted := by simpa using ordered
  areNames := by simpa using areNames
  named := by
    have encoded {key : SessionKey} (supported : Network.isSupported key.network = true)
        (contractName : String) : key.EncodedBy (key.directoryName contractName) :=
      SessionKey.encodedBy_directoryName (Network.plain_of_isSupported supported).2 contractName
    simp only [List.mem_cons, List.not_mem_nil, or_false, forall_eq_or_imp, forall_eq]
    exact ⟨⟨key, keyed.1, encoded supported.1 contractName, supported.1⟩,
      other, keyed.2, encoded supported.2 otherName, supported.2⟩
  distinct := by simpa [keyed] using apart

/-- A session about the token, which keeps the address of its owner. -/
def ownedSession : Session where
  networkInfo :=
    { contractName := "Token", contractNetwork := "mainet"
      contractAddress := "0x2222222222222222222222222222222222222222" }
  stateVariables := [{ name := "owner", type := "address", isVariable := true }]

/-- The session about the token has its key. -/
theorem key_ownedSession : ownedSession.key = .ok tokenKey := by decide

/-- The session about the token has no fractions in it. -/
theorem integers_ownedSession :
    ∀ number ∈ ownedSession.toJson.numbers, number.IsInteger := by
  have none : ownedSession.toJson.numbers = [] := rfl
  rw [none]
  exact List.forall_mem_nil _

/-- The session about the token is read back. -/
theorem read?_write_ownedSession : Session.read? ownedSession.write = some ownedSession :=
  Session.read?_write (Session.asRead_of_plain _ _ (List.forall_mem_singleton.mpr rfl))
    integers_ownedSession

/-- The sessions of the vault and the token, each in the directory of its key. -/
def vaultAndToken : List (String × Session) :=
  [(vaultKey.directoryName "Vault", vaultSession none),
    (tokenKey.directoryName "Token", ownedSession)]

/-- The names of the two directories tell the keys of the vault and the token. -/
theorem tellsKeys_vaultAndToken : TellsKeys vaultAndToken := by
  have short : tokenKey.network.utf8ByteSize + 44 + "Token".utf8ByteSize <=
      FileTree.nameLimit := by decide
  have isDirectoryName : IsDirectoryName (tokenKey.directoryName "Token") :=
    SessionKey.isDirectoryName_directoryName
      (SessionKey.isName_directoryName (by decide) (by decide) (by decide) (by decide)) short
  exact .pair (by decide) (by decide) ⟨isDirectoryName_vault, isDirectoryName⟩
    ⟨key_vaultSession none, key_ownedSession⟩ ⟨by decide, by decide⟩

/-- Both sessions are read back. -/
theorem readable_vaultAndToken :
    ∀ one ∈ vaultAndToken, Session.read? one.2.write = some one.2 := by
  simpa [vaultAndToken] using ⟨read?_write_vaultSession none, read?_write_ownedSession⟩

/-- The address of either session is accepted by the name of its own directory first. -/
theorem find?_vaultAndToken (keyMatch : KeyMatch) : ∀ one ∈ vaultAndToken,
    (vaultAndToken.map Prod.fst).find? (keyMatch.accepts one.2.contractAddress) = some one.1 := by
  cases keyMatch <;> decide

end ContractAtlas
