import ContractAtlas.Proofs.Store.Naming
import ContractAtlas.Store.Directory
import ContractAtlas.Store.Memory

/-!
# Stores as named directories

Both stores look a query up among the names of their complete directories, and list the documents of
the same directories. `DirectoryView` is that common ground; what a store in exact mode finds is
proved from it once for both. `WellKeyed` says that the names tell the truth: every complete
directory has a session that can be loaded, and its name encodes the key of that session. An address
then finds exactly the sessions at it, on whatever network.
-/

namespace ContractAtlas

namespace SessionStore

variable {σ : Type} [SessionStore σ]

/-- Whether a store lists a session with some document. -/
def Shows (store : σ) (session : Session) : Prop :=
  ∃ listed path, sessions store = .ok listed ∧ (path, session) ∈ listed

/-- Whether a store lists a session with a key. -/
def Holds (store : σ) (key : SessionKey) : Prop :=
  ∃ session, Shows store session ∧ session.key = .ok key

/-- The documents that are loaded are those that can be. -/
theorem mem_loadable {store : σ} {paths : List Path} {path : Path} {session : Session} :
    (path, session) ∈ loadable store paths ↔ path ∈ paths ∧ load store path = .ok session := by
  rw [loadable, List.mem_filterMap]
  constructor
  · rintro ⟨found, member, loads⟩
    cases loaded : load store found with
    | error _ => simp [loaded] at loads
    | ok held =>
        obtain ⟨rfl, rfl⟩ : found = path ∧ held = session := by simpa [loaded] using loads
        exact ⟨member, loaded⟩
  · rintro ⟨member, loaded⟩
    exact ⟨path, member, by simp [loaded]⟩

/-- A store shows the sessions that it can load from its documents. -/
theorem shows_iff {store : σ} {session : Session} :
    Shows store session ↔
      ∃ paths path, documents store = .ok paths ∧ path ∈ paths ∧ load store path = .ok session := by
  rw [Shows, sessions]
  cases documents store with
  | error _ => simp [bind, Except.bind]
  | ok paths => simp [bind, Except.bind, pure, Except.pure, mem_loadable]

/-- Finding a session is looking its document up and loading it. -/
theorem find_eq_ok_iff {store : σ} {query : String} {path : Path} {session : Session} :
    find store query = .ok (path, session) ↔
      lookup? store query = some path ∧ load store path = .ok session := by
  rw [find]
  cases lookup? store query with
  | none => simp [throw, throwThe, MonadExceptOf.throw]
  | some found =>
      cases loaded : load store found with
      | error fault =>
          simp only [bind, Except.bind, loaded, reduceCtorEq, Option.some.injEq, false_iff]
          rintro ⟨rfl, loads⟩
          cases loaded.symm.trans loads
      | ok held =>
          simp only [bind, Except.bind, loaded, pure, Except.pure, Except.ok.injEq, Prod.mk.injEq,
            Option.some.injEq]
          constructor
          · rintro ⟨rfl, rfl⟩
            exact ⟨rfl, loaded⟩
          · rintro ⟨rfl, loads⟩
            exact ⟨rfl, Except.ok.inj (loaded.symm.trans loads)⟩

end SessionStore

/-- An address in exact mode accepts the directory names that encode it, on any network. -/
theorem KeyMatch.accepts_exact_checksummed {address : Address} {name : String} :
    KeyMatch.exact.accepts address.checksummed name = true ↔
      ∃ key contractName, SessionKey.ofDirectoryName? name = some (key, contractName) ∧
        key.address = address := by
  simp [accepts_exact_of_parse? address.parse?_checksummed, SessionKey.EncodedBy]

/-- A store whose lookups go by the names of its complete directories. -/
class DirectoryView (σ : Type) [SessionStore σ] where
  keyMatch : σ → KeyMatch
  /-- The directories that have a document, in the order of their names, with their documents. -/
  complete : σ → Except StoreError (List (String × Path))
  lookup?_eq : ∀ store query, SessionStore.lookup? store query =
    match complete store with
    | .error _ => none
    | .ok named =>
        (named.find? fun directory => (keyMatch store).accepts query directory.1).map Prod.snd
  documents_eq : ∀ store, SessionStore.documents store = (complete store).map (List.map Prod.snd)

/-- The first document among the accepted items is that of the first accepted one that has one. -/
theorem findSome?_filter_eq_find? {α : Type} (items : List α) (name : α → String)
    (document? : α → Option Path) (accepts : String → Bool) :
    (items.filter fun item => accepts (name item)).findSome? document? =
      ((items.filterMap fun item => (document? item).map fun path => (name item, path)).find?
        fun directory => accepts directory.1).map Prod.snd := by
  induction items with
  | nil => rfl
  | cons item later inductionHypothesis =>
      cases document : document? item <;> cases accepted : accepts (name item) <;>
        simp [document, accepted, inductionHypothesis]

/-- Of the accepted names in ascending order the first one comes before all others. -/
theorem le_of_find?_eq_some {names : List String} (sorted : names.Pairwise (· ≤ ·))
    {accepts : String → Bool} {first name : String} (found : names.find? accepts = some first)
    (member : name ∈ names) (accepted : accepts name = true) : first ≤ name := by
  obtain ⟨_, before, after, rfl, rejected⟩ := List.find?_eq_some_iff_append.mp found
  rcases List.mem_append.mp member with early | late
  · exact absurd accepted (by simpa using rejected name early)
  · rcases List.mem_cons.mp late with rfl | late
    · exact le_rfl
    · exact (List.pairwise_cons.mp (List.pairwise_append.mp sorted).2.1).1 name late

instance : DirectoryView DirectoryStore where
  keyMatch := DirectoryStore.keyMatch
  complete store := store.directoryNames.map fun names =>
    names.filterMap fun name => (store.document? name).map fun path => (name, path)
  lookup?_eq store query := by
    simp only [SessionStore.lookup?, DirectoryStore.lookup?]
    cases store.directoryNames with
    | error _ => rfl
    | ok names => exact findSome?_filter_eq_find? names id store.document? _
  documents_eq store := by
    simp only [SessionStore.documents, DirectoryStore.documents]
    cases store.directoryNames with
    | error _ => rfl
    | ok names => simp [Except.map, List.map_filterMap, Option.map_map, Function.comp_def]

instance : DirectoryView MemoryStore where
  keyMatch := MemoryStore.keyMatch
  complete store := .ok (store.directories.filterMap fun directory =>
    (MemoryStore.document? directory).map fun path => (directory.1, path))
  lookup?_eq store query :=
    findSome?_filter_eq_find? store.directories Prod.fst MemoryStore.document?
      (store.keyMatch.accepts query)
  documents_eq store := by
    simp [SessionStore.documents, Except.map, List.map_filterMap, Option.map_map,
      Function.comp_def]

namespace DirectoryView

open SessionStore (Shows Holds)

variable {σ : Type} [SessionStore σ] [DirectoryView σ] {store : σ}

/-- Whether a directory of a store has a document. -/
def Complete (store : σ) (name : String) (path : Path) : Prop :=
  ∃ named, complete store = .ok named ∧ (name, path) ∈ named

/-- A query finds a document exactly if it accepts the name of a complete directory. -/
theorem lookup?_isSome_iff {query : String} :
    (SessionStore.lookup? store query).isSome = true ↔
      ∃ name path, Complete store name path ∧ (keyMatch store).accepts query name = true := by
  rw [lookup?_eq]
  cases listing : complete store with
  | error _ => simp [Complete, listing]
  | ok named => simp [Complete, listing]

/-- A store shows the sessions that can be loaded from its complete directories. -/
theorem shows_iff {session : Session} :
    Shows store session ↔
      ∃ name path, Complete store name path ∧ SessionStore.load store path = .ok session := by
  rw [SessionStore.shows_iff, documents_eq]
  cases listing : complete store with
  | error _ => simp [Complete, listing, Except.map]
  | ok named =>
      have swap : (∃ path, (∃ name, (name, path) ∈ named) ∧
            SessionStore.load store path = .ok session) ↔
          ∃ name path, (name, path) ∈ named ∧ SessionStore.load store path = .ok session :=
        ⟨fun ⟨path, ⟨name, member⟩, loads⟩ => ⟨name, path, member, loads⟩,
          fun ⟨name, path, member, loads⟩ => ⟨path, ⟨name, member⟩, loads⟩⟩
      simpa [Complete, listing, Except.map] using swap

/-- What a query finds is the document of a complete directory. -/
theorem exists_complete_of_lookup? {query : String} {path : Path}
    (found : SessionStore.lookup? store query = some path) :
    ∃ name, Complete store name path ∧ (keyMatch store).accepts query name = true := by
  rw [lookup?_eq] at found
  cases listing : complete store with
  | error _ => simp [listing] at found
  | ok named =>
      rw [listing] at found
      obtain ⟨directory, isFirst, rfl⟩ := Option.map_eq_some_iff.mp found
      have accepted := List.find?_some isFirst
      exact ⟨directory.1, ⟨named, listing, List.mem_of_find?_eq_some isFirst⟩, accepted⟩

/-- Every document that is listed is the one of a complete directory. -/
theorem exists_complete {paths : List Path} (listing : SessionStore.documents store = .ok paths)
    {path : Path} (member : path ∈ paths) : ∃ name, Complete store name path := by
  rw [documents_eq] at listing
  cases named : complete store with
  | error _ => simp [named, Except.map] at listing
  | ok directories =>
      obtain rfl : directories.map Prod.snd = paths := by simpa [named, Except.map] using listing
      obtain ⟨directory, isNamed, rfl⟩ := List.mem_map.mp member
      exact ⟨directory.1, directories, named, isNamed⟩

/-- Whether every complete directory has a session that can be loaded, and is named by its key. -/
def WellKeyed (store : σ) : Prop :=
  ∀ name path, Complete store name path →
    ∃ session key contractName, SessionStore.load store path = .ok session ∧
      session.key = .ok key ∧ SessionKey.ofDirectoryName? name = some (key, contractName)

/-- In a well-keyed store in exact mode an address finds a document exactly if the store holds a
session at the address. The network of that session plays no part. -/
theorem lookup?_isSome_iff_holds (exact : keyMatch store = .exact) (wellKeyed : WellKeyed store)
    {address : Address} :
    (SessionStore.lookup? store address.checksummed).isSome = true ↔
      ∃ network, Holds store ⟨network, address⟩ := by
  rw [lookup?_isSome_iff, exact]
  simp only [KeyMatch.accepts_exact_checksummed]
  constructor
  · rintro ⟨name, path, complete, key, _, encodes, rfl⟩
    obtain ⟨session, stored, _, loads, keyed, named⟩ := wellKeyed name path complete
    obtain rfl : stored = key := by simpa [encodes, eq_comm] using congrArg (·.map Prod.fst) named
    exact ⟨stored.network, session, shows_iff.mpr ⟨name, path, complete, loads⟩, keyed⟩
  · rintro ⟨network, session, shown, keyed⟩
    obtain ⟨name, path, complete, loads⟩ := shows_iff.mp shown
    obtain ⟨loaded, key, contractName, loadsToo, keyedToo, named⟩ := wellKeyed name path complete
    obtain rfl : session = loaded := Except.ok.inj (loads.symm.trans loadsToo)
    obtain rfl : ⟨network, address⟩ = key := Except.ok.inj (keyed.symm.trans keyedToo)
    exact ⟨name, path, complete, _, contractName, named, rfl⟩

/-- In a well keyed store every session that is shown has a key. -/
theorem WellKeyed.exists_key {session : Session} (wellKeyed : WellKeyed store)
    (shown : Shows store session) : ∃ key, session.key = .ok key := by
  obtain ⟨name, path, complete, loads⟩ := shows_iff.mp shown
  obtain ⟨loaded, key, _, loadsToo, keyed, _⟩ := wellKeyed name path complete
  obtain rfl : session = loaded := Except.ok.inj (loads.symm.trans loadsToo)
  exact ⟨key, keyed⟩

/-- What a store is after one readable session with a key has been added to it, in a directory that
encodes the key, and nothing else has changed. -/
structure Adds (key : SessionKey) (before after : σ) : Prop where
  keyMatch_eq : keyMatch after = keyMatch before
  load_eq : ∀ name path, Complete before name path →
    SessionStore.load after path = SessionStore.load before path
  added : ∃ name path session contractName,
    SessionKey.ofDirectoryName? name = some (key, contractName) ∧
    SessionStore.load after path = .ok session ∧ session.key = .ok key ∧
    ∀ otherName otherPath, Complete after otherName otherPath ↔
      Complete before otherName otherPath ∨ otherName = name ∧ otherPath = path

namespace Adds

variable {key : SessionKey} {before after : σ}

/-- Whatever a query found is still found. -/
theorem lookup?_isSome (adds : Adds key before after) {query : String}
    (found : (SessionStore.lookup? before query).isSome = true) :
    (SessionStore.lookup? after query).isSome = true := by
  obtain ⟨name, path, complete, accepted⟩ := lookup?_isSome_iff.mp found
  obtain ⟨_, _, _, _, _, _, _, complete_iff⟩ := adds.added
  refine lookup?_isSome_iff.mpr ⟨name, path, (complete_iff name path).mpr (.inl complete), ?_⟩
  rw [adds.keyMatch_eq]
  exact accepted

/-- In exact mode the address of the key is found. -/
theorem lookup?_key_isSome (adds : Adds key before after) (exact : keyMatch before = .exact) :
    (SessionStore.lookup? after key.checksummedAddress).isSome = true := by
  obtain ⟨name, path, _, contractName, encodes, _, _, complete_iff⟩ := adds.added
  refine lookup?_isSome_iff.mpr ⟨name, path, (complete_iff name path).mpr (.inr ⟨rfl, rfl⟩), ?_⟩
  rw [adds.keyMatch_eq, exact]
  exact KeyMatch.accepts_exact_checksummed.mpr ⟨key, contractName, encodes, rfl⟩

/-- A session that is added under its key keeps a store well keyed. -/
theorem wellKeyed (adds : Adds key before after) (wellKeyed : WellKeyed before) :
    WellKeyed after := by
  obtain ⟨addedName, addedPath, session, contractName, encodes, loads, keyed, complete_iff⟩ :=
    adds.added
  intro name path complete
  obtain old | ⟨rfl, rfl⟩ := (complete_iff name path).mp complete
  · rw [adds.load_eq name path old]
    exact wellKeyed name path old
  · exact ⟨session, key, contractName, loads, keyed, encodes⟩

end Adds

end DirectoryView

end ContractAtlas
