import ContractAtlas.Proofs.Session.Reading
import ContractAtlas.Proofs.Store.Directories
import ContractAtlas.Proofs.Store.Mirror
import ContractAtlas.Proofs.Store.Operations

/-!
# The two stores agree

While a data directory mirrors a store in memory, both answer every question alike up to the
directory that leads the paths (`answer_eq`), and a change has the same outcome in both and leaves
them alike (`apply_eq`). Only documents can be loaded, and a document that was once answered stays:
that is why a path may be loaded long after it was answered. Whole histories follow by induction.
-/

namespace ContractAtlas

open Json.SortedFields

/-- The path on disk of a document that a store in memory names by its directory. -/
def DataDirectory.relocate (directory : DataDirectory) (path : Path) : Path :=
  directory.sessions.join path.text

namespace MemoryStore

/-- Whether a path is the one of a document. -/
def HasDocument (store : MemoryStore) (path : Path) : Prop :=
  ∃ name session, path = documentPath name ∧ store.session? name = some session

/-- The path of a document is the name of its directory with that of the document after it. -/
theorem documentPath_of_isName {name : String} (isName : Path.IsName name) :
    documentPath name = ⟨name ++ "/" ++ documentName⟩ :=
  Path.join_eq (Path.isOpen_append "" isName.nonempty isName.noSlash) (by decide)

/-- The path of a document leads back to its directory, whatever the name of it ends in. -/
theorem parent?_of_isName {name : String} (isName : Path.IsName name) :
    (documentPath name).parent? = some ⟨name⟩ := by
  have characters : name.toList.reverse ≠ [] := by simpa using isName.nonempty
  have noSlash : '/' ∉ name.toList.reverse := by simpa using isName.noSlash
  have file : documentName.toList.reverse = 'n' :: "osj.ataDnoisses".toList := by decide
  have reversed : (name ++ "/" ++ documentName).toList.reverse =
      'n' :: ("osj.ataDnoisses".toList ++ '/' :: name.toList.reverse) := by
    simp [file]
  rw [documentPath_of_isName isName, Path.parent?, reversed,
    Path.trimEndReversed_of_plain (by decide) (by decide)]
  simp [Path.trimEndReversed_slash_cons characters noSlash]

/-- The document of a directory is loaded as the session that the directory holds. -/
theorem load_documentPath_of_isName {store : MemoryStore} {name : String} {session : Session}
    (isName : Path.IsName name) (held : store.session? name = some session) :
    store.load (documentPath name) = .ok session := by
  have found : find? name store.directories = some (some session) := by
    simpa [session?, Option.join_eq_some_iff] using held
  simp [load, parent?_of_isName isName, found]

/-- The session of a directory is the one that the list has beside its name. -/
theorem session?_of_mem {store : MemoryStore} (sorted : Sorted store.directories)
    {directory : String × Option Session} (member : directory ∈ store.directories) :
    store.session? directory.1 = directory.2 := by
  rw [session?, (find?_eq_some_iff sorted.nodup).mpr member]
  rfl

/-- A session is held by a directory of the list. -/
theorem mem_of_session? {store : MemoryStore} {name : String} {session : Session}
    (held : store.session? name = some session) : (name, some session) ∈ store.directories :=
  mem_of_find? (Option.join_eq_some_iff.mp held)

/-- The directories with a document are those with a session. -/
theorem complete_iff {store : MemoryStore} {name : String} {path : Path} :
    DirectoryView.Complete store name path ↔
      ∃ session, (name, some session) ∈ store.directories ∧ documentPath name = path := by
  simp only [DirectoryView.Complete, DirectoryView.complete, document?, Except.ok.injEq,
    exists_eq_left', List.mem_filterMap, Option.map_map, Option.map_eq_some_iff]
  constructor
  · rintro ⟨directory, member, session, held, same⟩
    obtain ⟨rfl, rfl⟩ := Prod.mk.inj same
    exact ⟨session, held ▸ member, rfl⟩
  · rintro ⟨session, member, rfl⟩
    exact ⟨_, member, session, rfl, rfl⟩

/-- The complete directories are those that hold a session. -/
theorem complete_iff_session? {store : MemoryStore} (sorted : Sorted store.directories)
    {name : String} {path : Path} : DirectoryView.Complete store name path ↔
      ∃ session, store.session? name = some session ∧ documentPath name = path := by
  rw [complete_iff]
  exact exists_congr fun session => and_congr_left fun _ =>
    ⟨session?_of_mem sorted, mem_of_session?⟩

/-- The documents of the list are documents of the store. -/
theorem hasDocument_of_mem {store : MemoryStore} (sorted : Sorted store.directories)
    {directory : String × Option Session} (member : directory ∈ store.directories) {path : Path}
    (document : document? directory = some path) : store.HasDocument path := by
  obtain ⟨session, held, rfl⟩ := Option.map_eq_some_iff.mp document
  exact ⟨directory.1, session, rfl, (session?_of_mem sorted member).trans held⟩

/-- What a query finds is a document of the store. -/
theorem hasDocument_of_lookup? {store : MemoryStore} (sorted : Sorted store.directories)
    {query : String} {path : Path} (found : store.lookup? query = some path) :
    store.HasDocument path := by
  obtain ⟨directory, member, document⟩ := List.exists_of_findSome?_eq_some found
  exact hasDocument_of_mem sorted (List.mem_of_mem_filter member) document

/-- What is listed is a document of the store. -/
theorem hasDocument_of_documents {store : MemoryStore} (sorted : Sorted store.directories)
    {path : Path} (listed : path ∈ store.directories.filterMap document?) :
    store.HasDocument path := by
  obtain ⟨directory, member, document⟩ := List.mem_filterMap.mp listed
  exact hasDocument_of_mem sorted member document

/-- A document stays when a session is put into a directory. -/
theorem HasDocument.put {store : MemoryStore} {path : Path} (has : store.HasDocument path)
    (name : String) (session : Session) : (store.put name (some session)).HasDocument path := by
  obtain ⟨other, held, rfl, found⟩ := has
  by_cases same : name = other
  · exact ⟨other, session, rfl, by rw [session?_put, if_pos same]⟩
  · exact ⟨other, held, rfl, by rw [session?_put, if_neg same, found]⟩

/-- A document stays when a directory without one is registered. -/
theorem HasDocument.addIncomplete {store : MemoryStore} {path : Path}
    (has : store.HasDocument path) {name : String} (free : store.session? name = none) :
    (store.addIncomplete name).HasDocument path := by
  obtain ⟨other, held, rfl, found⟩ := has
  have apart : name ≠ other := by
    rintro rfl
    rw [free] at found
    cases found
  have same : store.addIncomplete name = store.put name none := rfl
  exact ⟨other, held, rfl, by rw [same, session?_put, if_neg apart, found]⟩

end MemoryStore

namespace DirectoryStore.Mirrors

variable {place : Place} {memory : MemoryStore} {disk : DirectoryStore}

/-- The path of a document in memory is relocated to its path in the data directory. -/
theorem relocate_documentPath (mirrors : Mirrors place memory disk) {name : String}
    (listed : name ∈ names memory.directories) :
    disk.directory.relocate (MemoryStore.documentPath name) = disk.documentPath name :=
  have isName := (mirrors.isDirectoryName name listed).isName
  Path.join_join (isOpen_sessions disk.directory) isName.nonempty isName.noSlash (by decide)

/-- The document of a directory in memory, on disk. -/
theorem document?_of_mem (mirrors : Mirrors place memory disk)
    {directory : String × Option Session} (member : directory ∈ memory.directories) :
    disk.document? directory.1 =
      (MemoryStore.document? directory).map disk.directory.relocate := by
  have listed : directory.1 ∈ names memory.directories := List.mem_map_of_mem member
  rw [mirrors.document?_eq listed, MemoryStore.session?_of_mem mirrors.sorted member,
    MemoryStore.document?, Option.map_map]
  exact congrArg (fun path => directory.2.map fun _ => path)
    (mirrors.relocate_documentPath listed).symm

/-- The first document among some directories is the same, relocated. -/
theorem findSome?_eq (mirrors : Mirrors place memory disk)
    {directories : List (String × Option Session)}
    (members : ∀ directory ∈ directories, directory ∈ memory.directories) :
    directories.findSome? (fun directory => disk.document? directory.1) =
      (directories.findSome? MemoryStore.document?).map disk.directory.relocate := by
  induction directories with
  | nil => rfl
  | cons directory later inductionHypothesis =>
      obtain ⟨member, membersLater⟩ := List.forall_mem_cons.mp members
      rw [List.findSome?_cons, List.findSome?_cons, mirrors.document?_of_mem member,
        inductionHypothesis membersLater]
      cases MemoryStore.document? directory <;> rfl

/-- A query finds the same document in both stores. -/
theorem lookup?_eq (mirrors : Mirrors place memory disk) (query : String) :
    disk.lookup? query = (memory.lookup? query).map disk.directory.relocate := by
  rw [DirectoryStore.lookup?, mirrors.directoryNames, MemoryStore.lookup?, mirrors.keyMatch]
  simp only [names, List.filter_map, List.findSome?_map]
  exact mirrors.findSome?_eq fun directory member => List.mem_of_mem_filter member

/-- The documents listed are the same, relocated. -/
theorem documents_eq (mirrors : Mirrors place memory disk) :
    disk.documents =
      .ok ((memory.directories.filterMap MemoryStore.document?).map disk.directory.relocate) := by
  rw [DirectoryStore.documents, mirrors.directoryNames, List.map_filterMap]
  refine congrArg Except.ok ?_
  change (memory.directories.map Prod.fst).filterMap disk.document? = _
  rw [List.filterMap_map]
  exact List.filterMap_congr fun directory member => mirrors.document?_of_mem member

/-- A document of the store in memory is loaded as the same session. -/
theorem load_eq (mirrors : Mirrors place memory disk) {path : Path}
    (documented : memory.HasDocument path) :
    disk.load (disk.directory.relocate path) = memory.load path := by
  obtain ⟨name, session, rfl, held⟩ := documented
  have listed := MemoryStore.mem_names_of_session? held
  rw [mirrors.relocate_documentPath listed, mirrors.load_documentPath held,
    MemoryStore.load_documentPath_of_isName (mirrors.isDirectoryName name listed).isName held]

/-- A query that finds a session finds the same one in both stores. -/
theorem find_eq (mirrors : Mirrors place memory disk) (query : String) :
    SessionStore.find disk query = (SessionStore.find memory query).map fun document =>
      (disk.directory.relocate document.1, document.2) := by
  have lookup : SessionStore.lookup? disk query =
      (SessionStore.lookup? memory query).map disk.directory.relocate := mirrors.lookup?_eq query
  rw [SessionStore.find, SessionStore.find, lookup]
  cases found : SessionStore.lookup? memory query with
  | none => rfl
  | some path =>
      have loads : SessionStore.load disk (disk.directory.relocate path) =
          SessionStore.load memory path :=
        mirrors.load_eq (MemoryStore.hasDocument_of_lookup? mirrors.sorted found)
      simp only [Option.map_some, loads]
      cases SessionStore.load memory path <;> rfl

/-- The same documents can be loaded. -/
theorem loadable_eq (mirrors : Mirrors place memory disk) {paths : List Path}
    (documented : ∀ path ∈ paths, memory.HasDocument path) :
    SessionStore.loadable disk (paths.map disk.directory.relocate) =
      (SessionStore.loadable memory paths).map fun document =>
        (disk.directory.relocate document.1, document.2) := by
  induction paths with
  | nil => rfl
  | cons path later inductionHypothesis =>
      obtain ⟨has, hasLater⟩ := List.forall_mem_cons.mp documented
      have loads : SessionStore.load disk (disk.directory.relocate path) =
          SessionStore.load memory path := mirrors.load_eq has
      have rest := inductionHypothesis hasLater
      simp only [SessionStore.loadable] at rest ⊢
      rw [List.map_cons, List.filterMap_cons, List.filterMap_cons, loads, rest]
      cases SessionStore.load memory path <;> rfl

/-- Both stores list the same sessions in the same order. -/
theorem sessions_eq (mirrors : Mirrors place memory disk) :
    SessionStore.sessions disk = (SessionStore.sessions memory).map (List.map fun document =>
      (disk.directory.relocate document.1, document.2)) := by
  have listing : SessionStore.documents disk = _ := mirrors.documents_eq
  rw [SessionStore.sessions, SessionStore.sessions, listing]
  exact congrArg Except.ok (mirrors.loadable_eq fun _ listed =>
    MemoryStore.hasDocument_of_documents mirrors.sorted listed)

end DirectoryStore.Mirrors

/-! ## Histories -/

/-- Whether an operation may be performed on a store, given the paths that it has answered. A
session that is saved was read from a document whose numbers are integers, a directory is registered
only where there is no document, and only answered paths are loaded. -/
def StoreOperation.Allowed (store : MemoryStore) (answered : List Path) : StoreOperation → Prop
  | .change (.save session) =>
      (∃ text, Session.read? text = some session) ∧
      (∀ number ∈ session.toJson.numbers, number.IsInteger) ∧
      ∀ key, session.key = .ok key →
        IsDirectoryName (store.directoryFor key session.contractName)
  | .change (.register name) => IsDirectoryName name ∧ store.session? name = none
  | .query (.load path) => path ∈ answered
  | .query _ => True

/-- Whether each of a list of operations may be performed after those before it. -/
def StoreOperation.AllAllowed (store : MemoryStore) (answered : List Path) :
    List StoreOperation → Prop
  | [] => True
  | operation :: later =>
      operation.Allowed store answered ∧
      AllAllowed (operation.perform store).2 (answered ++ (operation.perform store).1.paths) later

/-- A session with a key is put into the directory of the key. -/
theorem MemoryStore.save_of_key (store : MemoryStore) {session : Session} {key : SessionKey}
    (keyed : session.key = .ok key) :
    store.save session =
      (.ok (documentPath (store.directoryFor key session.contractName)),
        store.put (store.directoryFor key session.contractName) (some session)) := by
  rw [save, keyed]
  rfl

namespace DirectoryStore.Mirrors

variable {place : Place} {memory : MemoryStore} {disk : DirectoryStore}

/-- A directory is registered on disk as it is in memory. -/
theorem register (mirrors : Mirrors place memory disk) {name : String}
    (isDirectoryName : IsDirectoryName name) (free : memory.session? name = none) :
    ∃ later, disk.ensureDirectory name = (.ok (disk.directory.session name), later) ∧
      later.directory = disk.directory ∧ Mirrors place (memory.addIncomplete name) later := by
  by_cases listed : name ∈ names memory.directories
  · have same : memory.addIncomplete name = memory := by
      obtain ⟨held, found⟩ := Option.isSome_iff_exists.mp (mem_names_iff.mp listed)
      have empty : held = none := by simpa [MemoryStore.session?, found] using free
      rw [MemoryStore.addIncomplete, insert_eq_self mirrors.sorted (empty ▸ found)]
    rw [same]
    exact ⟨disk, mirrors.ensureDirectory_listed listed, rfl, mirrors⟩
  · exact mirrors.ensureDirectory_new isDirectoryName listed

/-- One change has the same outcome in both stores, and leaves them alike. -/
theorem apply_eq (mirrors : Mirrors place memory disk) {answered : List Path}
    {change : StoreChange} (allowed : (StoreOperation.change change).Allowed memory answered) :
    ∃ later, change.apply disk =
        ((change.apply memory).1.map (Option.map disk.directory.relocate), later) ∧
      later.directory = disk.directory ∧ Mirrors place (change.apply memory).2 later := by
  cases change with
  | save session =>
      obtain ⟨⟨_, read⟩, integers, valid⟩ := allowed
      have inMemory : (StoreChange.save session).apply memory =
          ((memory.save session).1.map some, (memory.save session).2) := rfl
      have onDisk : (StoreChange.save session).apply disk =
          ((disk.save session).1.map some, (disk.save session).2) := rfl
      rw [inMemory, onDisk]
      cases keyed : session.key with
      | error invalid =>
          have unsaved : memory.save session = (.error (.invalidTarget invalid), memory) := by
            rw [MemoryStore.save, keyed]
          have unsavedToo : disk.save session = (.error (.invalidTarget invalid), disk) := by
            rw [DirectoryStore.save, keyed]
          rw [unsaved, unsavedToo]
          exact ⟨disk, rfl, rfl, mirrors⟩
      | ok key =>
          have readable := Session.read?_write (Session.asRead_of_read? read) integers
          obtain ⟨later, saved, sameDirectory, mirrorsAfter⟩ :=
            mirrors.save keyed (valid key keyed) readable
          refine ⟨later, ?_, sameDirectory, mirrorsAfter⟩
          have listed : memory.directoryFor key session.contractName ∈
              names (memory.save session).2.directories := by
            rw [memory.save_of_key keyed]
            exact mem_names_insert.mpr (.inl rfl)
          have relocated := mirrorsAfter.relocate_documentPath listed
          rw [sameDirectory, DirectoryStore.documentPath, sameDirectory] at relocated
          rw [saved, memory.save_of_key keyed]
          simp only [Except.map, Option.map_some, relocated]
          rfl
  | register name =>
      obtain ⟨isDirectoryName, free⟩ := allowed
      obtain ⟨later, ensured, sameDirectory, mirrorsAfter⟩ := mirrors.register isDirectoryName free
      refine ⟨later, ?_, sameDirectory, mirrorsAfter⟩
      simp only [StoreChange.apply, RegisteringStore.register, ensured]
      rfl

/-- Documents stay, and the path of a session that has been saved is one. -/
theorem hasDocument_apply {answered : List Path}
    (documented : ∀ path ∈ answered, memory.HasDocument path) {change : StoreChange}
    (allowed : (StoreOperation.change change).Allowed memory answered) :
    ∀ path ∈ answered ++ (StoreAnswer.changed (change.apply memory).1).paths,
      (change.apply memory).2.HasDocument path := by
  intro path member
  cases change with
  | save session =>
      have inMemory : (StoreChange.save session).apply memory =
          ((memory.save session).1.map some, (memory.save session).2) := rfl
      rw [inMemory] at member ⊢
      cases keyed : session.key with
      | error invalid =>
          have unsaved : memory.save session = (.error (.invalidTarget invalid), memory) := by
            rw [MemoryStore.save, keyed]
          rw [unsaved] at member ⊢
          exact documented path (by simpa [StoreAnswer.paths, Except.map] using member)
      | ok key =>
          rw [memory.save_of_key keyed] at member ⊢
          obtain old | new := List.mem_append.mp member
          · exact (documented path old).put _ session
          · obtain rfl := List.mem_singleton.mp new
            exact ⟨_, session, rfl, by rw [MemoryStore.session?_put, if_pos rfl]⟩
  | register name =>
      have old : path ∈ answered := by
        simpa [StoreChange.apply, RegisteringStore.register, StoreAnswer.paths, Except.map]
          using member
      exact (documented path old).addIncomplete allowed.2

/-- One question has the same answer in both stores. -/
theorem answer_eq (mirrors : Mirrors place memory disk) {answered : List Path}
    (documented : ∀ path ∈ answered, memory.HasDocument path) {query : StoreQuery}
    (allowed : (StoreOperation.query query).Allowed memory answered) :
    ((StoreOperation.query query).move disk.directory.relocate).perform disk =
      ((query.answer memory).move disk.directory.relocate, disk) := by
  cases query with
  | lookup query => exact congrArg (·, disk) (congrArg _ (mirrors.lookup?_eq query))
  | documents => exact congrArg (·, disk) (congrArg _ mirrors.documents_eq)
  | load path => exact congrArg (·, disk) (congrArg _ (mirrors.load_eq (documented path allowed)))
  | find query => exact congrArg (·, disk) (congrArg _ (mirrors.find_eq query))
  | sessions => exact congrArg (·, disk) (congrArg _ mirrors.sessions_eq)

/-- The paths in an answer are those of documents. -/
theorem hasDocument_answer (mirrors : Mirrors place memory disk) (query : StoreQuery) :
    ∀ path ∈ (query.answer memory).paths, memory.HasDocument path := by
  intro path member
  cases query with
  | lookup query =>
      exact MemoryStore.hasDocument_of_lookup? mirrors.sorted (Option.mem_toList.mp member)
  | documents => exact MemoryStore.hasDocument_of_documents mirrors.sorted member
  | load asked => cases member
  | find query =>
      cases found : memory.lookup? query with
      | none =>
          have missing : SessionStore.find memory query = .error (.sessionNotFound query) := by
            simp only [SessionStore.find, SessionStore.lookup?, found]
            rfl
          rw [StoreQuery.answer, missing] at member
          cases member
      | some held =>
          have finds : SessionStore.find memory query = (memory.load held).map fun session =>
              (held, session) := by
            simp only [SessionStore.find, SessionStore.lookup?, found]
            cases loads : memory.load held <;> simp [SessionStore.load, loads, bind, Except.bind,
              pure, Except.pure, Except.map]
          rw [StoreQuery.answer, finds] at member
          cases loads : memory.load held with
          | error fault =>
              rw [loads] at member
              cases member
          | ok session =>
              rw [loads] at member
              obtain rfl := List.mem_singleton.mp member
              exact MemoryStore.hasDocument_of_lookup? mirrors.sorted found
  | sessions =>
      obtain ⟨document, shown, rfl⟩ := List.mem_map.mp member
      exact MemoryStore.hasDocument_of_documents mirrors.sorted
        (SessionStore.mem_loadable.mp shown).1

/-- One operation has the same answer in both stores, and leaves them alike. -/
theorem perform_eq (mirrors : Mirrors place memory disk) {answered : List Path}
    (documented : ∀ path ∈ answered, memory.HasDocument path) {operation : StoreOperation}
    (allowed : operation.Allowed memory answered) :
    ∃ later, (operation.move disk.directory.relocate).perform disk =
        ((operation.perform memory).1.move disk.directory.relocate, later) ∧
      later.directory = disk.directory ∧ Mirrors place (operation.perform memory).2 later ∧
      ∀ path ∈ answered ++ (operation.perform memory).1.paths,
        (operation.perform memory).2.HasDocument path := by
  cases operation with
  | change change =>
      obtain ⟨later, applied, sameDirectory, mirrorsAfter⟩ := mirrors.apply_eq allowed
      refine ⟨later, ?_, sameDirectory, mirrorsAfter, hasDocument_apply documented allowed⟩
      change (StoreAnswer.changed (change.apply disk).1, (change.apply disk).2) = _
      rw [applied]
      rfl
  | query query =>
      refine ⟨disk, mirrors.answer_eq documented allowed, rfl, mirrors, fun path member => ?_⟩
      obtain old | new := List.mem_append.mp member
      · exact documented path old
      · exact mirrors.hasDocument_answer query path new

/-- A list of operations has the same answers in both stores. -/
theorem performAll_eq (mirrors : Mirrors place memory disk) {answered : List Path}
    (documented : ∀ path ∈ answered, memory.HasDocument path) {operations : List StoreOperation}
    (allowed : StoreOperation.AllAllowed memory answered operations) :
    StoreOperation.performAll disk
        (operations.map (StoreOperation.move disk.directory.relocate)) =
      (StoreOperation.performAll memory operations).map
        (StoreAnswer.move disk.directory.relocate) := by
  -- The answered paths grow along the history, and all of them stay paths of documents.
  induction operations generalizing memory disk answered with
  | nil => rfl
  | cons operation others inductionHypothesis =>
      obtain ⟨allowedFirst, allowedLater⟩ := allowed
      obtain ⟨later, performed, sameDirectory, mirrorsAfter, documentedAfter⟩ :=
        mirrors.perform_eq documented allowedFirst
      have rest := inductionHypothesis mirrorsAfter documentedAfter allowedLater
      rw [sameDirectory] at rest
      simp only [List.map_cons, StoreOperation.performAll, performed, rest]

end DirectoryStore.Mirrors

/-! ## A vault and an empty store -/

/-- The key of a vault on the main network. -/
def vaultKey : SessionKey := ⟨"mainet", ⟨List.replicate 40 1, rfl⟩⟩

/-- The key of the token that the vault keeps. -/
def tokenKey : SessionKey := ⟨"mainet", ⟨List.replicate 40 2, rfl⟩⟩

/-- The key of the registry that the vault looks tokens up in. -/
def registryKey : SessionKey := ⟨"mainet", ⟨List.replicate 40 3, rfl⟩⟩

/-- A session about the vault, with the time at which it was checked. -/
def vaultSession (lastChecked : Option String) : Session where
  networkInfo :=
    { contractName := "Vault", contractNetwork := "mainet", lastChecked,
      contractAddress := "0x1111111111111111111111111111111111111111" }

/-- The session about the vault has its key. -/
theorem key_vaultSession (lastChecked : Option String) :
    (vaultSession lastChecked).key = .ok vaultKey := by
  have read : Address.parse? "0x1111111111111111111111111111111111111111" =
      some ⟨List.replicate 40 1, rfl⟩ := by decide
  have network : (vaultSession lastChecked).effectiveNetwork = "mainet" := rfl
  have written : Address.parse? (vaultSession lastChecked).contractAddress = _ := read
  rw [Session.key, written, network]
  rfl

/-- The session about the vault has no fractions in it. -/
theorem integers_vaultSession (lastChecked : Option String) :
    ∀ number ∈ (vaultSession lastChecked).toJson.numbers, number.IsInteger := by
  have none : (vaultSession lastChecked).toJson.numbers = [] := by
    cases lastChecked <;> rfl
  rw [none]
  exact List.forall_mem_nil _

/-- The session about the vault is read back. -/
theorem read?_write_vaultSession (lastChecked : Option String) :
    Session.read? (vaultSession lastChecked).write = some (vaultSession lastChecked) :=
  Session.read?_write (Session.asRead_of_plain _ [] (List.forall_mem_nil _))
    (integers_vaultSession lastChecked)

/-- The key and the name of the contract give a name that a directory can have. -/
theorem isDirectoryName_vault : IsDirectoryName (vaultKey.directoryName "Vault") := by
  have short : vaultKey.network.utf8ByteSize + 44 + "Vault".utf8ByteSize <=
      FileTree.nameLimit := by decide
  exact SessionKey.isDirectoryName_directoryName
    (SessionKey.isName_directoryName (by decide) (by decide) (by decide) (by decide)) short

namespace DirectoryStore

/-- An empty store in the data directory at the root of a file tree. -/
def atRoot (keyMatch : KeyMatch) : DirectoryStore where
  directory := ⟨⟨"/"⟩⟩
  keyMatch := keyMatch
  files := { entries := [(["sessions"], .directory)] }

/-- The store at the root of an empty file system is empty. -/
theorem isEmpty_atRoot (keyMatch : KeyMatch) : IsEmpty ["sessions"] (atRoot keyMatch) :=
  .of_root rfl rfl fun rest nonempty => by simp [atRoot, FileTree.entryAt?, nonempty]

/-- A store in a data directory that was empty answers every history of operations as a store in
memory does, with the same errors and with the same sessions in the same order. The paths on disk
are those in memory below the directory that holds the session directories. -/
theorem answers_eq_memory {place : Place} {disk : DirectoryStore} (empty : IsEmpty place disk)
    {operations : List StoreOperation}
    (allowed : StoreOperation.AllAllowed ({ keyMatch := disk.keyMatch } : MemoryStore) []
      operations) :
    StoreOperation.performAll disk
        (operations.map (StoreOperation.move disk.directory.relocate)) =
      (StoreOperation.performAll ({ keyMatch := disk.keyMatch } : MemoryStore) operations).map
        (StoreAnswer.move disk.directory.relocate) :=
  empty.mirrors.performAll_eq (List.forall_mem_nil _) allowed

/-- A directory is left over, a session is saved, loaded again and listed. -/
theorem answers_eq_memory_saved :
    let disk := DirectoryStore.atRoot .exact
    let operations : List StoreOperation :=
      [.change (.register "leftover"), .change (.save (vaultSession none)),
       .query (.load (MemoryStore.documentPath (vaultKey.directoryName "Vault"))),
       .query .sessions]
    (IsEmpty ["sessions"] disk ∧
      StoreOperation.AllAllowed ({ keyMatch := disk.keyMatch } : MemoryStore) [] operations) ∧
    StoreOperation.performAll disk
        (operations.map (StoreOperation.move disk.directory.relocate)) =
      (StoreOperation.performAll ({ keyMatch := disk.keyMatch } : MemoryStore) operations).map
        (StoreAnswer.move disk.directory.relocate) := by
  intro disk operations
  have empty := isEmpty_atRoot .exact
  let leftover : MemoryStore := { keyMatch := .exact, directories := [("leftover", none)] }
  have named : leftover.directoryFor vaultKey "Vault" = vaultKey.directoryName "Vault" := by
    have keyless : SessionKey.ofDirectoryName? "leftover" = none :=
      SessionKey.ofDirectoryName?_of_not_mem (by decide)
    simp [leftover, MemoryStore.directoryFor, names, KeyMatch.accepts, KeyMatch.matchesExactly,
      keyless]
  have allowed : StoreOperation.AllAllowed ({ keyMatch := disk.keyMatch } : MemoryStore) []
      operations := by
    refine ⟨⟨⟨⟨by decide, by decide, by decide, by decide, by decide⟩, by decide⟩, rfl⟩,
      ⟨⟨_, read?_write_vaultSession none⟩, integers_vaultSession none, ?_⟩, ?_, trivial, trivial⟩
    · intro other keyedToo
      obtain rfl := Except.ok.inj ((key_vaultSession none).symm.trans keyedToo)
      exact named.symm ▸ isDirectoryName_vault
    · have saved := leftover.save_of_key (key_vaultSession none)
      have answered : (StoreAnswer.changed
          ((leftover.save (vaultSession none)).1.map some)).paths =
            [MemoryStore.documentPath (vaultKey.directoryName "Vault")] := by
        rw [saved]
        exact congrArg (fun name => [MemoryStore.documentPath name]) named
      exact List.mem_append_right _ (answered ▸ List.mem_singleton_self _)
  exact ⟨⟨empty, allowed⟩, answers_eq_memory empty allowed⟩

end DirectoryStore

end ContractAtlas
