import ContractAtlas.Proofs.Store.Agreement

/-!
# Stores that follow one in memory

A store follows a store in memory while it has the same directories with the same sessions. A change
leaves the one following the other, or else the store refuses it and stays as it is, which it may
only do where a directory would have to be made: the file system takes no name of more than 255
bytes. What is proved of a store that follows one in memory holds in memory and in a data directory
alike.
-/

namespace ContractAtlas

open Json.SortedFields

/-- Whether the directory of a session can have the name that the key of the session and the
contract's name give it. The network is a supported one, or none, which is read as the default. -/
structure Session.IsNameable (session : Session) : Prop where
  network : session.network = "" ∨ Network.isSupported session.network = true
  noSlash : '/' ∉ session.contractName.toList
  noNul : '\x00' ∉ session.contractName.toList

/-- The key of a session on a supported network, or on none, is on a supported network. -/
theorem Session.isSupported_of_key {session : Session} {key : SessionKey}
    (network : session.network = "" ∨ Network.isSupported session.network = true)
    (keyed : session.key = .ok key) : Network.isSupported key.network = true := by
  have effective : key.network = session.effectiveNetwork := by
    rw [Session.key] at keyed
    split at keyed
    · exact congrArg SessionKey.network (Except.ok.inj keyed).symm
    · cases keyed
  have default : Network.isSupported Network.defaultName = true := by decide
  rw [effective, effectiveNetwork]
  split
  · exact default
  · rename_i given
    exact network.resolve_left fun absent => given (by simp [absent])

namespace Session.IsNameable

variable {session : Session} {key : SessionKey}

/-- A key that can name a directory is on a supported network. -/
theorem isSupported (nameable : session.IsNameable) (keyed : session.key = .ok key) :
    Network.isSupported key.network = true :=
  session.isSupported_of_key nameable.network keyed

/-- A key that can name a directory gives the name of one. -/
theorem isName (nameable : session.IsNameable) (keyed : session.key = .ok key) :
    Path.IsName (key.directoryName session.contractName) := by
  have printable := Network.printable_of_isSupported (nameable.isSupported keyed)
  refine SessionKey.isName_directoryName (fun slash => (printable '/' slash).2.2 rfl)
    (fun nul => ?_) nameable.noSlash nameable.noNul
  exact absurd (printable _ nul).1 (by decide)

end Session.IsNameable

/-- The session about the vault can name its directory. -/
theorem isNameable_vaultSession (lastChecked : Option String) :
    (vaultSession lastChecked).IsNameable where
  network := .inr rfl
  noSlash := (by decide : '/' ∉ "Vault".toList)
  noNul := (by decide : '\x00' ∉ "Vault".toList)

namespace MemoryStore

variable {store : MemoryStore} {key : SessionKey} {contractName : String}

/-- The directory that is picked for a key encodes the key. -/
theorem encodedBy_directoryFor (supported : Network.isSupported key.network = true) :
    key.EncodedBy (store.directoryFor key contractName) := by
  rw [directoryFor]
  cases found : (names store.directories).find? (KeyMatch.exact.accepts key.display) with
  | none =>
      exact SessionKey.encodedBy_directoryName (Network.plain_of_isSupported supported).2
        contractName
  | some name => exact (KeyMatch.accepts_exact_display supported).mp (List.find?_some found)

/-- If no directory encodes a key, the key gets one that is named by the key and the contract. -/
theorem directoryFor_of_not_mem
    (missing : store.directoryFor key contractName ∉ names store.directories) :
    store.directoryFor key contractName = key.directoryName contractName := by
  rw [directoryFor] at missing ⊢
  cases found : (names store.directories).find? (KeyMatch.exact.accepts key.display) with
  | none => rfl
  | some name =>
      rw [found] at missing
      exact absurd (List.mem_of_find?_eq_some found) missing

/-- The directory that is picked for a session can have its name if all that are there can. -/
theorem isName_directoryFor (areNames : ∀ name ∈ names store.directories, Path.IsName name)
    {session : Session} (nameable : session.IsNameable) (keyed : session.key = .ok key) :
    Path.IsName (store.directoryFor key session.contractName) := by
  by_cases known : store.directoryFor key session.contractName ∈ names store.directories
  · exact areNames _ known
  · rw [directoryFor_of_not_mem known]
    exact nameable.isName keyed

/-- Of the directories that encode a key the first is picked. -/
theorem directoryFor_of_encodedBy (contractName : String)
    (supported : Network.isSupported key.network = true) (sorted : Sorted store.directories)
    {name : String} (listed : name ∈ names store.directories)
    (encoded : key.EncodedBy name) :
    store.directoryFor key contractName ∈ names store.directories ∧
      store.directoryFor key contractName <= name := by
  rw [directoryFor]
  cases found : (names store.directories).find? (KeyMatch.exact.accepts key.display) with
  | none =>
      exact absurd ((KeyMatch.accepts_exact_display supported).mpr encoded)
        (List.find?_eq_none.mp found name listed)
  | some first =>
      exact ⟨List.mem_of_find?_eq_some found, le_of_find?_eq_some (sorted.imp le_of_lt) found listed
        ((KeyMatch.accepts_exact_display supported).mpr encoded)⟩

/-- Registering a directory without a document changes no sessions. -/
theorem session?_put_none {name : String} (free : store.session? name = none) (other : String) :
    (store.put name none).session? other = store.session? other := by
  rw [session?_put]
  split
  · rename_i same
    rw [← same, free]
  · rfl

end MemoryStore

/-- A store that does what a store in memory does, unless it refuses to make a directory. -/
class FollowsMemory (σ : Type) [RegisteringStore σ] [DirectoryView σ] where
  /-- Whether a store has the directories and the sessions of a store in memory. -/
  Follows : MemoryStore → σ → Prop
  /-- Whether what is saved of a session is loaded as the session. -/
  Retains : Session → Prop
  sorted : ∀ {memory store}, Follows memory store → Sorted memory.directories
  directoryNames_eq : ∀ {memory store}, Follows memory store →
    RegisteringStore.directoryNames store = .ok (names memory.directories)
  complete_eq : ∀ {memory store}, Follows memory store → ∃ path : String → Path,
    DirectoryView.complete store = .ok (memory.directories.filterMap fun directory =>
      directory.2.map fun _ => (directory.1, path directory.1)) ∧
    ∀ name session, memory.session? name = some session →
      SessionStore.load store (path name) = .ok session
  register : ∀ {memory store name}, Follows memory store → Path.IsName name →
    memory.session? name = none →
    (∃ later, RegisteringStore.register store name = (.ok (), later) ∧
      Follows (memory.put name none) later) ∨
    ∃ fault, RegisteringStore.register store name = (.error fault, store)
  save_of_invalid : ∀ (store : σ) {session : Session} {invalid : InvalidTarget},
    session.key = .error invalid →
    SessionStore.save store session = (.error (.invalidTarget invalid), store)
  save : ∀ {memory store session key}, Follows memory store → session.IsNameable →
    Retains session → session.key = .ok key →
    (∃ path later, SessionStore.save store session = (.ok path, later) ∧
      Follows (memory.put (memory.directoryFor key session.contractName) (some session)) later) ∨
    (∃ fault, SessionStore.save store session = (.error fault, store)) ∧
      memory.directoryFor key session.contractName ∉ names memory.directories

/-- A store in memory follows itself, and refuses nothing. -/
instance : FollowsMemory MemoryStore where
  Follows memory store := store = memory ∧ Sorted memory.directories ∧
    ∀ name ∈ names memory.directories, Path.IsName name
  Retains _ := True
  sorted follows := follows.2.1
  directoryNames_eq follows := by rw [follows.1]; rfl
  complete_eq := by
    rintro memory store ⟨rfl, _, isName⟩
    refine ⟨MemoryStore.documentPath, ?_, fun name session held => ?_⟩
    · simp only [DirectoryView.complete, MemoryStore.document?, Option.map_map, Function.comp_def]
    · exact MemoryStore.load_documentPath_of_isName
        (isName name (MemoryStore.mem_names_of_session? held)) held
  register := by
    rintro memory store name ⟨rfl, sorted, areNames⟩ isName _
    refine .inl ⟨_, rfl, rfl, sorted.insert name none, fun other listed => ?_⟩
    exact (mem_names_insert.mp listed).elim (fun same => same ▸ isName) (areNames other)
  save_of_invalid store session invalid keyless := by
    change store.save session = _
    rw [MemoryStore.save, keyless]
  save := by
    rintro memory store session key ⟨rfl, sorted, areNames⟩ nameable _ keyed
    refine .inl ⟨_, _, store.save_of_key keyed, rfl, sorted.insert _ _, fun other listed => ?_⟩
    rcases mem_names_insert.mp listed with rfl | listed
    · exact MemoryStore.isName_directoryFor areNames nameable keyed
    · exact areNames other listed

/-- A store in a data directory follows the store in memory that it mirrors. -/
instance : FollowsMemory DirectoryStore where
  Follows memory store := ∃ place, DirectoryStore.Mirrors place memory store
  Retains session := Session.read? session.write = some session
  sorted := fun ⟨_, mirrors⟩ => mirrors.sorted
  directoryNames_eq := fun ⟨_, mirrors⟩ => mirrors.directoryNames
  complete_eq := by
    rintro memory store ⟨place, mirrors⟩
    refine ⟨store.documentPath, ?_, fun name session => mirrors.load_documentPath⟩
    simp only [DirectoryView.complete, mirrors.directoryNames, Except.map, names,
      List.filterMap_map]
    refine congrArg Except.ok (List.filterMap_congr fun directory member => ?_)
    have listed : directory.1 ∈ names memory.directories := List.mem_map_of_mem member
    simp only [Function.comp_apply, mirrors.document?_eq listed,
      MemoryStore.session?_of_mem mirrors.sorted member, Option.map_map, Function.comp_def]
  register := by
    rintro memory store name ⟨place, mirrors⟩ isName free
    by_cases short : name.utf8ByteSize <= FileTree.nameLimit
    · obtain ⟨later, ensured, _, mirrorsAfter⟩ := mirrors.register ⟨isName, short⟩ free
      refine .inl ⟨later, ?_, place, mirrorsAfter⟩
      simp only [RegisteringStore.register, ensured, Except.map]
    · refine .inr ⟨.directoryNotMade (store.directory.session name), ?_⟩
      simp only [RegisteringStore.register,
        mirrors.ensureDirectory_long isName (not_le.mp short), Except.map]
  save_of_invalid store session invalid keyless := by
    simp only [SessionStore.save, DirectoryStore.save, keyless]
  save := by
    rintro memory store session key ⟨place, mirrors⟩ nameable readable keyed
    by_cases known : memory.directoryFor key session.contractName ∈ names memory.directories
    · obtain ⟨later, saved, _, mirrorsAfter⟩ :=
        mirrors.save keyed (mirrors.isDirectoryName _ known) readable
      rw [memory.save_of_key keyed] at mirrorsAfter
      exact .inl ⟨_, later, saved, place, mirrorsAfter⟩
    have isName : Path.IsName (memory.directoryFor key session.contractName) := by
      rw [MemoryStore.directoryFor_of_not_mem known]
      exact nameable.isName keyed
    by_cases short :
        (memory.directoryFor key session.contractName).utf8ByteSize <= FileTree.nameLimit
    · obtain ⟨later, saved, _, mirrorsAfter⟩ := mirrors.save keyed ⟨isName, short⟩ readable
      rw [memory.save_of_key keyed] at mirrorsAfter
      exact .inl ⟨_, later, saved, place, mirrorsAfter⟩
    · exact .inr ⟨⟨_, mirrors.save_long keyed isName (not_le.mp short)⟩, known⟩

end ContractAtlas
