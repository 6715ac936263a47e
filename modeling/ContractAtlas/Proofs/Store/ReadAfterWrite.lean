import ContractAtlas.Proofs.Store.FailedWrite
import ContractAtlas.Proofs.Store.Following
import ContractAtlas.Proofs.Store.Mapping
import ContractAtlas.Proofs.Store.Replacement

/-!
# What is saved is read back

A session is saved in the first directory that encodes its key, complete or not, and a query finds
the first complete one. Both are the same directory after a save: it has become complete, and no
other directory has (`readsBack_of_first`). So whatever the store held, the display of the key finds
the session that was saved. That the path of a data directory is anchored is what making the data
directory has brought about (`DirectoryStore.anchored_of_ensure`).
-/

namespace ContractAtlas

open Json.SortedFields

/-- The display of a key finds a document with a session, and the document is listed. -/
structure ReadsBack {σ : Type} [SessionStore σ] (store : σ) (key : SessionKey) (path : Path)
    (session : Session) : Prop where
  lookup : SessionStore.lookup? store key.display = some path
  find : SessionStore.find store key.display = .ok (path, session)
  listed : ∃ paths, SessionStore.documents store = .ok paths ∧ path ∈ paths

/-- Names in ascending order, each with a value of its own, are sorted fields. -/
theorem sorted_map_prod {listed : List String} (sorted : listed.Pairwise (· < ·))
    (path : String → Path) : Sorted (listed.map fun name => (name, path name)) := by
  have same : names (listed.map fun name => (name, path name)) = listed := by
    simp [names, Function.comp_def]
  rwa [Sorted, same]

section

variable {σ : Type} [SessionStore σ] [DirectoryView σ] {store : σ} {key : SessionKey}

/-- In exact mode a session is read back from a complete directory that encodes its key if no
complete directory before it does. -/
theorem readsBack_of_first (exact : DirectoryView.keyMatch store = .exact)
    (supported : Network.isSupported key.network = true)
    (sorted : ∀ named, DirectoryView.complete store = .ok named → Sorted named)
    {name : String} {path : Path} (complete : DirectoryView.Complete store name path)
    (encoded : key.EncodedBy name)
    (first : ∀ other otherPath, DirectoryView.Complete store other otherPath →
      key.EncodedBy other → name ≤ other)
    {session : Session} (loads : SessionStore.load store path = .ok session) :
    ReadsBack store key path session := by
  obtain ⟨named, listing, member⟩ := complete
  have ordered := sorted named listing
  have lookup : SessionStore.lookup? store key.display = some path := by
    have accepts_iff (other : String) :
        KeyMatch.exact.accepts key.display other = true ↔ key.EncodedBy other :=
      KeyMatch.accepts_exact_display supported
    rw [DirectoryView.lookup?_eq, listing, exact]
    generalize KeyMatch.exact.accepts key.display = accepts at accepts_iff
    have accepted := (accepts_iff name).mpr encoded
    obtain ⟨found, isFirst⟩ : ∃ found,
        named.find? (fun directory => accepts directory.1) = some found :=
      Option.isSome_iff_exists.mp (List.find?_isSome.mpr ⟨_, member, accepted⟩)
    have foundName : (names named).find? accepts = some found.1 := by
      rw [names, List.find?_map]
      exact congrArg (Option.map Prod.fst) isFirst
    have foundMember := List.mem_of_find?_eq_some isFirst
    have foundAccepted : accepts found.1 = true :=
      List.find?_some (p := fun directory : String × Path => accepts directory.1) isFirst
    -- Neither of the two directories comes before the other.
    have below : found.1 ≤ name :=
      le_of_find?_eq_some (ordered.imp le_of_lt) foundName (List.mem_map_of_mem member) accepted
    have above : name ≤ found.1 :=
      first found.1 found.2 ⟨named, listing, foundMember⟩ ((accepts_iff found.1).mp foundAccepted)
    have same : found = (name, path) :=
      List.inj_on_of_nodup_map ordered.nodup foundMember member (le_antisymm below above)
    simp only [isFirst, Option.map_some, same]
  refine ⟨lookup, SessionStore.find_eq_ok_iff.mpr ⟨lookup, loads⟩, named.map Prod.snd, ?_,
    List.mem_map_of_mem member⟩
  rw [DirectoryView.documents_eq, listing]
  rfl

end

/-! ## In memory -/

namespace MemoryStore

/-- Whatever directories a store in memory has, a session that is saved in it is read back. -/
theorem readsBack_of_save {store later : MemoryStore} (sorted : Sorted store.directories)
    (areNames : ∀ name ∈ names store.directories, Path.IsName name)
    (exact : store.keyMatch = .exact)
    {session : Session} (nameable : session.IsNameable) {path : Path}
    (saved : store.save session = (.ok path, later)) :
    ∃ key, session.key = .ok key ∧ ReadsBack later key path session := by
  cases keyed : session.key with
  | error invalid =>
      rw [save, keyed] at saved
      cases saved
  | ok key =>
      rw [store.save_of_key keyed] at saved
      obtain ⟨located, rfl⟩ := Prod.mk.inj saved
      obtain rfl := Except.ok.inj located
      have supported := nameable.isSupported keyed
      have isName := isName_directoryFor areNames nameable keyed
      have sortedPut := sorted.insert (store.directoryFor key session.contractName) (some session)
      have held : (store.put (store.directoryFor key session.contractName)
          (some session)).session? (store.directoryFor key session.contractName) =
            some session := by
        rw [session?_put, if_pos rfl]
      have member : (store.directoryFor key session.contractName, some session) ∈
          (store.put (store.directoryFor key session.contractName) (some session)).directories :=
        mem_of_find? ((find?_insert _ _ _ _).trans (if_pos rfl))
      refine ⟨key, rfl, readsBack_of_first exact supported (fun named listing => ?_)
        (complete_iff.mpr ⟨session, member, rfl⟩) (encodedBy_directoryFor supported) ?_
        (load_documentPath_of_isName isName held)⟩
      · rw [complete_eq sortedPut] at listing
        obtain rfl := Except.ok.inj listing
        exact sorted_map_prod (sortedPut.filter _) _
      · intro other otherPath complete encoded
        obtain ⟨_, listed, _⟩ := complete_iff.mp complete
        rcases mem_names_insert.mp (List.mem_map_of_mem listed) with same | listed
        · exact le_of_eq same.symm
        · exact (directoryFor_of_encodedBy _ supported sorted listed encoded).2

end MemoryStore

/-! ## In a data directory -/

namespace DirectoryStore

open FileTree

variable {store later : DirectoryStore} {key : SessionKey} {name : String}

/-- Complete directories are listed in the order of their names. -/
theorem sorted_complete (wellFormed : store.files.WellFormed) {named : List (String × Path)}
    (listing : DirectoryView.complete store = .ok named) : Sorted named := by
  cases isFile : store.files.isFile store.directory.sessions with
  | true =>
      simp only [DirectoryView.complete, directoryNames_of_isFile isFile, Except.map] at listing
      cases listing
  | false =>
      obtain ⟨listed, listsNames, sorted, _⟩ := exists_directoryNames wellFormed isFile
      rw [complete_of_directoryNames listsNames] at listing
      obtain rfl := Except.ok.inj listing
      exact sorted_map_prod (sorted.filter _) _

/-- The directory that is picked for a key encodes the key, comes before all listed ones that do,
and is named by the key and the contract if there are none. -/
theorem picked_of_directoryFor (supported : Network.isSupported key.network = true)
    {contractName : String} (picked : store.directoryFor key contractName = .ok name) :
    key.EncodedBy name ∧ (∀ other, store.Lists other → key.EncodedBy other → name ≤ other) ∧
      (store.Lists name ∨ name = key.directoryName contractName ∧
        ∀ other, store.Lists other → ¬ key.EncodedBy other) := by
  rw [directoryFor] at picked
  cases listing : store.directoryNames with
  | error fault =>
      rw [listing] at picked
      cases picked
  | ok listed =>
      have lists_iff (other : String) : store.Lists other ↔ other ∈ listed := by
        simp [Lists, listing]
      rw [listing] at picked
      obtain rfl := Except.ok.inj picked
      simp only [lists_iff]
      cases found : listed.find? (KeyMatch.exact.accepts key.display) with
      | none =>
          have encoded := SessionKey.encodedBy_directoryName
            (Network.plain_of_isSupported supported).2 contractName
          have none : ∀ other ∈ listed, ¬ key.EncodedBy other := fun other member encodes =>
            absurd ((KeyMatch.accepts_exact_display supported).mpr encodes)
              (List.find?_eq_none.mp found other member)
          exact ⟨encoded, fun other member encodes => absurd encodes (none other member),
            .inr ⟨rfl, none⟩⟩
      | some first =>
          refine ⟨(KeyMatch.accepts_exact_display supported).mp (List.find?_some found),
            fun other member encodes => ?_, .inl (List.mem_of_find?_eq_some found)⟩
          exact le_of_find?_eq_some (pairwise_directoryNames listing) found member
            ((KeyMatch.accepts_exact_display supported).mpr encodes)

/-- Making a directory and replacing the document in it leaves the documents of all other
directories as they were. -/
theorem sameFile_of_rewrites {made : DirectoryStore} (wellFormed : store.files.WellFormed)
    (anchored : store.files.Anchored store.directory.root) (unfinished : store.Unfinished made)
    {text : String} (rewrites : Rewrites name text made later) {other : String}
    (isName : Path.IsName other) (apart : other ≠ name) :
    SameFile store.files later.files (store.documentPath other) := by
  have made_eq := unfinished.documentPath_eq other
  have replaced := rewrites.others other isName apart
  have ensured : SameFile store.files made.files (store.documentPath other) :=
    unfinished.sameFile wellFormed ((anchored.join isName_sessions).join isName)
      isName_documentName (by decide)
  rw [made_eq] at replaced
  exact fun place content => (replaced place content).trans (ensured place content)

/-- Whatever directories a data directory has, a session that is saved in it is read back. -/
theorem readsBack_of_save (wellFormed : store.files.WellFormed)
    (anchored : store.files.Anchored store.directory.root) (exact : store.keyMatch = .exact)
    {session : Session} (nameable : session.IsNameable)
    (readable : Session.read? session.write = some session) {path : Path}
    (saved : store.save session = (.ok path, later)) :
    ∃ key, session.key = .ok key ∧ ReadsBack later key path session := by
  obtain ⟨key, name, made, files, keyed, picked, ensured, replaced, rfl⟩ := exists_of_save saved
  have supported := nameable.isSupported keyed
  obtain ⟨encoded, first, listed⟩ := picked_of_directoryFor supported picked
  have isName : Path.IsName name := by
    rcases listed with listed | ⟨rfl, _⟩
    · exact listed.isName wellFormed
    · exact nameable.isName keyed
  have unfinished : store.Unfinished made := by
    have steps := Unfinished.ensureDirectory wellFormed name
    rwa [ensured] at steps
  rw [← unfinished.directory] at replaced
  obtain ⟨rfl, rewrites⟩ := rewrites_of_replaceDocument unfinished.wellFormed isName replaced
  have loads : DirectoryStore.load { made with files } (made.documentPath name) =
      .ok session := by
    rw [load, rewrites.written]
    simp only [readable]
  have complete : DirectoryView.Complete { made with files } name (made.documentPath name) :=
    (complete_iff rewrites.wellFormed).mpr ⟨isName, isFile_of_readText rewrites.written, rfl⟩
  refine ⟨key, keyed, readsBack_of_first (unfinished.keyMatch.trans exact) supported
    (fun _ => sorted_complete rewrites.wellFormed) complete encoded ?_ loads⟩
  intro other otherPath completeOther encodes
  by_cases same : other = name
  · exact le_of_eq same.symm
  · obtain ⟨isNameOther, isFile, _⟩ := (complete_iff rewrites.wellFormed).mp completeOther
    rw [rewrites.documentPath_eq, unfinished.documentPath_eq,
      (sameFile_of_rewrites wellFormed anchored unfinished rewrites isNameOther same).isFile_eq
        (store.endsInSlash_documentPath other)] at isFile
    exact first other (lists_of_isFile wellFormed isNameOther isFile) encodes

end DirectoryStore

/-- In exact mode what a save returns is what the display of the session's key finds afterwards,
with the session, and what is listed. In memory this holds whatever directories there are, and in a
data directory as well for a session that was read from a document whose numbers are integers. -/
theorem saved_session_is_read_back :
    (∀ (store later : MemoryStore) (session : Session) (path : Path),
      Sorted store.directories → (∀ name ∈ names store.directories, Path.IsName name) →
      store.keyMatch = .exact → session.IsNameable →
      SessionStore.save store session = (.ok path, later) →
      ∃ key, session.key = .ok key ∧ ReadsBack later key path session) ∧
    ∀ (store later : DirectoryStore) (text : String) (session : Session) (path : Path),
      store.files.WellFormed → store.files.Anchored store.directory.root →
      store.keyMatch = .exact → session.IsNameable →
      Session.read? text = some session →
      (∀ number ∈ session.toJson.numbers, number.IsInteger) →
      SessionStore.save store session = (.ok path, later) →
      ∃ key, session.key = .ok key ∧ ReadsBack later key path session := by
  constructor
  · intro store later session path sorted areNames exact nameable saved
    exact MemoryStore.readsBack_of_save sorted areNames exact nameable saved
  · intro store later text session path wellFormed anchored exact nameable read integers saved
    have readable := Session.read?_write (Session.asRead_of_read? read) integers
    exact DirectoryStore.readsBack_of_save wellFormed anchored exact nameable readable saved

/-- A store in memory with two directories for one key, the first of them incomplete. -/
def MemoryStore.withLeftovers : MemoryStore where
  keyMatch := .exact
  directories :=
    [("mainet:0x1111111111111111111111111111111111111111", none),
     ("mainet:0x1111111111111111111111111111111111111111:Vault", some (vaultSession none))]

/-- A data directory with two directories for one key. The first has no document, and that of the
second is no session. -/
def DirectoryStore.withLeftovers : DirectoryStore where
  directory := ⟨⟨"/"⟩⟩
  keyMatch := .exact
  files := { entries :=
    [(["sessions"], .directory),
     (["sessions", "mainet:0x1111111111111111111111111111111111111111"], .directory),
     (["sessions", "mainet:0x1111111111111111111111111111111111111111:Vault"], .directory),
     (["sessions", "mainet:0x1111111111111111111111111111111111111111:Vault",
       "sessionData.json"], .file "\x7b not json".toUTF8)] }

/-- Any session of the key can be saved in the incomplete directory. -/
theorem DirectoryStore.exists_save_withLeftovers {session : Session}
    (keyed : session.key = .ok vaultKey) :
    ∃ path later, withLeftovers.save session = (.ok path, later) := by
  let name := "mainet:0x1111111111111111111111111111111111111111"
  have listing : withLeftovers.directoryNames =
      .ok [name, "mainet:0x1111111111111111111111111111111111111111:Vault"] := by
    have resolved : withLeftovers.files.resolve withLeftovers.directory.sessions =
        .ok ["sessions"] := by decide +kernel
    have listed := FileTree.directoryNames_eq (by decide +kernel) resolved rfl
      (by decide +kernel) (List.Perm.refl [name, _])
    rw [directoryNames, if_pos (by decide +kernel), listed]
    rfl
  have picked : withLeftovers.directoryFor vaultKey session.contractName = .ok name := by
    have accepted : KeyMatch.exact.accepts vaultKey.display name = true := by decide +kernel
    rw [directoryFor, listing, Except.map, List.find?_cons, accepted]
    rfl
  have resolved : withLeftovers.files.resolve (withLeftovers.directory.session name) =
      .ok ["sessions", name] := by decide +kernel
  have ensured : withLeftovers.ensureDirectory name =
      (.ok (withLeftovers.directory.session name), withLeftovers) := by
    rw [ensureDirectory, FileTree.ensureDirectory_of_directory (by decide +kernel) resolved rfl]
  -- Nothing stands in the directory yet.
  have resolvedFile (file : String) (isName : Path.IsName file)
      (short : file.utf8ByteSize <= FileTree.nameLimit)
      (fault : FileTree.textFault? ((withLeftovers.directory.session name).join file) = none) :
      withLeftovers.files.resolve ((withLeftovers.directory.session name).join file) =
        .ok ["sessions", name, file] := FileTree.resolve_join resolved rfl isName short fault
  have staging : withLeftovers.files.entryAt? ["sessions", name, stagingName] ≠
      some .directory := by rintro ⟨⟩
  have document : withLeftovers.files.entryAt? ["sessions", name, documentName] ≠
      some .directory := by rintro ⟨⟩
  have replaced := replaceDocument_eq_moved
    (resolvedFile stagingName isName_stagingName (by decide) (by decide +kernel)) staging
    (resolvedFile documentName isName_documentName (by decide) (by decide +kernel)) document
    session.write
  exact ⟨_, _, save_of_steps keyed picked ensured replaced⟩

/-- The session goes to the directory that was incomplete, and is read back from there. -/
theorem saved_session_is_read_back_leftovers :
    (∃ path later, SessionStore.save MemoryStore.withLeftovers (vaultSession (some "today")) =
        (.ok path, later) ∧
      ReadsBack later vaultKey path (vaultSession (some "today"))) ∧
    ∃ path later, SessionStore.save DirectoryStore.withLeftovers (vaultSession (some "today")) =
        (.ok path, later) ∧
      ReadsBack later vaultKey path (vaultSession (some "today")) := by
  have nameable := isNameable_vaultSession (some "today")
  have keyed := key_vaultSession (some "today")
  constructor
  · have sorted : (names MemoryStore.withLeftovers.directories).Pairwise (· < ·) := by
      decide +kernel
    have saved := MemoryStore.withLeftovers.save_of_key keyed
    obtain ⟨key, keyedToo, back⟩ := saved_session_is_read_back.1 _ _ _ _ sorted (by decide +kernel)
      rfl nameable saved
    obtain rfl := Except.ok.inj (keyed.symm.trans keyedToo)
    exact ⟨_, _, saved, back⟩
  · have wellFormed : DirectoryStore.withLeftovers.files.WellFormed :=
      .of_entries (by decide) (by decide +kernel) (by decide)
    have anchored : DirectoryStore.withLeftovers.files.Anchored
        DirectoryStore.withLeftovers.directory.root :=
      FileTree.anchored_of_not_mem (by decide +kernel)
    obtain ⟨path, later, saved⟩ := DirectoryStore.exists_save_withLeftovers keyed
    obtain ⟨key, keyedToo, back⟩ := saved_session_is_read_back.2 _ _ _ _ _ wellFormed anchored
      rfl nameable (read?_write_vaultSession (some "today"))
      (integers_vaultSession (some "today")) saved
    obtain rfl := Except.ok.inj (keyed.symm.trans keyedToo)
    exact ⟨path, later, saved, back⟩

end ContractAtlas
