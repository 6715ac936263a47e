import Mathlib
import ContractAtlas.CommandLine.Mapping
import ContractAtlas.Proofs.Store.MappingEach

/-!
# Mapping every session

The command that maps everything takes the addresses of the sessions that wait, in the order of
their directories, and maps them one after the other. It opens the store first, which may make the
file of the settings, but nothing that the store shows (`reworked_openStore`). Whatever the node
answers, the store is left as by the steps of mapping each address (`files_map`). -/

namespace ContractAtlas

open Std.Do

set_option mvcgen.warning false

/-! ## Steps of a run -/

section

variable {ω : Type}

/-- A computation without exceptions returns. -/
theorem returns {α : Type} (computation : StateT Nat (StateM ω) α) :
    ⦃⌜True⌝⦄ computation ⦃⇓ _ => ⌜True⌝⦄ := by
  intro number world _
  trivial

variable (reader : ContractReader (StateT Nat (StateM ω)))

/-- A session is enriched unless it has no address. -/
theorem enrich_spec (session : Session) :
    ⦃⌜True⌝⦄ enrich reader session ⦃⇓ answer => ⌜match answer with
      | .error _ => ∃ fault, session.contract = .error fault
      | .ok (enriched, _) => ∃ addresses, enriched = session.withResolved addresses⌝⦄ := by
  unfold enrich
  cases contract : session.contract with
  | error fault =>
      mvcgen
      exact ⟨fault, rfl⟩
  | ok address =>
      have resolves := returns (resolve reader address (ProbeSet.ofVariables session.stateVariables))
      mvcgen [resolves]
      exact ⟨_, rfl⟩

/-- Mapping a target does one step. -/
theorem mapTarget_spec {σ : Type} [SessionStore σ] (query : String) (store : σ) :
    ⦃⌜True⌝⦄ mapTarget reader query store ⦃⇓ answer => ⌜MapsTo query store answer.2⌝⦄ := by
  unfold mapTarget
  mvcgen [enrich_spec]
  · rename_i missing _ _
    exact .notFound missing
  · rename_i found _ _ _ _ _ _ _ invalid
    obtain ⟨fault, isFault⟩ := invalid
    exact .noAddress found isFault
  · rename_i found _ _ _ _ _ _ _ _ enriched
    obtain ⟨addresses, rfl⟩ := enriched
    exact .saved found addresses

namespace CommandLine

/-- Mapping several targets does the steps of all. -/
theorem mapEach_spec (asJson : Bool) (queries : List String) (store : DirectoryStore) :
    ⦃⌜True⌝⦄ mapEach reader asJson queries store
      ⦃⇓ answer => ⌜MapsEach queries store answer.2⌝⦄ := by
  induction queries generalizing store with
  | nil =>
      unfold mapEach
      mvcgen
      exact .nil store
  | cons query queries inductionHypothesis =>
      have first := mapTarget_spec reader query store
      unfold mapEach
      mvcgen [first, inductionHypothesis]
      rename_i first _ _ _ rest
      exact .cons first rest

/-- Mapping everything does the steps of the addresses that wait, and none if they cannot be listed.
-/
theorem mapAll_spec (asJson : Bool) (store : DirectoryStore) :
    ⦃⌜True⌝⦄ mapAll reader asJson store ⦃⇓ outcome => ⌜∃ later,
      MapsEach ((pendingTargets store).toOption.getD []) store later ∧
        outcome.files = later.files⌝⦄ := by
  unfold mapAll
  cases pending : pendingTargets store with
  | error fault =>
      mvcgen
      exact ⟨store, .nil store, rfl⟩
  | ok queries =>
      have steps := mapEach_spec reader asJson queries store
      mvcgen [steps]
      rename_i answer _ _ each
      exact ⟨answer.2, each, rfl⟩

/-- The files after mapping everything are those after the steps. -/
theorem files_mapAll (asJson : Bool) (store : DirectoryStore) (number : Nat) (world : ω) :
    ∃ later, MapsEach ((pendingTargets store).toOption.getD []) store later ∧
      (((mapAll reader asJson store).run number).run world).1.1.files = later.files :=
  mapAll_spec reader asJson store number world trivial

end CommandLine

end

namespace CommandLine

open FileTree DirectoryStore

/-! ## Opening a store -/

/-- The settings of a data directory as a command takes them. -/
def settingsOf (directory : DataDirectory) (files : FileTree) : Configuration :=
  (openStore directory files).1

/-- The store of a data directory with given settings and files. -/
def storeOf (directory : DataDirectory) (configuration : Configuration) (files : FileTree) :
    DirectoryStore :=
  { directory, keyMatch := configuration.keyMatch, files }

/-- The settings have a name that a file can have. -/
theorem isName_settings : Path.IsName "netmap.settings.json" :=
  ⟨by decide, by decide, by decide, by decide, by decide⟩

/-- A file that is written in the data directory under the name of the settings changes no session.
-/
theorem reworked_of_writeText {store : DirectoryStore} (wellFormed : store.files.WellFormed)
    {files : FileTree} {text : String}
    (writes : store.files.writeText store.directory.settings text = .ok files) :
    store.Reworked [] { store with files } := by
  have noSlash :=
    (store.directory.root.isOpen_join isName_settings.nonempty isName_settings.noSlash).noSlash
  obtain ⟨place, resolved, plain, rfl⟩ := (writeText_eq_ok_iff noSlash).mp writes
  obtain ⟨_, _, parent, _, directory, rfl⟩ := (resolve_join_eq_ok_iff isName_settings).mp resolved
  have wellFormedAfter := wellFormed.set (.file text.toUTF8) directory isName_settings plain
  have keeps : KeepsDirectories store.files
      (store.files.set (parent ++ ["netmap.settings.json"]) (.file text.toUTF8)) := .set _ plain
  have keepsBack : KeepsDirectories
      (store.files.set (parent ++ ["netmap.settings.json"]) (.file text.toUTF8)) store.files := by
    refine ⟨rfl, fun place isDirectory => ?_⟩
    rw [entryAt?_set] at isDirectory
    split at isDirectory
    · rename_i root
      rw [root]
      rfl
    · split at isDirectory
      · cases isDirectory
      · exact isDirectory
  have sameFile (path : Path) {name : String} (isName : Path.IsName name)
      (apart : name ≠ "netmap.settings.json") : SameFile store.files
        (store.files.set (parent ++ ["netmap.settings.json"]) (.file text.toUTF8))
        (path.join name) := by
    refine .of_keeps keeps keepsBack (path.isOpen_join isName.nonempty isName.noSlash).noSlash
      fun place resolvedName => ?_
    obtain ⟨_, _, above, _, _, rfl⟩ := (resolve_join_eq_ok_iff isName).mp resolvedName
    rw [entryAt?_set, if_neg (by simp), if_neg (by simp [Ne.symm apart])]
  have document (name : String) := sameFile (store.directory.session name) isName_documentName
    (by decide)
  refine ⟨⟨rfl, rfl, wellFormedAfter, keeps, keepsBack⟩, ?_, fun _ _ _ isReached => ?_,
    fun name path complete _ => ?_⟩
  · exact DirectoryStore.complete_eq wellFormed wellFormedAfter rfl
      ((sameFile store.directory.root isName_sessions (by decide)).isFile_eq
        (isOpen_sessions store.directory).noSlash)
      fun name _ => (document name).isFile_eq (store.endsInSlash_documentPath name)
  · obtain ⟨_, member, _⟩ := isReached.found
    cases member
  · obtain ⟨_, isFile, rfl⟩ := (complete_iff wellFormed).mp complete
    exact (document name).readBytes_eq (store.endsInSlash_documentPath name) isFile

/-- Opening a store changes no session. -/
theorem reworked_openStore {directory : DataDirectory} {files : FileTree}
    (wellFormed : files.WellFormed) :
    (storeOf directory (settingsOf directory files) files).Reworked []
      (openStore directory files).2 := by
  unfold storeOf settingsOf openStore Configuration.loadOrCreate
  simp only
  split
  · exact .refl wellFormed
  · split
    · rename_i made saved
      exact reworked_of_writeText wellFormed saved
    · exact .refl wellFormed

/-! ## Mapping every session -/

/-- The addresses that are pending are those of the sessions that wait. -/
theorem mem_pendingTargets_iff {store : DirectoryStore} {query : String} :
    query ∈ (pendingTargets store).toOption.getD [] ↔
      ∃ name path session, store.Waiting name path session ∧ session.contractAddress = query := by
  unfold pendingTargets
  cases sessions : SessionStore.sessions store with
  | error fault =>
      refine iff_of_false (by simp [bind, Except.bind, Except.toOption]) ?_
      rintro ⟨_, _, _, ⟨⟨directories, complete, _⟩, _, _⟩, _⟩
      simp [SessionStore.sessions, DirectoryView.documents_eq, complete, Except.map, bind,
        Except.bind, pure, Except.pure] at sessions
  | ok listed =>
      simp only [bind, Except.bind, pure, Except.pure, Except.toOption, Option.getD_some,
        List.mem_map, List.mem_filter, Bool.not_eq_true', Prod.exists, mem_sessions_iff sessions]
      constructor
      · rintro ⟨path, session, ⟨⟨⟨name, complete⟩, loads⟩, unresolved⟩, address⟩
        exact ⟨name, path, session, ⟨complete, loads, unresolved⟩, address⟩
      · rintro ⟨name, path, session, ⟨complete, loads, unresolved⟩, address⟩
        exact ⟨path, session, ⟨⟨⟨name, complete⟩, loads⟩, unresolved⟩, address⟩

/-- The node that is asked, as the arguments or else the settings say. -/
def nodeOf (arguments : MapArguments) (configuration : Configuration) : Except AtlasError Node :=
  Node.connect (arguments.nodeUrl.getD configuration.nodeUrl) configuration.nodeTimeout

variable {ω : Type} {directory : DataDirectory} {arguments : MapArguments} {files : FileTree}

/-- Mapping every session leaves the store as by the steps for the addresses that are pending. -/
theorem mapsEach_map (surroundings : Surroundings (StateM ω)) (all : arguments.target = none)
    {node : Node} (connects : nodeOf arguments (settingsOf directory files) = .ok node) (world : ω) :
    ∃ later : DirectoryStore,
      MapsEach ((pendingTargets (openStore directory files).2).toOption.getD [])
        (openStore directory files).2 later ∧
      ((map surroundings directory arguments files).run world).1.files = later.files := by
  unfold nodeOf settingsOf at connects
  unfold map
  generalize openStore directory files = opened at *
  obtain ⟨later, maps, same⟩ := files_mapAll (Node.reader surroundings.transport node)
    arguments.asJson opened.2 0 world
  refine ⟨later, maps, ?_⟩
  simp only [connects, mapWith, all]
  exact same

/-- Without a node, the store is only opened. -/
theorem files_map_of_error (surroundings : Surroundings (StateM ω)) {fault : AtlasError}
    (fails : nodeOf arguments (settingsOf directory files) = .error fault) (world : ω) :
    ((map surroundings directory arguments files).run world).1.files =
      (openStore directory files).2.files := by
  unfold nodeOf settingsOf at fails
  unfold map
  generalize openStore directory files = opened at *
  simp only [fails]
  rfl

/-- What is left of the store of a data directory is the store with the files that are left. -/
theorem storeOf_files {configuration : Configuration} {queries : List String}
    {later : DirectoryStore}
    (reworked : (storeOf directory configuration files).Reworked queries later) :
    storeOf directory configuration later.files = later := by
  cases later
  cases reworked.directory
  cases reworked.keyMatch
  rfl

section

variable (wellFormed : files.WellFormed)
  (namesKeys : NamesKeys (storeOf directory (settingsOf directory files) files))

include wellFormed

/-- Without a node, no session is changed. -/
theorem reworked_map_of_error (surroundings : Surroundings (StateM ω)) {fault : AtlasError}
    (fails : nodeOf arguments (settingsOf directory files) = .error fault) (world : ω) :
    (storeOf directory (settingsOf directory files) files).Reworked []
      (storeOf directory (settingsOf directory files)
        ((map surroundings directory arguments files).run world).1.files) := by
  have opens : (storeOf directory (settingsOf directory files) files).Reworked [] _ :=
    reworked_openStore wellFormed
  rwa [files_map_of_error surroundings fails world, storeOf_files opens]

include namesKeys

/-- With a node, the sessions that the pending addresses find are rewritten. -/
theorem reworked_map (surroundings : Surroundings (StateM ω)) (all : arguments.target = none)
    {node : Node} (connects : nodeOf arguments (settingsOf directory files) = .ok node) (world : ω) :
    (storeOf directory (settingsOf directory files) files).Reworked
      ((pendingTargets (openStore directory files).2).toOption.getD [])
      (storeOf directory (settingsOf directory files)
        ((map surroundings directory arguments files).run world).1.files) := by
  obtain ⟨later, maps, same⟩ := mapsEach_map surroundings all connects world
  have reworked := (reworked_openStore wellFormed).steps wellFormed namesKeys maps
  rw [same, storeOf_files reworked]
  rwa [List.nil_append] at reworked

end

/-- The addresses that are pending when a store has been opened are those of the sessions that
waited before. -/
theorem mem_pendingTargets_openStore_iff (wellFormed : files.WellFormed) (query : String) :
    query ∈ (pendingTargets (openStore directory files).2).toOption.getD [] ↔
      ∃ name path session,
        (storeOf directory (settingsOf directory files) files).Waiting name path session ∧
          session.contractAddress = query := by
  rw [mem_pendingTargets_iff]
  simp only [(reworked_openStore wellFormed).waiting_iff]

/-- Mapping every session leaves none of them waiting, and the others as they were, exactly if the
node can be asked, and each session that waits is what its own address finds, in a document that can
be replaced. -/
theorem map_all_enriches_iff (surroundings : Surroundings (StateM ω)) (directory : DataDirectory)
    (arguments : MapArguments) (all : arguments.target = none) (files : FileTree)
    (wellFormed : files.WellFormed)
    (namesKeys : NamesKeys (storeOf directory (settingsOf directory files) files)) (world : ω) :
    let configuration := settingsOf directory files
    let store := storeOf directory configuration files
    let outcome := ((map surroundings directory arguments files).run world).1
    store.AllEnriched (storeOf directory configuration outcome.files) ↔
      ∀ name path session, store.Waiting name path session →
        (∃ node, nodeOf arguments configuration = .ok node) ∧
          SessionStore.lookup? store session.contractAddress = some path ∧
          store.Replaceable name := by
  intro configuration store outcome
  cases connects : nodeOf arguments configuration with
  | error fault =>
      have unchanged := reworked_map_of_error wellFormed surroundings connects world
      -- Nothing is mapped, so that either side says that no session waits.
      constructor
      · intro enriched name path session waiting
        obtain ⟨_, member, _⟩ := (unchanged.reached_of_waiting enriched waiting).found
        cases member
      · intro each
        have none (name : String) (path : Path) (session : Session) :
            ¬ store.Waiting name path session := by
          intro waiting
          obtain ⟨⟨_, ⟨⟩⟩, _⟩ := each name path session waiting
        have addresses (query : String) : query ∈ [] ↔ ∃ name path session,
            store.Waiting name path session ∧ session.contractAddress = query := by
          simp [none]
        exact unchanged.allEnriched_of_self wellFormed addresses
          fun name path session waiting => absurd waiting (none name path session)
  | ok node =>
      have reworked := reworked_map wellFormed namesKeys surroundings all connects world
      simp only [Except.ok.injEq, exists_eq', true_and]
      exact reworked.allEnriched_iff wellFormed (mem_pendingTargets_openStore_iff wellFormed)
        namesKeys

/-- A machine without a network, which asks its own node in vain. -/
def offline : Surroundings (StateM Unit) where
  transport := Web.unreachable
  now := pure Timestamp.epoch
  clock := ⟨pure 0, fun _ => pure ()⟩
  refresh := pure
  serve _ _ _ := pure none

/-- The arguments to map every session with a node on the same machine. -/
def localNode : MapArguments := { nodeUrl := some "http://127.0.0.1:8545" }

/-- The node on the same machine can be asked, whatever the settings are. -/
theorem exists_nodeOf_localNode (configuration : Configuration) :
    ∃ node, nodeOf localNode configuration = .ok node := by
  have parsed : (Web.Url.parse "http://127.0.0.1:8545").toOption.isSome = true := by decide +kernel
  change ∃ node, Node.connect "http://127.0.0.1:8545" _ = .ok node
  unfold Node.connect
  cases url : Web.Url.parse "http://127.0.0.1:8545" with
  | error fault => simp [url, Except.toOption] at parsed
  | ok url => exact ⟨_, rfl⟩

/-! ## Stores of placed sessions -/

/-- The files with the documents of sessions, each in the directory that is given for it. -/
def filesOf (placed : List (String × Session)) : FileTree :=
  documentFiles (placed.map fun one => (one.1, one.2.write))

section

variable {placed : List (String × Session)} (tells : TellsKeys placed)
  (readable : ∀ one ∈ placed, Session.read? one.2.write = some one.2)

include tells readable

/-- The store that a command opens over the files has the sessions. -/
theorem places_storeOf (configuration : Configuration) :
    let store := storeOf ⟨⟨"/"⟩⟩ configuration (filesOf placed)
    Places store store.documentPath placed :=
  tells.places_ofDocuments configuration.keyMatch readable

/-- An address finds the first directory that accepts it. -/
theorem lookup?_storeOf (configuration : Configuration) {address name : String}
    (first : (placed.map Prod.fst).find? (configuration.keyMatch.accepts address) = some name) :
    let store := storeOf ⟨⟨"/"⟩⟩ configuration (filesOf placed)
    SessionStore.lookup? store address = some (store.documentPath name) :=
  (places_storeOf tells readable configuration).lookup?_eq first

/-- If each session is in the first directory that accepts its address, the sessions that wait find
themselves, and their documents can be replaced. -/
theorem waiting_finds_itself (configuration : Configuration)
    (finds : ∀ keyMatch : KeyMatch, ∀ one ∈ placed,
      (placed.map Prod.fst).find? (keyMatch.accepts one.2.contractAddress) = some one.1) :
    let store := storeOf ⟨⟨"/"⟩⟩ configuration (filesOf placed)
    ∀ name path session, store.Waiting name path session →
      SessionStore.lookup? store session.contractAddress = some path ∧ store.Replaceable name := by
  intro store name path session waiting
  obtain ⟨member, rfl⟩ := (places_storeOf tells readable configuration).exists_of_complete
    waiting.complete waiting.loads
  have first := finds configuration.keyMatch (name, session) member
  exact ⟨lookup?_storeOf tells readable configuration first,
    tells.replaceable_ofDocuments configuration.keyMatch member⟩

/-- A session in a directory that no address of a session finds is left as it was. -/
theorem shows_of_overlooked {one : String × Session} (member : one ∈ placed)
    (overlooked : ∀ keyMatch : KeyMatch, ∀ other ∈ placed, ∃ name ∈ placed.map Prod.fst,
      name ≠ one.1 ∧
        (placed.map Prod.fst).find? (keyMatch.accepts other.2.contractAddress) = some name) :
    let configuration := settingsOf ⟨⟨"/"⟩⟩ (filesOf placed)
    let outcome := ((map offline ⟨⟨"/"⟩⟩ localNode (filesOf placed)).run ()).1
    SessionStore.Shows (storeOf ⟨⟨"/"⟩⟩ configuration outcome.files) one.2 := by
  intro configuration outcome
  have wellFormed : (filesOf placed).WellFormed := tells.wellFormed_documentFiles
  have places := places_storeOf tells readable configuration
  obtain ⟨node, connects⟩ := exists_nodeOf_localNode configuration
  have reworked :=
    reworked_map wellFormed (places.namesKeys tells) offline rfl connects ()
  have left : ¬ (storeOf ⟨⟨"/"⟩⟩ configuration (filesOf placed)).Reached
      ((pendingTargets (openStore ⟨⟨"/"⟩⟩ (filesOf placed)).2).toOption.getD []) one.1 := by
    rintro ⟨_, _, query, pending, found⟩
    obtain ⟨other, path, held, waiting, rfl⟩ :=
      (mem_pendingTargets_openStore_iff wellFormed query).mp pending
    obtain ⟨placedToo, rfl⟩ := places.exists_of_complete waiting.complete waiting.loads
    obtain ⟨name, listed, apart, first⟩ :=
      overlooked configuration.keyMatch (other, held) placedToo
    obtain ⟨two, isTwo, rfl⟩ := List.mem_map.mp listed
    have looked := lookup?_storeOf tells readable configuration first
    exact apart (DirectoryStore.documentPath_inj _ (tells.areNames two isTwo).isName
      (tells.areNames one member).isName (Option.some.inj (looked.symm.trans found)))
  have complete := places.complete_iff.mpr ⟨one, member, rfl, rfl⟩
  have completeLater : DirectoryView.Complete (storeOf ⟨⟨"/"⟩⟩ configuration outcome.files) one.1
      ((storeOf ⟨⟨"/"⟩⟩ configuration (filesOf placed)).documentPath one.1) := by
    rwa [DirectoryView.Complete, reworked.complete]
  exact DirectoryView.shows_iff.mpr ⟨one.1, _, completeLater,
    (reworked.load_eq complete left).trans (places.loads one member)⟩

end

/-- The sessions of two contracts at different addresses are enriched. -/
theorem map_all_enriches_vault_and_token :
    let files := filesOf vaultAndToken
    let directory : DataDirectory := ⟨⟨"/"⟩⟩
    let configuration := settingsOf directory files
    let store := storeOf directory configuration files
    let outcome := ((map offline directory localNode files).run ()).1
    (localNode.target = none ∧ files.WellFormed ∧ NamesKeys store) ∧
      (∀ one ∈ vaultAndToken, SessionStore.Shows store one.2 ∧ one.2.isEnriched = false) ∧
      store.AllEnriched (storeOf directory configuration outcome.files) := by
  intro files directory configuration store outcome
  have wellFormed : files.WellFormed := tellsKeys_vaultAndToken.wellFormed_documentFiles
  have places := places_storeOf tellsKeys_vaultAndToken readable_vaultAndToken configuration
  have namesKeys := places.namesKeys tellsKeys_vaultAndToken
  have unresolved : ∀ one ∈ vaultAndToken, one.2.isEnriched = false := by decide
  refine ⟨⟨rfl, wellFormed, namesKeys⟩,
    fun one member => ⟨places.shows member, unresolved one member⟩, ?_⟩
  refine (map_all_enriches_iff offline directory localNode rfl files wellFormed namesKeys ()).mpr ?_
  exact fun name path session waiting => ⟨exists_nodeOf_localNode configuration,
    waiting_finds_itself tellsKeys_vaultAndToken readable_vaultAndToken configuration
      find?_vaultAndToken name path session waiting⟩

/-- The key of a contract at the same address on another network. -/
def twinKey : SessionKey := ⟨"bsc", vaultKey.address⟩

/-- A session about the contract on the other network. -/
def twinSession : Session where
  networkInfo := { (vaultSession none).networkInfo with contractNetwork := "bsc" }

/-- The network is all that tells the key from that of the vault. -/
theorem key_twinSession : twinSession.key = .ok twinKey := by
  have sameAddress : twinSession.contractAddress = (vaultSession none).contractAddress := rfl
  rw [Session.key, sameAddress, Session.parse?_contractAddress (key_vaultSession none)]
  rfl

/-- The session about the contract on the other network is read back. -/
theorem read?_write_twinSession : Session.read? twinSession.write = some twinSession :=
  Session.read?_write (Session.asRead_of_plain _ [] (List.forall_mem_nil _))
    (List.forall_mem_nil _)

/-- The sessions of both contracts, each in the directory of its key. -/
def twins : List (String × Session) :=
  [(twinKey.directoryName "Vault", twinSession),
    (vaultKey.directoryName "Vault", vaultSession none)]

/-- The name of the network decides which directory comes first. -/
theorem twin_lt_vault : twinKey.directoryName "Vault" < vaultKey.directoryName "Vault" := by
  rw [String.lt_iff_toList_lt, SessionKey.toList_directoryName, SessionKey.toList_directoryName]
  exact List.Lex.rel (by decide)

/-- Both names tell keys, which differ in the network. -/
theorem tellsKeys_twins : TellsKeys twins := by
  have short : twinKey.network.utf8ByteSize + 44 + "Vault".utf8ByteSize <= nameLimit := by decide
  have isDirectoryName : IsDirectoryName (twinKey.directoryName "Vault") :=
    SessionKey.isDirectoryName_directoryName
      (SessionKey.isName_directoryName (by decide) (by decide) (by decide) (by decide)) short
  exact .pair (by decide) twin_lt_vault ⟨isDirectoryName, isDirectoryName_vault⟩
    ⟨key_twinSession, key_vaultSession none⟩ ⟨by decide, by decide⟩

/-- Both sessions are read back. -/
theorem readable_twins : ∀ one ∈ twins, Session.read? one.2.write = some one.2 := by
  simpa [twins] using ⟨read?_write_twinSession, read?_write_vaultSession none⟩

/-- The address of both is accepted by the name of the first directory. -/
theorem find?_twins (keyMatch : KeyMatch) : ∀ one ∈ twins,
    (twins.map Prod.fst).find? (keyMatch.accepts one.2.contractAddress) =
      some (twinKey.directoryName "Vault") := by
  have encoded : twinKey.EncodedBy (twinKey.directoryName "Vault") :=
    SessionKey.encodedBy_directoryName (by decide) "Vault"
  have read := Session.parse?_contractAddress (key_vaultSession none)
  have accepts : keyMatch.accepts (vaultSession none).contractAddress
      (twinKey.directoryName "Vault") = true := by
    refine keyMatch.accepts_of_encodedBy ?_ encoded
    exact read
  have sameAddress : ∀ one ∈ twins, one.2.contractAddress = (vaultSession none).contractAddress :=
    List.forall_mem_cons.mpr ⟨rfl, List.forall_mem_singleton.mpr rfl⟩
  intro one member
  rw [sameAddress one member]
  exact List.find?_cons_of_pos accepts

/-- Of two contracts at the same address on two networks, only the first is enriched: the address of
either finds the first. -/
theorem shared_address_left_waiting :
    let name := vaultKey.directoryName "Vault"
    let twinName := twinKey.directoryName "Vault"
    let session := vaultSession none
    let twin := twinSession
    let text := session.write
    let twinText := twin.write
    let files := documentFiles [(twinName, twinText), (name, text)]
    let directory : DataDirectory := ⟨⟨"/"⟩⟩
    let configuration := settingsOf directory files
    let store := storeOf directory configuration files
    let outcome := ((map offline directory localNode files).run ()).1
    localNode.target = none ∧ (∃ node, nodeOf localNode configuration = .ok node) ∧
      files.WellFormed ∧ NamesKeys store ∧
      SessionStore.Shows (storeOf directory configuration outcome.files) session ∧
      session.isEnriched = false := by
  intro name twinName session twin text twinText files directory configuration store outcome
  have wellFormed : files.WellFormed := tellsKeys_twins.wellFormed_documentFiles
  have places := places_storeOf tellsKeys_twins readable_twins configuration
  have isVault : (name, session) ∈ twins := by simp [twins, name, session]
  have shows := shows_of_overlooked tellsKeys_twins readable_twins isVault
    fun keyMatch other member =>
      ⟨twinName, List.mem_cons_self .., twin_lt_vault.ne, find?_twins keyMatch other member⟩
  exact ⟨rfl, exists_nodeOf_localNode configuration, wellFormed,
    places.namesKeys tellsKeys_twins, shows, rfl⟩

end CommandLine

end ContractAtlas
