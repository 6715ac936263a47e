import ContractAtlas.CommandLine.Run
import ContractAtlas.Proofs.Store.Listing

/-!
# Listings and what they list

A store is scanned in four ways: for the first directory that a query matches, for all documents,
for all sessions, and for the list of directories that is printed. All of them go through the
directories in the order of their names and ask the same two questions, whether there is a document
and whether it can be loaded. So what a query finds and what is printed can be read off the listed
documents and sessions (`views_agree`). They go through the same directories, too: those right below
the place of the sessions whose names are texts. Directories further down and directories under
other names are in none of the views (`directories_left_out`). -/

namespace ContractAtlas

/-- The name of the directory that a path leads into. -/
def Path.directoryName? (path : Path) : Option String :=
  path.components.dropLast.getLast?

namespace SessionStore

variable {σ : Type} [SessionStore σ] (store : σ)

/-- With a path that is asked for, a session is listed if it can be loaded, and with no other one.
-/
theorem lookup_loadable (paths : List Path) (path : Path) :
    (loadable store paths).lookup path =
      if path ∈ paths then (load store path).toOption else none := by
  induction paths with
  | nil => rfl
  | cons first later inductionHypothesis =>
      rw [loadable] at inductionHypothesis
      rw [loadable, List.filterMap_cons]
      by_cases same : path = first
      · subst same
        cases loaded : load store path <;> simp [loaded, inductionHypothesis, Except.toOption]
      · have apart : (path == first) = false := beq_false_of_ne same
        cases load store first <;> simp [List.lookup_cons, apart, same, inductionHypothesis]

/-- Of some paths, those that can be loaded are listed in the same order. -/
theorem map_fst_loadable (paths : List Path) :
    (loadable store paths).map Prod.fst = paths.filter fun path => (load store path).isOk := by
  rw [loadable, List.map_filterMap, ← List.filterMap_eq_filter]
  refine List.filterMap_congr fun path _ => ?_
  cases loaded : load store path <;> simp [loaded, Option.guard, Except.isOk, Except.toBool]

end SessionStore

namespace DirectoryStore

open CommandLine (Command DirectoryStatus Outcome Surroundings statusOf)

/-- The names of the directories that have a document. -/
def withDocument (store : DirectoryStore) (names : List String) : List String :=
  names.filter fun name => store.files.isFile (store.documentPath name)

/-- What can be listed of a store: the names of its directories, its documents and its sessions.
What a query finds can be read off the documents. -/
structure Views (store : DirectoryStore) (names : List String) (documents : List Path)
    (sessions : List (Path × Session)) : Prop where
  directoryNames_eq : store.directoryNames = .ok names
  names_ascending : names.Pairwise (· < ·)
  mem_names_iff : ∀ name, name ∈ names ↔
    ∃ place, store.files.resolve store.directory.sessions = .ok place ∧
      store.files.entryAt? (place ++ [name]) = some .directory
  /-- The names are those that the place of all session directories lists, as far as they are texts.
  -/
  mem_names_iff_listing : ∀ name, name ∈ names ↔
    ∃ place, store.files.resolve store.directory.sessions = .ok place ∧
      (name.toUTF8, .directory) ∈ store.files.listing place
  documents_eq : SessionStore.documents store = .ok documents
  /-- The documents are those of the directories that have one, in the same order. -/
  documents_of_names : documents = (store.withDocument names).map store.documentPath
  documents_nodup : documents.Nodup
  directoryName?_documentPath : ∀ name ∈ names,
    (store.documentPath name).directoryName? = some name
  /-- A query finds the first document in a directory whose name matches. -/
  lookup?_eq : ∀ query, SessionStore.lookup? store query = documents.find? fun path =>
    path.directoryName?.any (store.keyMatch.accepts query)
  sessions_eq : SessionStore.sessions store = .ok sessions
  /-- The sessions are those of the documents that can be loaded, in the same order. -/
  sessions_of_documents : sessions.map Prod.fst =
    documents.filter fun path => (SessionStore.load store path).isOk
  load_eq : ∀ listed ∈ sessions, SessionStore.load store listed.1 = .ok listed.2

/-- The status of a directory as the listed documents and sessions show it, by the path of its
document. -/
def listedStatus (documents : List Path) (sessions : List (Path × Session)) (path : Path) :
    DirectoryStatus :=
  match sessions.lookup path with
  | some session => if session.isEnriched then .mapped else .analyzed
  | none => if path ∈ documents then .malformed else .incomplete

variable {store : DirectoryStore} {names : List String}

/-- The path of a document gives back the name of its directory. -/
theorem directoryName?_documentPath (store : DirectoryStore) {name : String}
    (isName : Path.IsName name) : (store.documentPath name).directoryName? = some name := by
  rw [Path.directoryName?, documentPath,
    Path.components_join _ isName_documentName.nonempty isName_documentName.noSlash,
    List.dropLast_concat, DataDirectory.session,
    Path.components_join _ isName.nonempty isName.noSlash, List.getLast?_concat]

section

variable (listing : store.directoryNames = .ok names)

include listing

/-- The documents are those of the directories that have one, in the order of the directories. -/
theorem documents_of_directoryNames : SessionStore.documents store =
    .ok ((store.withDocument names).map store.documentPath) := by
  rw [DirectoryView.documents_eq, complete_of_directoryNames listing]
  simp only [Except.map, List.map_map, Function.comp_def, withDocument]

/-- A query finds the first document whose directory matches it. -/
theorem lookup?_of_directoryNames (isName : ∀ name ∈ names, Path.IsName name) (query : String) :
    SessionStore.lookup? store query =
      ((store.withDocument names).map store.documentPath).find? fun path =>
        path.directoryName?.any (store.keyMatch.accepts query) := by
  rw [DirectoryView.lookup?_eq, complete_of_directoryNames listing]
  simp only [List.find?_map, Option.map_map]
  refine congrArg (Option.map store.documentPath) (List.find?_congr fun name member => ?_)
  have isName := isName name (List.mem_of_mem_filter member)
  simp only [Function.comp_apply, directoryName?_documentPath store isName, Option.any_some]
  rfl

end

/-- A directory is listed with a document exactly if its document is a file. -/
theorem mem_documents_iff {documents : List Path} {sessions : List (Path × Session)}
    (views : store.Views names documents sessions) {name : String} (listed : name ∈ names) :
    store.documentPath name ∈ documents ↔
      store.files.isFile (store.documentPath name) = true := by
  rw [views.documents_of_names, List.mem_map]
  constructor
  · rintro ⟨other, member, same⟩
    obtain ⟨_, isFile⟩ := List.mem_filter.mp member
    rwa [same] at isFile
  · intro isFile
    exact ⟨name, List.mem_filter.mpr ⟨listed, isFile⟩, rfl⟩

/-- The status of a directory in the list that is printed. -/
theorem statusOf_eq {documents : List Path} {sessions : List (Path × Session)}
    (views : store.Views names documents sessions) {name : String} (listed : name ∈ names) :
    statusOf store name = listedStatus documents sessions (store.documentPath name) := by
  have sessions_eq : sessions = SessionStore.loadable store documents := by
    have both := views.sessions_eq
    rw [SessionStore.sessions, views.documents_eq] at both
    exact (Except.ok.inj both).symm
  have isDocument := mem_documents_iff views listed
  unfold statusOf
  rw [listedStatus, sessions_eq, SessionStore.lookup_loadable]
  simp only [isDocument]
  cases isFile : store.files.isFile (store.documentPath name) with
  | false =>
      rw [document?_eq_none_iff.mpr isFile]
      simp
  | true =>
      have document : store.document? name = some (store.documentPath name) :=
        document?_eq_some_iff.mpr ⟨isFile, rfl⟩
      have load_eq : SessionStore.load store = store.load := rfl
      rw [document, load_eq]
      cases loaded : store.load (store.documentPath name) <;> simp [Except.toOption, loaded]

/-- The views exist wherever the directory that holds the directories is one. -/
theorem exists_views (wellFormed : store.files.WellFormed)
    (readable : store.files.isFile store.directory.sessions = false) :
    ∃ names documents sessions, store.Views names documents sessions := by
  obtain ⟨names, listing, ascending, mem_names_iff⟩ := exists_directoryNames wellFormed readable
  have isName (name : String) (listed : name ∈ names) : Path.IsName name :=
    Lists.isName wellFormed ⟨names, listing, listed⟩
  have documents_eq := documents_of_directoryNames listing
  have documents_nodup := nodup_documents wellFormed (complete_of_directoryNames listing)
  rw [List.map_map] at documents_nodup
  let documents := (store.withDocument names).map store.documentPath
  refine ⟨names, documents, SessionStore.loadable store documents, ?_⟩
  constructor
  case directoryNames_eq => exact listing
  case names_ascending => exact ascending
  case mem_names_iff => exact mem_names_iff
  case mem_names_iff_listing =>
    simpa only [← FileTree.mem_childDirectories_iff_listing, wellFormed.mem_childDirectories_iff]
      using mem_names_iff
  case documents_eq => exact documents_eq
  case documents_of_names => rfl
  case documents_nodup => exact documents_nodup
  case directoryName?_documentPath =>
    exact fun name listed => directoryName?_documentPath store (isName name listed)
  case lookup?_eq => exact lookup?_of_directoryNames listing isName
  case sessions_eq =>
    rw [SessionStore.sessions, documents_eq]
    rfl
  case sessions_of_documents => exact SessionStore.map_fst_loadable store _
  case load_eq => exact fun listed member => (SessionStore.mem_loadable.mp member).2

/-! ## Names that are no text -/

/-- The store with other things under the names that are no text. -/
def withRaw (store : DirectoryStore) (raw : List (Place × RawName × Entry)) : DirectoryStore :=
  { store with files := store.files.withRaw raw }

section

variable (raw : List (Place × RawName × Entry))

/-- Entries whose names are no text change none of the names that are listed. -/
theorem directoryNames_withRaw (store : DirectoryStore) :
    (store.withRaw raw).directoryNames = store.directoryNames := by
  simp only [directoryNames, withRaw, FileTree.contains, FileTree.status_withRaw,
    FileTree.directoryNames_withRaw]
  rfl

/-- They change no document. -/
theorem document?_withRaw (store : DirectoryStore) :
    (store.withRaw raw).document? = store.document? := by
  funext name
  simp only [document?, withRaw, FileTree.isFile_withRaw, documentPath]
  rfl

/-- They give no directory a document. -/
theorem withDocument_withRaw (store : DirectoryStore) (names : List String) :
    (store.withRaw raw).withDocument names = store.withDocument names := by
  simp only [withDocument, withRaw, FileTree.isFile_withRaw]
  rfl

/-- They change nothing that is loaded. -/
theorem load_withRaw (store : DirectoryStore) :
    SessionStore.load (store.withRaw raw) = SessionStore.load store := by
  funext path
  change (store.withRaw raw).load path = store.load path
  simp only [load, withRaw, FileTree.readText_withRaw]

/-- They change no list of documents. -/
theorem documents_withRaw (store : DirectoryStore) :
    SessionStore.documents (store.withRaw raw) = SessionStore.documents store := by
  change (store.withRaw raw).documents = store.documents
  rw [documents, documents, directoryNames_withRaw, document?_withRaw]

/-- They change nothing that a query finds. -/
theorem lookup?_withRaw (store : DirectoryStore) :
    SessionStore.lookup? (store.withRaw raw) = SessionStore.lookup? store := by
  funext query
  change (store.withRaw raw).lookup? query = store.lookup? query
  rw [lookup?, lookup?, directoryNames_withRaw, document?_withRaw]
  rfl

end

/-- Nothing of what can be listed changes with what stands under names that are no text. -/
theorem Views.withRaw {documents : List Path} {sessions : List (Path × Session)}
    (views : store.Views names documents sessions) (raw : List (Place × RawName × Entry)) :
    (store.withRaw raw).Views names documents sessions := by
  have loadable_eq : SessionStore.loadable (store.withRaw raw) = SessionStore.loadable store := by
    funext paths
    rw [SessionStore.loadable, SessionStore.loadable, load_withRaw]
  have resolve_eq : (store.withRaw raw).files.resolve store.directory.sessions =
      store.files.resolve store.directory.sessions := FileTree.resolve_withRaw raw _
  have listing_iff (place : Place) (name : String) :
      (name.toUTF8, Entry.directory) ∈ (store.withRaw raw).files.listing place ↔
        (name.toUTF8, .directory) ∈ store.files.listing place := by
    rw [FileTree.mem_listing_iff, FileTree.mem_listing_iff]
    rfl
  constructor
  case directoryNames_eq => rw [directoryNames_withRaw, views.directoryNames_eq]
  case names_ascending => exact views.names_ascending
  case mem_names_iff => exact fun name => resolve_eq.symm ▸ views.mem_names_iff name
  case mem_names_iff_listing =>
    intro name
    simp only [listing_iff]
    exact resolve_eq.symm ▸ views.mem_names_iff_listing name
  case documents_eq => rw [documents_withRaw, views.documents_eq]
  case documents_of_names =>
    rw [withDocument_withRaw]
    exact views.documents_of_names
  case documents_nodup => exact views.documents_nodup
  case directoryName?_documentPath => exact views.directoryName?_documentPath
  case lookup?_eq =>
    rw [lookup?_withRaw]
    exact views.lookup?_eq
  case sessions_eq =>
    rw [SessionStore.sessions, documents_withRaw, loadable_eq]
    exact views.sessions_eq
  case sessions_of_documents =>
    rw [load_withRaw]
    exact views.sessions_of_documents
  case load_eq =>
    rw [load_withRaw]
    exact views.load_eq

/-- In whatever state the directories are, complete, incomplete or malformed, and whatever files
stand beside them: what a query finds and which sessions there are can be read off the listed
documents (`Views`), and the command that lists the directories prints each of them once, in
ascending order, with the status that the listed documents and sessions show (`listedStatus`). It
fails nowhere and leaves the files as they are. The directories are those right below the place of
the sessions whose names are texts: what stands under other names changes none of the views. -/
theorem views_agree (wellFormed : store.files.WellFormed)
    (readable : store.files.isFile store.directory.sessions = false) :
    ∃ names documents sessions, store.Views names documents sessions ∧
      (∀ raw, (store.withRaw raw).Views names documents sessions) ∧
      ∀ {m : Type → Type} [Monad m] (surroundings : Surroundings m) (header : Bool),
        Command.run surroundings store.directory store.files (.list header) =
          pure (.printed ((if header then ["Sessions:"] else []) ++ names.map fun name =>
            name ++ "\t" ++ (listedStatus documents sessions (store.documentPath name)).name)
              store.files) := by
  obtain ⟨names, documents, sessions, views⟩ := exists_views wellFormed readable
  refine ⟨names, documents, sessions, views, views.withRaw, fun surroundings header => ?_⟩
  -- The command does not compare names with a query, so the way to do so is no matter.
  have listing : (DirectoryStore.mk store.directory .substring store.files).directoryNames =
      .ok names := views.directoryNames_eq
  have lines : names.map (CommandLine.listingLine ⟨store.directory, .substring, store.files⟩) =
      names.map fun name =>
        name ++ "\t" ++ (listedStatus documents sessions (store.documentPath name)).name :=
    List.map_congr_left fun name listed =>
      congrArg (fun status => name ++ "\t" ++ DirectoryStatus.name status)
        (statusOf_eq views listed)
  rw [Command.run, CommandLine.list, listing, ← lines]

/-- The name that is `vault-` and one more byte, which is no text. -/
def vaultRawName : RawName where
  bytes := "vault-".toUTF8.push 255
  notText := by decide

/-- A store with a session, one whose dependencies have been resolved, a document that is none, and
a directory without a document, with a file and a directory whose name is no text beside them. -/
def withEveryStatus : DirectoryStore where
  directory := ⟨⟨"/"⟩⟩
  keyMatch := .substring
  files :=
    { entries :=
        [(["sessions"], .directory),
         (["sessions", "vault"], .directory),
         (["sessions", "vault", "sessionData.json"], .file "\x7b\x7d".toUTF8),
         (["sessions", "notes"], .file "".toUTF8),
         (["sessions", "token"], .directory),
         (["sessions", "token", "sessionData.json"],
           .file "\x7b\"contract_data\":\x7b\"external_addresses\":\x7b\x7d\x7d\x7d".toUTF8),
         (["sessions", "draft"], .directory),
         (["sessions", "broken"], .directory),
         (["sessions", "broken", "sessionData.json"], .file "\x7b not json".toUTF8)]
      rawEntries := [(["sessions"], vaultRawName, .directory)] }

/-- The names of the directories that a table has at the place of all session directories. -/
theorem directoryNames_of_childDirectories {place : Place}
    (resolved : store.files.resolve store.directory.sessions = .ok place)
    (isDirectory : store.files.checkDirectory place = .ok ()) (sorted : names.Pairwise (· < ·))
    (same : (store.files.childDirectories place).Perm names) :
    store.directoryNames = .ok names := by
  have noSlash := (isOpen_sessions store.directory).noSlash
  have directory := FileTree.checkDirectory_eq_ok_iff.mp isDirectory
  rw [directoryNames, if_pos (FileTree.contains_eq_true noSlash resolved directory),
    FileTree.directoryNames_eq noSlash resolved directory sorted same]
  rfl

/-- The names come in their order, and a plain file between them is no directory. -/
theorem directoryNames_withEveryStatus :
    withEveryStatus.directoryNames = .ok ["broken", "draft", "token", "vault"] := by
  have below : withEveryStatus.files.childDirectories ["sessions"] =
      ["vault", "token", "draft", "broken"] := by decide
  refine directoryNames_of_childDirectories (resolve_sessions_root _) (by decide) (by decide) ?_
  rw [below]
  decide

/-- The directory without a document is passed over when a query looks for the first one that
matches, and it is printed all the same. The one whose name is no text is not. -/
theorem views_agree_everyStatus :
    let store := withEveryStatus
    (store.files.WellFormed ∧ store.files.isFile store.directory.sessions = false) ∧
      SessionStore.lookup? store "t" = some ⟨"/sessions/token/sessionData.json"⟩ ∧
      ∀ surroundings : Surroundings Id,
        Command.run surroundings store.directory store.files (.list true) =
          pure (.printed ["Sessions:", "broken\tmalformed", "draft\tincomplete", "token\tmapped",
            "vault\tanalyzed"] store.files) := by
  intro store
  have wellFormed : store.files.WellFormed := .of_entries (by decide) (by decide) (by decide)
  have readable : store.files.isFile store.directory.sessions = false := by decide
  obtain ⟨names, documents, sessions, views, _, listing⟩ := views_agree wellFormed readable
  obtain rfl : names = ["broken", "draft", "token", "vault"] :=
    Except.ok.inj (views.directoryNames_eq.symm.trans directoryNames_withEveryStatus)
  have complete : store.withDocument ["broken", "draft", "token", "vault"] =
      ["broken", "token", "vault"] := by decide
  refine ⟨⟨wellFormed, readable⟩, ?_, fun surroundings => (listing surroundings true).trans ?_⟩
  · rw [views.lookup?_eq, views.documents_of_names, complete]
    decide
  · have lines : ["broken", "draft", "token", "vault"].map (fun name =>
        name ++ "\t" ++ (listedStatus documents sessions (store.documentPath name)).name) =
          ["broken\tmalformed", "draft\tincomplete", "token\tmapped", "vault\tanalyzed"] := by
      rw [List.map_congr_left fun name listed => by rw [← statusOf_eq views listed]]
      decide
    rw [lines]
    rfl

/-! ## Directories in none of the views -/

/-- Whether everything that is listed as a directory at the place of all session directories has a
line: the bytes of its name and a status. -/
def PrintsEveryName (store : DirectoryStore) (lines : List String) : Prop :=
  ∀ place name, store.files.resolve store.directory.sessions = .ok place →
    (name, .directory) ∈ store.files.listing place →
    ∃ line ∈ lines, ∃ status : DirectoryStatus, line.toUTF8 = name ++ ("\t" ++ status.name).toUTF8

/-- Whether every directory below the place of all session directories, however far down, has a
line: its path from there and a status. -/
def PrintsEveryPlace (store : DirectoryStore) (lines : List String) : Prop :=
  ∀ place below, store.files.resolve store.directory.sessions = .ok place → below ≠ [] →
    store.files.entryAt? (place ++ below) = some .directory →
    ∃ line ∈ lines, ∃ status : DirectoryStatus,
      line = "/".intercalate below ++ "\t" ++ status.name

/-- A store with a directory, a complete one in it, and one beside it whose name is no text. -/
def withLeftOut : DirectoryStore where
  directory := ⟨⟨"/"⟩⟩
  keyMatch := .substring
  files :=
    { entries :=
        [(["sessions"], .directory),
         (["sessions", "vault"], .directory),
         (["sessions", "vault", "old"], .directory),
         (["sessions", "vault", "old", "sessionData.json"], .file "\x7b\x7d".toUTF8)]
      rawEntries := [(["sessions"], vaultRawName, .directory)] }

/-- Neither the directory that stands further down nor the one whose name is no text has a line. -/
theorem list_withLeftOut (header : Bool) :
    CommandLine.list withLeftOut header = .printed
      ((if header then ["Sessions:"] else []) ++ ["vault\tincomplete"]) withLeftOut.files := by
  have below : withLeftOut.files.childDirectories ["sessions"] = ["vault"] := by decide
  have listing : withLeftOut.directoryNames = .ok ["vault"] :=
    directoryNames_of_childDirectories (resolve_sessions_root _) (by decide)
      (List.pairwise_singleton _ _) (by rw [below])
  have line : CommandLine.listingLine withLeftOut "vault" = "vault\tincomplete" := by
    decide
  rw [CommandLine.list, listing]
  simp only [List.map_cons, List.map_nil, line]

/-- The name that is no text is listed with a directory, and no line is printed for it. -/
theorem not_printsEveryName_withLeftOut :
    ¬ withLeftOut.PrintsEveryName ["vault\tincomplete"] := by
  intro printsEvery
  have isListed : (vaultRawName.bytes, .directory) ∈ withLeftOut.files.listing ["sessions"] :=
    List.mem_append_right _ (List.mem_map.mpr
      ⟨_, List.mem_filter.mpr ⟨List.mem_singleton_self _, by decide⟩, rfl⟩)
  obtain ⟨line, printed, status, same⟩ := printsEvery _ _ (resolve_sessions_root _) isListed
  obtain rfl := List.mem_singleton.mp printed
  revert same
  cases status <;> decide

/-- The directory in another one stands there, and no line is printed for it. -/
theorem not_printsEveryPlace_withLeftOut :
    ¬ withLeftOut.PrintsEveryPlace ["vault\tincomplete"] := by
  intro printsEvery
  have stands : withLeftOut.files.checkDirectory (["sessions"] ++ ["vault", "old"]) = .ok () := by
    decide
  obtain ⟨line, printed, status, same⟩ := printsEvery _ _ (resolve_sessions_root _) (by simp)
    (FileTree.checkDirectory_eq_ok_iff.mp stands)
  obtain rfl := List.mem_singleton.mp printed
  revert same
  cases status <;> decide

/-- Neither of the two is printed, although the one further down has a session. -/
theorem directories_left_out :
    let store := withLeftOut
    store.files.WellFormed ∧ store.files.isFile store.directory.sessions = false ∧
      (store.load (store.documentPath "vault/old")).isOk = true ∧
      (∀ surroundings : Surroundings Id,
        Command.run surroundings store.directory store.files (.list false) =
          pure (.printed ["vault\tincomplete"] store.files)) ∧
      ¬ store.PrintsEveryName ["vault\tincomplete"] ∧
      ¬ store.PrintsEveryPlace ["vault\tincomplete"] := by
  intro store
  have wellFormed : store.files.WellFormed := .of_entries (by decide) (by decide) (by decide)
  exact ⟨wellFormed, by decide, by decide,
    fun _ => congrArg pure (list_withLeftOut false), not_printsEveryName_withLeftOut,
    not_printsEveryPlace_withLeftOut⟩

end DirectoryStore

end ContractAtlas
