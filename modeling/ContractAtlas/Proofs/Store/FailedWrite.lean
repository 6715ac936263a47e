import ContractAtlas.Proofs.Store.Enrichment
import ContractAtlas.Proofs.Store.Listing

/-!
# Writes that fail

A session is saved in steps: its directory is made, the text is written beside the document, and it
is then moved there. Whichever step fails, those before it have only made directories without a
document, and a file under a name that nobody reads. So the store shows what it showed before
(`failed_write_shows_same`).

The path of the data directory must not lead up out of a directory that is missing, since making
that directory is what would make such a path lead anywhere. Where a data directory has been made,
it does not (`anchored_of_ensure`).
-/

namespace ContractAtlas

namespace DirectoryStore

open FileTree

/-- Whether nothing that can be read of a store differs in a later state of it: what it lists, what
every query finds, and the bytes of every document. -/
structure ShowsSame (store later : DirectoryStore) : Prop where
  documents : SessionStore.documents later = SessionStore.documents store
  lookup?_eq : ∀ query, SessionStore.lookup? later query = SessionStore.lookup? store query
  content : ∀ paths, SessionStore.documents store = .ok paths → ∀ path ∈ paths,
    later.files.readBytes path = store.files.readBytes path

/-- What a write that stops half way leaves of a store. -/
structure Unfinished (store later : DirectoryStore) : Prop where
  directory : later.directory = store.directory
  keyMatch : later.keyMatch = store.keyMatch
  wellFormed : later.files.WellFormed
  extended : Extends stagingName store.files later.files

/-- A write that fails at once leaves everything as it is. -/
theorem Unfinished.refl {store : DirectoryStore} (wellFormed : store.files.WellFormed) :
    store.Unfinished store :=
  ⟨rfl, rfl, wellFormed, .refl stagingName store.files⟩

namespace Unfinished

variable {store later : DirectoryStore}

/-- Documents keep their paths. -/
theorem documentPath_eq (unfinished : store.Unfinished later) (name : String) :
    later.documentPath name = store.documentPath name := by
  rw [documentPath, documentPath, unfinished.directory]

/-- A path that ends in a name leads to the same files, unless it is the name under which documents
are written. -/
theorem sameFile (unfinished : store.Unfinished later) (wellFormed : store.files.WellFormed)
    {path : Path} (anchored : store.files.Anchored path) {name : String}
    (isName : Path.IsName name) (apart : name ≠ stagingName) :
    SameFile store.files later.files (path.join name) := fun _ _ =>
  unfinished.extended.status_eq_ok_iff wellFormed.rooted anchored isName apart

/-- The same directories are complete. -/
theorem complete_eq (unfinished : store.Unfinished later) (wellFormed : store.files.WellFormed)
    (anchored : store.files.Anchored store.directory.root) :
    DirectoryView.complete later = DirectoryView.complete store := by
  have anchoredSessions : store.files.Anchored store.directory.sessions :=
    anchored.join isName_sessions
  refine DirectoryStore.complete_eq wellFormed unfinished.wellFormed unfinished.directory ?_ ?_
  · exact (unfinished.sameFile wellFormed anchored isName_sessions (by decide)).isFile_eq
      (isOpen_sessions store.directory).noSlash
  · intro name isName
    exact (unfinished.sameFile wellFormed (anchoredSessions.join isName) isName_documentName
      (by decide)).isFile_eq (store.endsInSlash_documentPath name)

/-- Nothing that can be read differs after a write that stops half way. -/
theorem showsSame (unfinished : store.Unfinished later) (wellFormed : store.files.WellFormed)
    (anchored : store.files.Anchored store.directory.root) : store.ShowsSame later where
  documents := by
    rw [DirectoryView.documents_eq, DirectoryView.documents_eq,
      unfinished.complete_eq wellFormed anchored]
  lookup?_eq query := by
    have keyMatch : DirectoryView.keyMatch later = DirectoryView.keyMatch store :=
      unfinished.keyMatch
    rw [DirectoryView.lookup?_eq, DirectoryView.lookup?_eq, keyMatch,
      unfinished.complete_eq wellFormed anchored]
  content paths listing path member := by
    obtain ⟨name, complete⟩ := DirectoryView.exists_complete listing member
    obtain ⟨isName, isFile, rfl⟩ := (complete_iff wellFormed).mp complete
    exact (unfinished.sameFile wellFormed ((anchored.join isName_sessions).join isName)
      isName_documentName (by decide)).readBytes_eq (store.endsInSlash_documentPath name) isFile

end Unfinished

/-! ## The steps of a write -/

section

variable {store : DirectoryStore}

/-- A directory that is made and left empty is what a write leaves half way. -/
theorem Unfinished.ensureDirectory (wellFormed : store.files.WellFormed) (name : String) :
    store.Unfinished (store.ensureDirectory name).2 := by
  obtain ⟨wellFormedAfter, extended⟩ :=
    wellFormed.ensureDirectory stagingName (store.directory.session name)
  exact ⟨rfl, rfl, wellFormedAfter, extended⟩

/-- A document that is not replaced leaves at most the text that was to replace it. -/
theorem unfinished_replaceDocument (wellFormed : store.files.WellFormed) {directory : Path}
    {text : String} {fault : StoreError} {files : FileTree}
    (failed : replaceDocument store.files directory text = (.error fault, files)) :
    store.Unfinished { store with files } := by
  rw [replaceDocument_eq] at failed
  cases written : store.files.writeText (directory.join stagingName) text with
  | error cause =>
      rw [written] at failed
      cases failed
      exact .refl wellFormed
  | ok staged =>
      obtain rfl : staged = files := by
        simp only [written] at failed
        split at failed <;> cases failed
        rfl
      obtain ⟨place, resolved, plain, rfl⟩ :=
        (writeText_eq_ok_iff (endsInSlash_staging directory)).mp written
      obtain ⟨_, _, parent, _, isDirectory, rfl⟩ :=
        (resolve_join_eq_ok_iff isName_stagingName).mp resolved
      exact ⟨rfl, rfl, wellFormed.set _ isDirectory isName_stagingName plain, .set_aside _ plain⟩

/-- Two writes that stop half way leave no more than one does. -/
theorem Unfinished.trans {middle later : DirectoryStore} (first : store.Unfinished middle)
    (second : middle.Unfinished later) : store.Unfinished later where
  directory := second.directory.trans first.directory
  keyMatch := second.keyMatch.trans first.keyMatch
  wellFormed := second.wellFormed
  extended := first.extended.trans second.extended

/-- Whatever step of a save fails, those before it are unfinished. -/
theorem unfinished_save (wellFormed : store.files.WellFormed) {session : Session}
    {fault : StoreError} {later : DirectoryStore}
    (failed : store.save session = (.error fault, later)) : store.Unfinished later := by
  unfold save at failed
  split at failed
  · cases failed
    exact .refl wellFormed
  · split at failed
    · cases failed
      exact .refl wellFormed
    · rename_i name _
      have made := Unfinished.ensureDirectory wellFormed name
      split at failed
      · rename_i ensured
        rw [ensured] at made
        cases failed
        exact made
      · rename_i directory middle ensured
        rw [ensured] at made
        obtain ⟨replaced, rfl⟩ := Prod.mk.inj failed
        exact made.trans (unfinished_replaceDocument made.wellFormed (Prod.ext replaced rfl))

/-- Whatever step of mapping a target fails, those before it are unfinished. -/
theorem unfinished_mapTarget (wellFormed : store.files.WellFormed) {ω : Type}
    {reader : ContractReader (StateM ω)} {query : String} {world worldLater : ω}
    {fault : AtlasError} {later : DirectoryStore}
    (failed : (mapTarget reader query store).run world = ((.error fault, later), worldLater)) :
    store.Unfinished later := by
  rw [run_mapTarget] at failed
  split at failed
  · cases failed
    exact .refl wellFormed
  · split at failed
    · cases failed
      exact .refl wellFormed
    · rename_i enriched summary _ _
      obtain ⟨answer, rfl⟩ := Prod.mk.inj (Prod.mk.inj failed).1
      cases saved : (SessionStore.save store enriched).1 with
      | error cause => exact unfinished_save wellFormed (Prod.ext saved rfl)
      | ok path =>
          rw [saved] at answer
          cases answer

end

/-- The path of a data directory that has been made leads to it. -/
theorem anchored_of_ensure {directory : DataDirectory} {files later : FileTree}
    (wellFormed : files.WellFormed) (ensured : directory.ensure files = (.ok (), later)) :
    later.Anchored directory.root := by
  rw [DataDirectory.ensure, ensureDirectories] at ensured
  rcases made : files.ensureDirectory directory.root with ⟨_ | _, first⟩ <;>
    rw [made] at ensured
  · cases ensured
  · obtain ⟨place, resolved⟩ := wellFormed.exists_resolve_of_ensureDirectory made
    have wellFormedFirst := made ▸ (wellFormed.ensureDirectory "" directory.root).1
    have keeps := (wellFormedFirst.ensureDirectories "" [directory.sessions, directory.logs]).2.keeps
    simp only at ensured
    rw [ensured] at keeps
    exact anchored_of_resolve (keeps.resolve_eq_ok resolved)

/-- A save that fails, or a target that is not mapped, changes nothing that can be read: neither the
documents that a store lists nor what any query finds nor the content of any document. -/
theorem failed_write_shows_same {store : DirectoryStore} (wellFormed : store.files.WellFormed)
    (anchored : store.files.Anchored store.directory.root) :
    (∀ session fault later, store.save session = (.error fault, later) → store.ShowsSame later) ∧
    ∀ (ω : Type) (reader : ContractReader (StateM ω)) query world fault later worldLater,
      (mapTarget reader query store).run world = ((.error fault, later), worldLater) →
      store.ShowsSame later :=
  ⟨fun _ _ _ failed => (unfinished_save wellFormed failed).showsSame wellFormed anchored,
    fun _ _ _ _ _ _ _ failed =>
      (unfinished_mapTarget wellFormed failed).showsSame wellFormed anchored⟩

/-- A store with one document, and a file beside its directory. -/
def withOneDocument : DirectoryStore where
  directory := ⟨⟨"/"⟩⟩
  keyMatch := .exact
  files := { entries :=
    [(["sessions"], .directory),
     (["sessions", "mainet:0x2222222222222222222222222222222222222222"], .directory),
     (["sessions", "mainet:0x2222222222222222222222222222222222222222", "sessionData.json"],
       .file "\x7b\x7d".toUTF8),
     (["sessions", "notes"], .file "".toUTF8)] }

/-- The tree with one document is well formed. -/
theorem wellFormed_withOneDocument : withOneDocument.files.WellFormed :=
  .of_entries (by decide) (by decide +kernel) (by decide)

/-- A session whose contract has slashes in its name, with a file on the way. -/
def slashedSession : Session where
  networkInfo :=
    { contractName := "Vault/../notes/x"
      contractAddress := "0x1111111111111111111111111111111111111111"
      contractNetwork := "mainet" }

/-- The first slash in the contract's name makes a directory, and a later one is refused, because it
follows a file. The document is shown as before, and the new directory is not complete. -/
theorem failed_write_shows_same_slash :
    (withOneDocument.files.WellFormed ∧
      withOneDocument.files.Anchored withOneDocument.directory.root) ∧
    ∃ fault later, withOneDocument.save slashedSession = (.error fault, later) ∧
      later.files.contains
        ⟨"/sessions/mainet:0x1111111111111111111111111111111111111111:Vault"⟩ = true ∧
      SessionStore.documents withOneDocument = .ok
        [⟨"/sessions/mainet:0x2222222222222222222222222222222222222222/sessionData.json"⟩] ∧
      withOneDocument.ShowsSame later := by
  have wellFormed := wellFormed_withOneDocument
  have anchored : withOneDocument.files.Anchored withOneDocument.directory.root :=
    anchored_of_not_mem (by decide +kernel)
  have stopped : (!(withOneDocument.save slashedSession).1.isOk &&
      (withOneDocument.save slashedSession).2.files.contains
        ⟨"/sessions/mainet:0x1111111111111111111111111111111111111111:Vault"⟩) = true := by
    decide +kernel
  refine ⟨⟨wellFormed, anchored⟩, ?_⟩
  rcases saved : withOneDocument.save slashedSession with ⟨fault | path, later⟩
  · rw [saved] at stopped
    exact ⟨fault, later, rfl, stopped, by decide +kernel,
      (failed_write_shows_same wellFormed anchored).1 slashedSession fault later saved⟩
  · rw [saved] at stopped
    cases stopped

end DirectoryStore

end ContractAtlas
