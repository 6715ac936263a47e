import ContractAtlas.Proofs.Store.Directories

/-!
# Readable documents in a data directory

A query finds the document of the first matching directory that has one, whether or not it can be
loaded (`lookup?_eq_some_iff`). So a document that cannot be loaded hides the readable ones behind
it, and is itself taken for a session. `found_exactly_readable_iff` says when this does not happen:
every matching directory with such a document comes after a matching one that can be loaded.
-/

namespace ContractAtlas.DirectoryStore

/-- Whether a query matches the name of a directory. -/
def Matches (store : DirectoryStore) (query name : String) : Prop :=
  ∃ names, store.directoryNames = .ok names ∧ name ∈ names ∧
    store.keyMatch.accepts query name = true

/-- Whether a directory has a document that can be loaded. -/
def Readable (store : DirectoryStore) (name : String) : Prop :=
  ∃ session, store.load (store.documentPath name) = .ok session

/-- Whether a directory has a document that cannot be loaded. -/
def Malformed (store : DirectoryStore) (name : String) : Prop :=
  store.files.isFile (store.documentPath name) = true ∧ ¬ store.Readable name

variable {store : DirectoryStore} {query name : String}

/-- What can be read is a file. -/
theorem isFile_of_readText {path : Path} {text : String}
    (reads : store.files.readText path = .ok text) : store.files.isFile path = true := by
  rw [FileTree.readText, FileTree.readBytes] at reads
  rw [FileTree.isFile]
  cases status : store.files.status path with
  | error cause => simp [status, bind, Except.bind] at reads
  | ok found =>
      obtain ⟨place, entry⟩ := found
      cases entry with
      | directory => simp [status, bind, Except.bind, throw, throwThe,
          MonadExceptOf.throw] at reads
      | file content => rfl

/-- What can be loaded is read from some text. -/
theorem exists_read?_of_load {path : Path} {session : Session}
    (loads : store.load path = .ok session) :
    ∃ text, store.files.readText path = .ok text ∧ Session.read? text = some session := by
  rw [load] at loads
  cases reads : store.files.readText path with
  | error cause => simp [reads] at loads
  | ok text =>
      rw [reads] at loads
      simp only at loads
      split at loads <;> cases loads
      exact ⟨text, rfl, ‹_›⟩

/-- What can be loaded is a file. -/
theorem isFile_of_load {path : Path} {session : Session} (loads : store.load path = .ok session) :
    store.files.isFile path = true := by
  obtain ⟨_, reads, _⟩ := exists_read?_of_load loads
  exact isFile_of_readText reads

/-- A document that can be read is a file. -/
theorem Readable.isFile (readable : store.Readable name) :
    store.files.isFile (store.documentPath name) = true := by
  obtain ⟨session, loads⟩ := readable
  exact isFile_of_load loads

/-- A directory has no document exactly when there is no file in its place. -/
theorem document?_eq_none_iff :
    store.document? name = none ↔ store.files.isFile (store.documentPath name) = false := by
  simp [document?]

/-- A directory has the document whose place has a file. -/
theorem document?_eq_some_iff {path : Path} :
    store.document? name = some path ↔
      store.files.isFile (store.documentPath name) = true ∧ store.documentPath name = path := by
  simp [document?]

/-- The names of the directories stand in ascending order. -/
theorem pairwise_directoryNames {names : List String}
    (listing : store.directoryNames = .ok names) : names.Pairwise (· ≤ ·) := by
  have sorted (unordered : List String) :
      (unordered.mergeSort fun left right => left <= right).Pairwise (· ≤ ·) :=
    List.pairwise_mergeSort' _ unordered
  rw [directoryNames] at listing
  split at listing
  · cases status : store.files.status store.directory.sessions with
    | error cause =>
        simp [FileTree.directoryNames, status, bind, Except.bind, Except.mapError] at listing
    | ok found =>
        cases isDirectory : store.files.checkDirectory found.1 with
        | error cause =>
            simp [FileTree.directoryNames, status, isDirectory, bind, Except.bind,
              Except.mapError] at listing
        | ok _ =>
            simp only [FileTree.directoryNames, status, isDirectory, bind, Except.bind, pure,
              Except.pure, Except.mapError, Except.ok.injEq] at listing
            exact listing ▸ sorted _
  · cases listing
    exact List.Pairwise.nil

/-- A query finds the document of the first matching directory that has one. -/
theorem lookup?_eq_some_iff {path : Path} :
    SessionStore.lookup? store query = some path ↔
      ∃ name, store.Matches query name ∧ store.files.isFile (store.documentPath name) = true ∧
        store.documentPath name = path ∧
        ∀ earlier < name, store.Matches query earlier →
          store.files.isFile (store.documentPath earlier) = false := by
  change store.lookup? query = some path ↔ _
  rw [lookup?]
  cases listing : store.directoryNames with
  | error fault => simp [Matches, listing]
  | ok names =>
      have matches_iff (name : String) : store.Matches query name ↔
          name ∈ names.filter (store.keyMatch.accepts query) := by
        simp [Matches, listing]
      have sorted := (pairwise_directoryNames listing).filter (store.keyMatch.accepts query)
      simp only [matches_iff]
      generalize names.filter (store.keyMatch.accepts query) = matching at sorted
      constructor
      · intro found
        obtain ⟨before, name, after, rfl, document, skipped⟩ :=
          List.findSome?_eq_some_iff.mp found
        obtain ⟨isFile, located⟩ := document?_eq_some_iff.mp document
        refine ⟨name, by simp, isFile, located, fun earlier less member => ?_⟩
        have ordered := (List.pairwise_append.mp sorted).2.1
        obtain early | late := List.mem_append.mp member
        · exact document?_eq_none_iff.mp (skipped earlier early)
        · obtain rfl | late := List.mem_cons.mp late
          · exact absurd less (lt_irrefl _)
          · exact absurd less (not_lt.mpr ((List.pairwise_cons.mp ordered).1 earlier late))
      · rintro ⟨name, member, isFile, located, skipped⟩
        obtain ⟨before, after, rfl, new⟩ := List.eq_append_cons_of_mem member
        refine List.findSome?_eq_some_iff.mpr ⟨before, name, after, rfl,
          document?_eq_some_iff.mpr ⟨isFile, located⟩, fun earlier early => ?_⟩
        have below := (List.pairwise_append.mp sorted).2.2 earlier early name (by simp)
        have apart : earlier ≠ name := fun same => new (same ▸ early)
        exact document?_eq_none_iff.mpr
          (skipped earlier (lt_of_le_of_ne below apart) (by simp [early]))

/-- A query finds something exactly if a matching directory has a document. -/
theorem lookup?_isSome_iff_isFile :
    (SessionStore.lookup? store query).isSome = true ↔
      ∃ name, store.Matches query name ∧
        store.files.isFile (store.documentPath name) = true := by
  change (store.lookup? query).isSome = true ↔ _
  rw [lookup?]
  cases listing : store.directoryNames with
  | error fault => simp [Matches, listing]
  | ok names => simp [Matches, listing, document?, and_assoc]

/-- Whether a query finds exactly what can be loaded: it finds something if and only if a matching
directory has a document that can be loaded, it finds nothing else, and so it fails only where there
is nothing. -/
def FindsReadable (store : DirectoryStore) (query : String) : Prop :=
  ((SessionStore.lookup? store query).isSome = true ↔
    ∃ name, store.Matches query name ∧ store.Readable name) ∧
  (∀ path, SessionStore.lookup? store query = some path →
    ∃ session, SessionStore.load store path = .ok session) ∧
  ∀ fault, SessionStore.find store query = .error fault → fault = .sessionNotFound query

/-- Finding fails where nothing is found and where what is found cannot be loaded. -/
theorem find_eq_error_iff {fault : StoreError} :
    SessionStore.find store query = .error fault ↔
      (SessionStore.lookup? store query = none ∧ fault = .sessionNotFound query) ∨
        ∃ path, SessionStore.lookup? store query = some path ∧
          SessionStore.load store path = .error fault := by
  rw [SessionStore.find]
  cases found : SessionStore.lookup? store query with
  | none => simp [throw, throwThe, MonadExceptOf.throw, eq_comm]
  | some path =>
      cases loaded : SessionStore.load store path <;>
        simp [loaded, bind, Except.bind, pure, Except.pure]

/-- A query finds something wherever a matching document can be loaded. It finds exactly what can be
loaded if and only if every matching document that cannot be loaded comes after one that can. -/
theorem found_exactly_readable_iff (store : DirectoryStore) (query : String) :
    ((∃ name, store.Matches query name ∧ store.Readable name) →
      (SessionStore.lookup? store query).isSome = true) ∧
    (store.FindsReadable query ↔
      ∀ name, store.Matches query name → store.Malformed name →
        ∃ earlier < name, store.Matches query earlier ∧ store.Readable earlier) := by
  have always : (∃ name, store.Matches query name ∧ store.Readable name) →
      (SessionStore.lookup? store query).isSome = true := by
    rintro ⟨name, accepted, readable⟩
    exact lookup?_isSome_iff_isFile.mpr ⟨name, accepted, readable.isFile⟩
  refine ⟨always, ?_, ?_⟩
  · rintro ⟨-, loads, -⟩ name accepted ⟨isFile, unreadable⟩
    obtain ⟨path, found⟩ := Option.isSome_iff_exists.mp
      (lookup?_isSome_iff_isFile.mpr ⟨name, accepted, isFile⟩)
    obtain ⟨first, firstAccepted, _, rfl, skipped⟩ := lookup?_eq_some_iff.mp found
    have readable : store.Readable first := loads _ found
    refine ⟨first, lt_of_le_of_ne (not_lt.mp fun less => ?_) ?_, firstAccepted, readable⟩
    · exact absurd (skipped name less accepted) (by simp [isFile])
    · rintro rfl
      exact unreadable readable
  · intro behind
    -- What is found first cannot be malformed, since a readable document would come before it.
    have loads (path : Path) (found : SessionStore.lookup? store query = some path) :
        ∃ name, store.Matches query name ∧ store.documentPath name = path ∧
          store.Readable name := by
      obtain ⟨first, firstAccepted, isFile, located, skipped⟩ := lookup?_eq_some_iff.mp found
      refine ⟨first, firstAccepted, located, ?_⟩
      by_contra unreadable
      obtain ⟨earlier, less, accepted, readable⟩ := behind first firstAccepted ⟨isFile, unreadable⟩
      exact absurd (skipped earlier less accepted) (by simp [readable.isFile])
    refine ⟨⟨fun isSome => ?_, always⟩, fun path found => ?_, fun fault failed => ?_⟩
    · obtain ⟨path, found⟩ := Option.isSome_iff_exists.mp isSome
      obtain ⟨name, accepted, _, readable⟩ := loads path found
      exact ⟨name, accepted, readable⟩
    · obtain ⟨name, _, rfl, readable⟩ := loads path found
      exact readable
    · obtain ⟨_, same⟩ | ⟨path, found, rejected⟩ := find_eq_error_iff.mp failed
      · exact same
      · obtain ⟨name, _, rfl, session, loaded⟩ := loads path found
        cases loaded.symm.trans rejected

/-- A store with one document, which is no session. -/
def withMalformedDocument : DirectoryStore where
  directory := ⟨⟨"/"⟩⟩
  keyMatch := .exact
  files := { entries :=
    [(["sessions"], .directory),
     (["sessions", "mainet:0x1111111111111111111111111111111111111111"], .directory),
     (["sessions", "mainet:0x1111111111111111111111111111111111111111", "sessionData.json"],
       .file "\x7b not json".toUTF8)] }

/-- The only document is no session. It is found all the same, and loading it fails. -/
theorem malformed_document_found :
    let store := withMalformedDocument
    let query := "mainet:0x1111111111111111111111111111111111111111"
    let path := store.documentPath query
    SessionStore.lookup? store query = some path ∧
      SessionStore.find store query = .error (.malformedSession path .notASession) ∧
      (¬ ∃ name, store.Matches query name ∧ store.Readable name) ∧ ¬ store.FindsReadable query := by
  intro store query path
  have found : SessionStore.lookup? store query = some path := by decide +kernel
  have listing : store.directoryNames = .ok [query] := by decide +kernel
  have loads : SessionStore.load store path = .error (.malformedSession path .notASession) := by
    have content : store.files.readText path = .ok "\x7b not json" := by decide +kernel
    have refused : Session.read? "\x7b not json" = none :=
      Option.isNone_iff_eq_none.mp (by decide +kernel)
    simp only [SessionStore.load, load, content, refused]
  have none : ¬ ∃ name, store.Matches query name ∧ store.Readable name := by
    rintro ⟨name, ⟨names, listed, member, _⟩, session, loaded⟩
    obtain rfl := Except.ok.inj (listing.symm.trans listed)
    obtain rfl := List.mem_singleton.mp member
    cases loads.symm.trans loaded
  refine ⟨found, find_eq_error_iff.mpr (.inr ⟨path, found, loads⟩), none, fun findsReadable => ?_⟩
  exact none (findsReadable.1.mp (by rw [found]; rfl))

end ContractAtlas.DirectoryStore
