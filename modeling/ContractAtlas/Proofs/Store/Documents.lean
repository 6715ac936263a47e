import ContractAtlas.Proofs.Store.Agreement
import ContractAtlas.Proofs.Store.Replacement

/-!
# Stores with given documents

A store is laid out by the texts of its documents, each under the name of its directory. What it
lists and loads is read off the table, whatever the texts are.
-/

namespace ContractAtlas

open FileTree

namespace DirectoryStore

/-- The files of a store with given documents. -/
def documentFiles : List (String × String) → FileTree
  | [] => { entries := [(["sessions"], .directory)] }
  | (name, text) :: later =>
      ((documentFiles later).set ["sessions", name] .directory).set
        ["sessions", name, documentName] (.file text.toUTF8)

/-- The store with given documents, in the data directory at the root of a file tree. -/
def ofDocuments (keyMatch : KeyMatch) (documents : List (String × String)) : DirectoryStore :=
  { atRoot keyMatch with files := documentFiles documents }

variable {documents : List (String × String)} {keyMatch : KeyMatch} {name text : String}

/-- The place of the sessions is a directory. -/
theorem entryAt?_sessions (documents : List (String × String)) :
    FileTree.entryAt? (documentFiles documents) ["sessions"] = some .directory := by
  induction documents with
  | nil => rfl
  | cons document later inductionHypothesis => simpa [documentFiles, entryAt?_set]

/-- The directories there are those of the documents. -/
theorem entryAt?_session (documents : List (String × String)) (name : String) :
    FileTree.entryAt? (documentFiles documents) ["sessions", name] =
      if name ∈ documents.map Prod.fst then some .directory else none := by
  induction documents with
  | nil => simp [documentFiles, entryAt?]
  | cons document later inductionHypothesis =>
      rw [documentFiles, entryAt?_set, entryAt?_set, inductionHypothesis, List.map_cons]
      by_cases same : document.1 = name
      · simp [same]
      · simp only [List.mem_cons, Ne.symm same, false_or]
        simp [same]

/-- Each of them has its document in it and nothing else. -/
theorem entryAt?_within (documents : List (String × String)) (name part : String) :
    FileTree.entryAt? (documentFiles documents) ["sessions", name, part] =
      if part = documentName then (documents.lookup name).map fun text => .file text.toUTF8
      else none := by
  induction documents with
  | nil => simp [documentFiles, entryAt?]
  | cons document later inductionHypothesis =>
      rw [documentFiles, entryAt?_set, entryAt?_set, inductionHypothesis, List.lookup_cons]
      by_cases same : document.1 = name <;> by_cases isDocument : part = documentName
      · simp [same, isDocument]
      · simp [isDocument, Ne.symm isDocument]
      · simp [isDocument, same, beq_false_of_ne (Ne.symm same)]
      · simp [isDocument, same, Ne.symm isDocument]

/-- Documents in directories of different names make a well formed tree. -/
theorem wellFormed_documentFiles (distinct : (documents.map Prod.fst).Nodup)
    (named : ∀ name ∈ documents.map Prod.fst, Path.IsName name) :
    (documentFiles documents).WellFormed := by
  induction documents with
  | nil => exact .of_entries (by decide) (by decide) (by decide)
  | cons document later inductionHypothesis =>
      obtain ⟨new, distinctLater⟩ := List.nodup_cons.mp distinct
      obtain ⟨isName, namedLater⟩ := List.forall_mem_cons.mp named
      have above := inductionHypothesis distinctLater namedLater
      have made : WellFormed ((documentFiles later).set ["sessions", document.1] .directory) :=
        above.set .directory (entryAt?_sessions later) isName (by simp [entryAt?_session, new])
      refine @WellFormed.set _ made ["sessions", document.1] _ _ ?_ isName_documentName ?_
      · simp [entryAt?_set]
      · simp [entryAt?_set, entryAt?_within]

/-- The sessions are kept below the root. -/
theorem sessions_ofDocuments (keyMatch : KeyMatch) (documents : List (String × String)) :
    (ofDocuments keyMatch documents).directory.sessions = ⟨"/sessions"⟩ :=
  sessions_root

/-- The path of the sessions leads to their place. -/
theorem resolve_sessions (keyMatch : KeyMatch) (documents : List (String × String)) :
    (ofDocuments keyMatch documents).files.resolve
      (ofDocuments keyMatch documents).directory.sessions = .ok ["sessions"] :=
  resolve_sessions_root _

/-- A short part of a directory stands in the directory. -/
theorem resolve_within (isDirectoryName : IsDirectoryName name)
    (listed : name ∈ documents.map Prod.fst) {part : String} (isPart : IsDirectoryName part) :
    (ofDocuments keyMatch documents).files.resolve
      (((ofDocuments keyMatch documents).directory.session name).join part) =
        .ok ["sessions", name, part] := by
  have isOpen := isOpen_sessions (ofDocuments keyMatch documents).directory
  obtain ⟨isName, short⟩ := isDirectoryName
  obtain ⟨isNamePart, shortPart⟩ := isPart
  have size : Path.text (ofDocuments keyMatch documents).directory.sessions = "/sessions" := by
    rw [sessions_ofDocuments]
  have bytes : "/sessions".utf8ByteSize = 9 := rfl
  have slash : "/".utf8ByteSize = 1 := rfl
  have limit : nameLimit = 255 := rfl
  have pathLimit : FileTree.pathLimit = 4096 := rfl
  have plain : '\x00' ∉ "/sessions".toList := by decide
  have text : Path.text ((ofDocuments keyMatch documents).directory.session name) =
      "/sessions" ++ "/" ++ name := by
    rw [DataDirectory.session, Path.join_eq isOpen isName.noSlash, size]
  have resolved : (ofDocuments keyMatch documents).files.resolve
      ((ofDocuments keyMatch documents).directory.session name) = .ok ["sessions", name] :=
    resolve_join (resolve_sessions keyMatch documents) (entryAt?_sessions documents) isName short
      (textFault?_join isOpen isName (size ▸ plain) (by rw [size, bytes]; omega))
  have directory :
      FileTree.entryAt? (documentFiles documents) ["sessions", name] = some .directory := by
    rw [entryAt?_session, if_pos listed]
  refine resolve_join resolved directory isNamePart shortPart
    (textFault?_join (isOpen_session _ isName) isNamePart ?_ ?_)
  · rw [text]
    simp [isName.noNul]
  · rw [text, String.utf8ByteSize_append, String.utf8ByteSize_append, bytes, slash]
    omega

/-- A directory can be called what a document is called. -/
theorem isDirectoryName_documentName : IsDirectoryName documentName :=
  ⟨isName_documentName, by decide⟩

/-- Every directory has the document that was given. -/
theorem readText_ofDocuments (isDirectoryName : IsDirectoryName name)
    (given : documents.lookup name = some text) :
    (ofDocuments keyMatch documents).files.readText
      ((ofDocuments keyMatch documents).documentPath name) = .ok text := by
  have listed : name ∈ documents.map Prod.fst := by
    obtain ⟨before, later, rfl, _⟩ := List.lookup_eq_some_iff.mp given
    simp
  refine readText_of_entry (endsInSlash_documentPath _ name)
    (resolve_within isDirectoryName listed isDirectoryName_documentName) ?_
  change FileTree.entryAt? (documentFiles documents) _ = _
  rw [entryAt?_within, if_pos rfl, given, Option.map_some]

/-- The text of a document that can be read is loaded as its session. -/
theorem load_ofDocuments (isDirectoryName : IsDirectoryName name)
    (given : documents.lookup name = some text) {session : Session}
    (readable : Session.read? text = some session) :
    (ofDocuments keyMatch documents).load ((ofDocuments keyMatch documents).documentPath name) =
      .ok session := by
  simp only [load, readText_ofDocuments isDirectoryName given, readable]

/-- What is loaded has been read from the given text. -/
theorem read?_of_load_ofDocuments (isDirectoryName : IsDirectoryName name)
    (given : documents.lookup name = some text) {session : Session}
    (loads : (ofDocuments keyMatch documents).load
      ((ofDocuments keyMatch documents).documentPath name) = .ok session) :
    Session.read? text = some session := by
  simp only [load, readText_ofDocuments isDirectoryName given] at loads
  split at loads
  · rename_i readable
    rw [readable, Except.ok.inj loads]
  · cases loads

/-- Each of the documents can be replaced. -/
theorem replaceable_ofDocuments (isDirectoryName : IsDirectoryName name)
    (listed : name ∈ documents.map Prod.fst) :
    (ofDocuments keyMatch documents).Replaceable name := by
  refine ⟨_, resolve_within isDirectoryName listed ⟨isName_stagingName, by decide⟩, ?_⟩
  change FileTree.entryAt? (documentFiles documents) _ ≠ _
  rw [entryAt?_within, if_neg (by decide)]
  simp

/-- The directories are those that were given. -/
theorem directoryNames_ofDocuments (sorted : (documents.map Prod.fst).Pairwise (· < ·))
    (named : ∀ name ∈ documents.map Prod.fst, Path.IsName name) :
    (ofDocuments keyMatch documents).directoryNames = .ok (documents.map Prod.fst) := by
  have wellFormed : (ofDocuments keyMatch documents).files.WellFormed :=
    wellFormed_documentFiles sorted.nodup named
  have plain : (ofDocuments keyMatch documents).files.isFile
      (ofDocuments keyMatch documents).directory.sessions = false := by
    have noSlash := (isOpen_sessions (ofDocuments keyMatch documents).directory).noSlash
    have status := (status_eq_ok_iff noSlash).mpr
      ⟨resolve_sessions keyMatch documents, entryAt?_sessions documents⟩
    rw [isFile, status]
  obtain ⟨names, listing, ordered, member⟩ := exists_directoryNames wellFormed plain
  rw [listing]
  refine congrArg Except.ok (Json.SortedFields.names_eq_of_mem_iff ordered sorted fun name => ?_)
  rw [member, resolve_sessions]
  simp only [Except.ok.injEq, exists_eq_left']
  change FileTree.entryAt? (documentFiles documents) ["sessions", name] = _ ↔ _
  rw [entryAt?_session]
  simp

/-- The complete directories are those of the documents, in the order of their names. -/
theorem complete_ofDocuments (sorted : (documents.map Prod.fst).Pairwise (· < ·))
    (named : ∀ name ∈ documents.map Prod.fst, IsDirectoryName name) :
    DirectoryView.complete (ofDocuments keyMatch documents) = .ok (documents.map fun document =>
      (document.1, (ofDocuments keyMatch documents).documentPath document.1)) := by
  have listing : (ofDocuments keyMatch documents).directoryNames = .ok (documents.map Prod.fst) :=
    directoryNames_ofDocuments sorted fun name listed => (named name listed).isName
  rw [complete_of_directoryNames listing, List.filter_eq_self.mpr, List.map_map]
  · rfl
  · intro name listed
    obtain ⟨document, member, rfl⟩ := List.mem_map.mp listed
    obtain ⟨text, given⟩ := Option.isSome_iff_exists.mp
      (List.lookup_isSome_iff.mpr ⟨document, member, beq_self_eq_true _⟩)
    exact isFile_of_readText (readText_ofDocuments (named _ listed) given)

/-- A query finds the first directory that it matches. -/
theorem lookup?_ofDocuments (sorted : (documents.map Prod.fst).Pairwise (· < ·))
    (named : ∀ name ∈ documents.map Prod.fst, IsDirectoryName name) (query : String) :
    SessionStore.lookup? (ofDocuments keyMatch documents) query =
      ((documents.map Prod.fst).find? (keyMatch.accepts query)).map
        (ofDocuments keyMatch documents).documentPath := by
  have mode : DirectoryView.keyMatch (ofDocuments keyMatch documents) = keyMatch := rfl
  rw [DirectoryView.lookup?_eq, complete_ofDocuments sorted named, mode]
  simp only [List.find?_map, Option.map_map]
  rfl

end DirectoryStore

end ContractAtlas
