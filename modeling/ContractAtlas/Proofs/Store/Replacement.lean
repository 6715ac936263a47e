import ContractAtlas.Proofs.Store.Listing

/-!
# Documents that are replaced

A session whose key one listed directory encodes, and no other, is saved in that directory. If the
directory has a document, it is replaced as soon as the text can be written beside it
(`Replaceable`), and nothing else changes but what stood where the text was written
(`Rewrites`). Otherwise nothing changes at all.
-/

namespace ContractAtlas

open FileTree

/-! ## Trees with a document replaced -/

namespace FileTree

open DirectoryStore

variable {files : FileTree} {parent : Place} {text : String}

/-- Only the document and the place of the staged text change when a text is written beside a
document and moved over it. -/
theorem Rooted.entryAt?_moved (rooted : Rooted files) {staging place other : Place}
    (plain : files.entryAt? staging ≠ some .directory) (apart : other ≠ staging)
    (nonempty : other ≠ []) :
    FileTree.entryAt? (moved files staging place text) other =
      if place = other then some (.file text.toUTF8) else files.entryAt? other := by
  rw [moved, entryAt?_set, entryAt?_prune, entryAt?_set, if_neg nonempty, if_neg nonempty,
    if_neg nonempty, if_neg (Ne.symm apart)]
  by_cases document : place = other
  · rw [if_pos document, if_pos document]
  · rw [if_neg document, if_neg document]
    split
    · rename_i below
      obtain ⟨rest, rfl⟩ := below
      exact (rooted.entryAt?_below plain rest fun empty => apart (by simp [empty])).symm
    · rfl

/-- The staging file and the document have different places. -/
theorem staging_ne_document (parent : Place) :
    parent ++ [stagingName] ≠ parent ++ [documentName] := by
  have apart : stagingName ≠ documentName := by decide
  simp [apart]

/-- Every directory stays when a document is replaced. -/
theorem Rooted.keeps_moved (rooted : Rooted files)
    (plain : files.entryAt? (parent ++ [stagingName]) ≠ some .directory)
    (free : files.entryAt? (parent ++ [documentName]) ≠ some .directory) :
    KeepsDirectories files
      (moved files (parent ++ [stagingName]) (parent ++ [documentName]) text) where
  workingDirectory := rfl
  directories place directory := by
    by_cases root : place = []
    · simp [root]
    · have apart : place ≠ parent ++ [stagingName] := by
        rintro rfl
        exact plain directory
      have elsewhere : parent ++ [documentName] ≠ place := by
        rintro rfl
        exact free directory
      rw [rooted.entryAt?_moved plain apart root, if_neg elsewhere, directory]

/-- No directory is new when a document is replaced. -/
theorem Rooted.keeps_of_moved (rooted : Rooted files)
    (plain : files.entryAt? (parent ++ [stagingName]) ≠ some .directory) :
    KeepsDirectories (moved files (parent ++ [stagingName]) (parent ++ [documentName]) text)
      files where
  workingDirectory := rfl
  directories place directory := by
    by_cases root : place = []
    · simp [root]
    · by_cases staged : place = parent ++ [stagingName]
      · have nonempty : parent ++ [stagingName] ≠ [] := by simp
        rw [staged, moved, entryAt?_set, entryAt?_prune, if_neg nonempty, if_neg nonempty,
          if_neg (staging_ne_document parent).symm, if_pos List.prefix_rfl] at directory
        cases directory
      · rw [rooted.entryAt?_moved plain staged root] at directory
        split at directory
        · cases directory
        · exact directory

/-- Moving the staging file over the document keeps a tree well formed. -/
theorem WellFormed.moved (wellFormed : WellFormed files)
    (directory : files.entryAt? parent = some .directory)
    (plain : files.entryAt? (parent ++ [stagingName]) ≠ some .directory)
    (free : files.entryAt? (parent ++ [documentName]) ≠ some .directory) :
    WellFormed
      (DirectoryStore.moved files (parent ++ [stagingName]) (parent ++ [documentName]) text) := by
  have keeps : KeepsDirectories files
      ((files.set (parent ++ [stagingName]) (.file text.toUTF8)).prune (parent ++ [stagingName])) :=
    (KeepsDirectories.set _ plain).trans <| .prune fun below isBelow => by
      obtain ⟨rest, rfl⟩ := isBelow
      by_cases empty : rest = []
      · simp [entryAt?_set, empty]
      · rw [(wellFormed.rooted.set _ directory plain).entryAt?_below _ rest empty]
        · simp
        · simp [entryAt?_set]
  refine ((wellFormed.set _ directory isName_stagingName plain).prune _).set _
    (keeps.directories parent directory) isName_documentName ?_
  have nonempty : parent ++ [documentName] ≠ [] := by simp
  rw [entryAt?_prune, entryAt?_set, if_neg nonempty, if_neg nonempty,
    if_neg (staging_ne_document parent)]
  split
  · simp
  · exact free

end FileTree

namespace DirectoryStore

/-! ## Stores with a document replaced -/

/-- Whether a text can be written beside the document of a directory. -/
def Replaceable (store : DirectoryStore) (name : String) : Prop :=
  ∃ place, store.files.resolve ((store.directory.session name).join stagingName) = .ok place ∧
    store.files.entryAt? place ≠ some .directory

/-- Whether a store differs from a later one in files only. -/
structure SameDirectories (store later : DirectoryStore) : Prop where
  directory : later.directory = store.directory
  keyMatch : later.keyMatch = store.keyMatch
  wellFormed : later.files.WellFormed
  keeps : KeepsDirectories store.files later.files
  keepsBack : KeepsDirectories later.files store.files

/-- What is loaded depends on the bytes of the document only. -/
theorem load_eq_of_readBytes {store later : DirectoryStore} {path : Path}
    (same : later.files.readBytes path = store.files.readBytes path) :
    later.load path = store.load path := by
  rw [load, load, readText, readText, same]

/-- What the document of a directory becoming a text does to a store. -/
structure Rewrites (name text : String) (store later : DirectoryStore) : Prop
    extends SameDirectories store later where
  written : later.files.readText (store.documentPath name) = .ok text
  others : ∀ other, Path.IsName other → other ≠ name →
    SameFile store.files later.files (store.documentPath other)

variable {store later : DirectoryStore} {name text : String}

/-- A document that cannot be replaced is left as it is, with a fault. -/
theorem exists_fault_of_not_replaceable (blocked : ¬ store.Replaceable name) (text : String) :
    ∃ fault, replaceDocument store.files (store.directory.session name) text =
      (.error fault, store.files) := by
  rw [replaceDocument_eq]
  cases written :
      store.files.writeText ((store.directory.session name).join stagingName) text with
  | error fault => exact ⟨_, rfl⟩
  | ok staged =>
      obtain ⟨place, resolved, plain, _⟩ :=
        (writeText_eq_ok_iff (endsInSlash_staging _)).mp written
      exact absurd ⟨place, resolved, plain⟩ blocked

/-- A document and the text that is written beside it stand in one directory, whatever path leads
there. -/
theorem exists_parent_of_replaceDocument {files after : FileTree} {directory path : Path}
    (replaced : replaceDocument files directory text = (.ok path, after)) :
    path = directory.join documentName ∧ ∃ parent,
      files.walk (files.startOf directory) directory.components = .ok parent ∧
      files.entryAt? parent = some .directory ∧
      files.resolve (directory.join stagingName) = .ok (parent ++ [stagingName]) ∧
      files.resolve (directory.join documentName) = .ok (parent ++ [documentName]) ∧
      files.entryAt? (parent ++ [stagingName]) ≠ some .directory ∧
      files.entryAt? (parent ++ [documentName]) ≠ some .directory ∧
      after = moved files (parent ++ [stagingName]) (parent ++ [documentName]) text := by
  obtain ⟨rfl, staging, place, resolvedStaging, plain, resolved, freeStaged, rfl⟩ :=
    replaceDocument_eq_ok_iff.mp replaced
  obtain ⟨_, _, parent, walked, isDirectory, rfl⟩ :=
    (resolve_join_eq_ok_iff isName_stagingName).mp resolvedStaging
  -- The staged text replaces no directory, so the document has the same place with it as without.
  have resolvedDocument :
      files.resolve (directory.join documentName) = .ok (parent ++ [documentName]) :=
    (resolve_join_eq_ok_iff isName_documentName).mpr
      ⟨(resolve_eq_ok_iff.mp resolved).1, by decide, parent, walked, isDirectory, rfl⟩
  obtain rfl : parent ++ [documentName] = place := Except.ok.inj
    (((KeepsDirectories.set (.file text.toUTF8) plain).resolve_eq_ok resolvedDocument).symm.trans
      resolved)
  have nonempty : parent ++ [documentName] ≠ [] := by simp
  rw [entryAt?_set, if_neg nonempty, if_neg (staging_ne_document parent)] at freeStaged
  exact ⟨rfl, parent, walked, isDirectory, resolvedStaging, resolvedDocument, plain, freeStaged,
    rfl⟩

/-- A document is replaced just as well through another path to the same directory. -/
theorem replaceDocument_of_walk {files after : FileTree} {directory other path : Path}
    (replaced : replaceDocument files directory text = (.ok path, after))
    (leads : ∀ parent, files.walk (files.startOf directory) directory.components = .ok parent →
      files.walk (files.startOf other) other.components = .ok parent)
    (faults : ∀ file ∈ [stagingName, documentName],
      textFault? (directory.join file) = none → textFault? (other.join file) = none) :
    replaceDocument files other text = (.ok (other.join documentName), after) := by
  obtain ⟨_, parent, walked, isDirectory, resolvedStaging, resolved, plain, free, rfl⟩ :=
    exists_parent_of_replaceDocument replaced
  have resolves {file : String} (member : file ∈ [stagingName, documentName])
      (isName : Path.IsName file) (short : file.utf8ByteSize <= nameLimit)
      (resolved : files.resolve (directory.join file) = .ok (parent ++ [file])) :
      files.resolve (other.join file) = .ok (parent ++ [file]) :=
    (resolve_join_eq_ok_iff isName).mpr
      ⟨faults file member (resolve_eq_ok_iff.mp resolved).1, short, parent, leads parent walked,
        isDirectory, rfl⟩
  exact replaceDocument_eq_moved
    (resolves (by simp) isName_stagingName (by decide) resolvedStaging) plain
    (resolves (by simp) isName_documentName (by decide) resolved) free text

/-- Replacing a document keeps a tree well formed. -/
theorem wellFormed_of_replaceDocument {files after : FileTree} (wellFormed : files.WellFormed)
    {directory path : Path}
    (replaced : replaceDocument files directory text = (.ok path, after)) : after.WellFormed := by
  obtain ⟨_, parent, _, isDirectory, _, _, plain, free, rfl⟩ :=
    exists_parent_of_replaceDocument replaced
  exact wellFormed.moved isDirectory plain free

/-- A document is replaced by a text that is written beside it. -/
theorem rewrites_of_replaceDocument (wellFormed : store.files.WellFormed)
    (isName : Path.IsName name) {path : Path} {files : FileTree}
    (replaced : replaceDocument store.files (store.directory.session name) text =
      (.ok path, files)) :
    path = store.documentPath name ∧ Rewrites name text store { store with files } := by
  obtain ⟨rfl, parent, _, directory, _, resolved, plain, free, rfl⟩ :=
    exists_parent_of_replaceDocument replaced
  have rooted := wellFormed.rooted
  have keeps : KeepsDirectories store.files (moved store.files (parent ++ [stagingName])
      (parent ++ [documentName]) text) := rooted.keeps_moved plain free
  have keepsBack : KeepsDirectories (moved store.files (parent ++ [stagingName])
      (parent ++ [documentName]) text) store.files := rooted.keeps_of_moved plain
  refine ⟨rfl, ⟨rfl, rfl, wellFormed.moved directory plain free, keeps, keepsBack⟩, ?_, ?_⟩
  · refine readText_of_entry (store.endsInSlash_documentPath name)
      (keeps.resolve_eq_ok resolved) ?_
    rw [rooted.entryAt?_moved plain (staging_ne_document parent).symm (by simp), if_pos rfl]
  · intro other isNameOther apart
    refine .of_keeps keeps keepsBack (store.endsInSlash_documentPath other)
      fun place resolvedOther => ?_
    -- The document of another directory stands in another place.
    obtain ⟨sessions, resolvedSessions, _, rfl⟩ :=
      exists_place_of_resolve_documentPath isNameOther resolvedOther
    obtain ⟨sessionsToo, resolvedSessionsToo, _, same⟩ :=
      exists_place_of_resolve_documentPath isName resolved
    obtain rfl := Except.ok.inj (resolvedSessions.symm.trans resolvedSessionsToo)
    obtain rfl : parent = sessions ++ [name] := List.append_cancel_right same
    have staged : stagingName ≠ documentName := by decide
    rw [rooted.entryAt?_moved plain (by simp [staged.symm]) (by simp), if_neg]
    simp [Ne.symm apart]

/-- A document is replaced if a text can be written beside it. -/
theorem Replaceable.rewrites (replaceable : store.Replaceable name)
    (wellFormed : store.files.WellFormed) (isName : Path.IsName name)
    (isFile : store.files.isFile (store.documentPath name) = true) (text : String) :
    ∃ files, replaceDocument store.files (store.directory.session name) text =
        (.ok (store.documentPath name), files) ∧
      Rewrites name text store { store with files } := by
  obtain ⟨place, content, resolved, stands⟩ :=
    (isFile_eq_true_iff (store.endsInSlash_documentPath name)).mp isFile
  obtain ⟨staging, resolvedStaging, plain⟩ := replaceable
  have replaced := replaceDocument_eq_moved resolvedStaging plain resolved (by simp [stands]) text
  exact ⟨_, replaced, (rewrites_of_replaceDocument wellFormed isName replaced).2⟩

namespace SameDirectories

/-- A store has the directories that it has. -/
theorem refl (wellFormed : store.files.WellFormed) : store.SameDirectories store where
  directory := rfl
  keyMatch := rfl
  wellFormed := wellFormed
  keeps := ⟨rfl, fun _ => id⟩
  keepsBack := ⟨rfl, fun _ => id⟩

/-- What has the directories of a store twice over has them. -/
theorem trans {last : DirectoryStore} (first : store.SameDirectories later)
    (second : later.SameDirectories last) : store.SameDirectories last where
  directory := second.directory.trans first.directory
  keyMatch := second.keyMatch.trans first.keyMatch
  wellFormed := second.wellFormed
  keeps := first.keeps.trans second.keeps
  keepsBack := second.keepsBack.trans first.keepsBack

/-- Documents keep their paths. -/
theorem documentPath_eq (same : store.SameDirectories later) (other : String) :
    later.documentPath other = store.documentPath other := by
  rw [documentPath, documentPath, same.directory]

/-- Paths lead to the same places. -/
theorem resolve_eq_ok_iff (same : store.SameDirectories later) {path : Path} {place : Place} :
    later.files.resolve path = .ok place ↔ store.files.resolve path = .ok place :=
  ⟨same.keepsBack.resolve_eq_ok, same.keeps.resolve_eq_ok⟩

/-- Directories stand in the same places. -/
theorem directory_iff (same : store.SameDirectories later) {place : Place} :
    later.files.entryAt? place = some .directory ↔ store.files.entryAt? place = some .directory :=
  ⟨same.keepsBack.directories place, same.keeps.directories place⟩

/-- The same names are listed. -/
theorem lists_iff (same : store.SameDirectories later) (wellFormed : store.files.WellFormed)
    {other : String} : later.Lists other ↔ store.Lists other := by
  rw [DirectoryStore.lists_iff wellFormed, DirectoryStore.lists_iff same.wellFormed,
    same.directory]
  simp only [same.resolve_eq_ok_iff, same.directory_iff]

/-- The same documents can be replaced. -/
theorem replaceable_iff (same : store.SameDirectories later) {other : String} :
    later.Replaceable other ↔ store.Replaceable other := by
  rw [Replaceable, Replaceable, same.directory]
  simp only [same.resolve_eq_ok_iff, ne_eq, same.directory_iff]

end SameDirectories

namespace Rewrites

/-- When a document is rewritten, the same documents are files. -/
theorem isFile_eq (rewrites : Rewrites name text store later)
    (isFile : store.files.isFile (store.documentPath name) = true) {other : String}
    (isName : Path.IsName other) :
    later.files.isFile (store.documentPath other) =
      store.files.isFile (store.documentPath other) := by
  by_cases same : other = name
  · rw [same, isFile, isFile_of_readText rewrites.written]
  · exact (rewrites.others other isName same).isFile_eq (store.endsInSlash_documentPath other)

/-- A store has the same directories with a document. -/
theorem complete_eq (rewrites : Rewrites name text store later)
    (wellFormed : store.files.WellFormed) (isName : Path.IsName name)
    (isFile : store.files.isFile (store.documentPath name) = true) :
    DirectoryView.complete later = DirectoryView.complete store := by
  have lists := lists_of_isFile wellFormed isName isFile
  have listsLater := (rewrites.lists_iff wellFormed).mpr lists
  refine DirectoryStore.complete_eq wellFormed rewrites.wellFormed rewrites.directory ?_
    fun other => rewrites.isFile_eq isFile
  rw [lists.isFile_sessions, ← rewrites.directory, listsLater.isFile_sessions]

/-- The documents of other directories have the same content. -/
theorem readBytes_eq (rewrites : Rewrites name text store later) {other : String}
    (isName : Path.IsName other) (apart : other ≠ name)
    (isFile : store.files.isFile (store.documentPath other) = true) :
    later.files.readBytes (store.documentPath other) =
      store.files.readBytes (store.documentPath other) :=
  (rewrites.others other isName apart).readBytes_eq (store.endsInSlash_documentPath other) isFile

/-- When a document is rewritten, the others are loaded as before. -/
theorem load_eq (rewrites : Rewrites name text store later) {other : String}
    (isName : Path.IsName other) (apart : other ≠ name)
    (isFile : store.files.isFile (store.documentPath other) = true) :
    later.load (store.documentPath other) = store.load (store.documentPath other) :=
  load_eq_of_readBytes (rewrites.readBytes_eq isName apart isFile)

end Rewrites

/-! ## Sessions saved in place -/

/-- Whether a directory is listed, has a document, and is the only one listed that encodes a key. -/
structure HoldsAlone (store : DirectoryStore) (key : SessionKey) (name : String) : Prop where
  isName : Path.IsName name
  isFile : store.files.isFile (store.documentPath name) = true
  encoded : key.EncodedBy name
  alone : ∀ other, store.Lists other → key.EncodedBy other → other = name

namespace HoldsAlone

variable {key : SessionKey}

/-- A key goes to the directory that holds it alone. -/
theorem directoryFor_eq (holds : store.HoldsAlone key name) (wellFormed : store.files.WellFormed)
    (supported : Network.isSupported key.network = true) (contractName : String) :
    store.directoryFor key contractName = .ok name := by
  obtain ⟨names, listing, member⟩ := lists_of_isFile wellFormed holds.isName holds.isFile
  rw [directoryFor, listing, Except.map]
  cases found : names.find? (KeyMatch.exact.accepts key.display) with
  | none =>
      exact absurd ((KeyMatch.accepts_exact_display supported).mpr holds.encoded)
        (List.find?_eq_none.mp found name member)
  | some other =>
      have encoded := (KeyMatch.accepts_exact_display supported).mp (List.find?_some found)
      have listed : store.Lists other := ⟨names, listing, List.mem_of_find?_eq_some found⟩
      exact congrArg Except.ok (holds.alone other listed encoded)

/-- A directory that is there is not made again. -/
theorem ensureDirectory_eq (holds : store.HoldsAlone key name) :
    store.ensureDirectory name = (.ok (store.directory.session name), store) := by
  obtain ⟨place, content, resolved, _⟩ :=
    (isFile_eq_true_iff (store.endsInSlash_documentPath name)).mp holds.isFile
  obtain ⟨parent, resolvedParent, directory, _⟩ := exists_parent_of_resolve_join
    (isOpen_session store.directory holds.isName) isName_documentName resolved
  rw [DirectoryStore.ensureDirectory, ensureDirectory_of_directory
    (isOpen_session store.directory holds.isName).noSlash resolvedParent directory]

/-- A directory stays alone while there are the same directories and it has a document. -/
theorem of_sameDirectories (holds : store.HoldsAlone key name) (wellFormed : store.files.WellFormed)
    {later : DirectoryStore} (same : store.SameDirectories later)
    (isFile : later.files.isFile (later.documentPath name) = true) :
    later.HoldsAlone key name where
  isName := holds.isName
  isFile := isFile
  encoded := holds.encoded
  alone other lists := holds.alone other ((same.lists_iff wellFormed).mp lists)

/-- A session of the key is saved in its directory, in place of the document, or not at all. -/
theorem save_cases (holds : store.HoldsAlone key name) (wellFormed : store.files.WellFormed)
    (supported : Network.isSupported key.network = true) {session : Session}
    (keyed : session.key = .ok key) :
    (store.Replaceable name ∧ ∃ later, store.save session = (.ok (store.documentPath name), later) ∧
        Rewrites name session.write store later) ∨
      ¬ store.Replaceable name ∧ ∃ fault, store.save session = (.error fault, store) := by
  rw [save, keyed]
  simp only [holds.directoryFor_eq wellFormed supported, holds.ensureDirectory_eq]
  by_cases replaceable : store.Replaceable name
  · obtain ⟨files, replaced, rewrites⟩ :=
      replaceable.rewrites wellFormed holds.isName holds.isFile session.write
    exact .inl ⟨replaceable, { store with files }, by rw [replaced], rewrites⟩
  · obtain ⟨fault, failed⟩ := exists_fault_of_not_replaceable replaceable session.write
    exact .inr ⟨replaceable, fault, by rw [failed]⟩

end HoldsAlone

end DirectoryStore

end ContractAtlas
