import ContractAtlas.Proofs.Files.Tree
import ContractAtlas.Store.Directory

/-!
# Documents in a data directory

A document is written beside its place and then moved there. Both steps leave every directory where
it is, so whatever path led to the document leads to it afterwards, and the document has the text
that was written.
-/

namespace ContractAtlas

namespace DirectoryStore

open FileTree

/-- The name under which a document is written before it is moved to its place. -/
def stagingName : String := documentName ++ ".tmp"

/-- The document has a name that a file can have. -/
theorem isName_documentName : Path.IsName documentName :=
  ⟨by decide, by decide, by decide, by decide, by decide⟩

/-- The staging file has a name that a file can have. -/
theorem isName_stagingName : Path.IsName stagingName :=
  ⟨by decide, by decide, by decide, by decide, by decide⟩

/-- The path of a document beside a directory does not end in a slash. -/
theorem endsInSlash_document (directory : Path) :
    (directory.join documentName).endsInSlash = false :=
  (Path.isOpen_join directory isName_documentName.nonempty isName_documentName.noSlash).noSlash

/-- The path of a document does not end in a slash. -/
theorem endsInSlash_documentPath (store : DirectoryStore) (name : String) :
    (store.documentPath name).endsInSlash = false :=
  endsInSlash_document _

/-- The path of a staging file does not end in a slash. -/
theorem endsInSlash_staging (directory : Path) :
    (directory.join stagingName).endsInSlash = false :=
  (Path.isOpen_join directory isName_stagingName.nonempty isName_stagingName.noSlash).noSlash

/-- A tree after a text has been written at one place and moved to another. -/
def moved (files : FileTree) (staging place : Place) (text : String) : FileTree :=
  ((files.set staging (.file text.toUTF8)).prune staging).set place (.file text.toUTF8)

section

variable {files : FileTree} {staging place : Place} {text : String}

/-- Only the document changes where nothing stood at the place of the staged text and below. -/
theorem entryAt?_moved (plain : ∀ below, staging <+: below → files.entryAt? below = none)
    (other : Place) (nonempty : other ≠ []) :
    FileTree.entryAt? (moved files staging place text) other =
      if place = other then some (.file text.toUTF8) else files.entryAt? other := by
  rw [moved, entryAt?_set, entryAt?_prune, entryAt?_set, if_neg nonempty, if_neg nonempty,
    if_neg nonempty]
  by_cases document : place = other
  · rw [if_pos document, if_pos document]
  by_cases below : staging <+: other
  · rw [if_neg document, if_neg document, if_pos below, plain other below]
  · have apart : staging ≠ other := by
      rintro rfl
      exact below List.prefix_rfl
    rw [if_neg document, if_neg document, if_neg below, if_neg apart]

/-- A text that has been written at a place is moved from there. -/
theorem moveFile_staged_eq_ok_iff {source target : Path} {after : FileTree}
    (sourceNoSlash : source.endsInSlash = false) (noSlash : target.endsInSlash = false)
    (resolved : files.resolve source = .ok staging)
    (plain : files.entryAt? staging ≠ some .directory) :
    (files.set staging (.file text.toUTF8)).moveFile source target = .ok after ↔ ∃ place,
      (files.set staging (.file text.toUTF8)).resolve target = .ok place ∧
      FileTree.entryAt? (files.set staging (.file text.toUTF8)) place ≠ some .directory ∧
      after = moved files staging place text := by
  have nonempty := ne_nil_of_not_directory plain
  -- The staged text replaces no directory, so its own path still leads to it.
  have still := (KeepsDirectories.set (.file text.toUTF8) plain).resolve_eq_ok resolved
  have written : FileTree.entryAt? (files.set staging (.file text.toUTF8)) staging =
      some (.file text.toUTF8) := by
    rw [entryAt?_set, if_neg nonempty, if_pos rfl]
  rw [moveFile_eq_ok_iff sourceNoSlash noSlash]
  constructor
  · rintro ⟨sourcePlace, content, place, resolvedToo, stands, resolvedTarget, free, rfl⟩
    obtain rfl : staging = sourcePlace := Except.ok.inj (still.symm.trans resolvedToo)
    obtain rfl : text.toUTF8 = content := by
      rw [written] at stands
      exact Entry.file.inj (Option.some.inj stands)
    exact ⟨place, resolvedTarget, free, rfl⟩
  · rintro ⟨place, resolvedTarget, free, rfl⟩
    exact ⟨staging, _, place, still, written, resolvedTarget, free, rfl⟩

/-- A document is replaced by writing the staging file and moving it over the document. -/
theorem replaceDocument_eq (directory : Path) : replaceDocument files directory text =
    match files.writeText (directory.join stagingName) text with
    | .error cause => (.error (.file cause), files)
    | .ok staged =>
        match staged.moveFile (directory.join stagingName) (directory.join documentName) with
        | .error cause => (.error (.file cause), staged)
        | .ok moved => (.ok (directory.join documentName), moved) := rfl

/-- Where a text is written, and where it is moved, decides how the document is replaced. -/
theorem replaceDocument_eq_ok_iff {directory document : Path} {after : FileTree} :
    replaceDocument files directory text = (.ok document, after) ↔
      document = directory.join documentName ∧ ∃ staging place,
        files.resolve (directory.join stagingName) = .ok staging ∧
        files.entryAt? staging ≠ some .directory ∧
        (files.set staging (.file text.toUTF8)).resolve (directory.join documentName) =
          .ok place ∧
        FileTree.entryAt? (files.set staging (.file text.toUTF8)) place ≠ some .directory ∧
        after = moved files staging place text := by
  have writes (staged : FileTree) :
      files.writeText (directory.join stagingName) text = .ok staged ↔ _ :=
    writeText_eq_ok_iff (endsInSlash_staging directory)
  rw [replaceDocument_eq]
  cases written : files.writeText (directory.join stagingName) text with
  | error fault =>
      constructor
      · intro impossible
        cases impossible
      · rintro ⟨_, staging, _, resolved, plain, _⟩
        have impossible := (writes _).mpr ⟨staging, resolved, plain, rfl⟩
        cases written.symm.trans impossible
  | ok staged =>
      obtain ⟨staging, resolved, plain, rfl⟩ := (writes _).mp written
      have moves (result : FileTree) : (files.set staging (.file text.toUTF8)).moveFile
          (directory.join stagingName) (directory.join documentName) = .ok result ↔ _ :=
        moveFile_staged_eq_ok_iff (endsInSlash_staging directory) (endsInSlash_document directory)
          resolved plain
      have unique {other : Place} (resolvedToo : files.resolve (directory.join stagingName) =
          .ok other) : staging = other := Except.ok.inj (resolved.symm.trans resolvedToo)
      constructor
      · intro replaced
        cases movedTo : (files.set staging (.file text.toUTF8)).moveFile
            (directory.join stagingName) (directory.join documentName) with
        | error fault =>
            simp only [movedTo] at replaced
            cases replaced
        | ok result =>
            simp only [movedTo] at replaced
            cases replaced
            obtain ⟨place, resolvedTarget, free, rfl⟩ := (moves _).mp movedTo
            exact ⟨rfl, staging, place, resolved, plain, resolvedTarget, free, rfl⟩
      · rintro ⟨rfl, other, place, resolvedToo, _, resolvedTarget, free, rfl⟩
        obtain rfl := unique resolvedToo
        simp only [(moves _).mpr ⟨place, resolvedTarget, free, rfl⟩]

/-- A document is replaced where neither it nor the staged text would replace a directory. -/
theorem replaceDocument_eq_moved {directory : Path}
    (resolvedStaging : files.resolve (directory.join stagingName) = .ok staging)
    (plain : files.entryAt? staging ≠ some .directory)
    (resolved : files.resolve (directory.join documentName) = .ok place)
    (free : files.entryAt? place ≠ some .directory) (text : String) :
    replaceDocument files directory text =
      (.ok (directory.join documentName), moved files staging place text) :=
  replaceDocument_eq_ok_iff.mpr ⟨rfl, staging, place, resolvedStaging, plain,
    (KeepsDirectories.set (.file text.toUTF8) plain).resolve_eq_ok resolved,
    entryAt?_set_file_ne_directory staging text.toUTF8 free, rfl⟩

/-- A path leads to the same place as before when a document has been replaced. -/
theorem keepsDirectories_moved
    (plain : ∀ below, staging <+: below → files.entryAt? below ≠ some .directory)
    (free : FileTree.entryAt? (files.set staging (.file text.toUTF8)) place ≠ some .directory) :
    KeepsDirectories (files.set staging (.file text.toUTF8)) (moved files staging place text) := by
  refine (KeepsDirectories.prune fun below isBelow =>
    entryAt?_set_file_ne_directory staging text.toUTF8 (plain below isBelow)).trans (.set _ ?_)
  rw [entryAt?_prune, if_neg (ne_nil_of_not_directory free)]
  split
  · simp
  · exact free

/-- A document that has been replaced has the text that was written. -/
theorem readText_moved {directory : Path}
    (plain : ∀ below, staging <+: below → files.entryAt? below ≠ some .directory)
    (resolved : (files.set staging (.file text.toUTF8)).resolve (directory.join documentName) =
      .ok place)
    (free : FileTree.entryAt? (files.set staging (.file text.toUTF8)) place ≠ some .directory) :
    (moved files staging place text).readText (directory.join documentName) = .ok text := by
  have nonempty := ne_nil_of_not_directory free
  refine readText_of_entry (endsInSlash_document directory)
    ((keepsDirectories_moved plain free).resolve_eq_ok resolved) ?_
  rw [moved, entryAt?_set, if_neg nonempty, if_pos rfl]

end

/-- A session that has been saved went through all steps: it has a key, the directory for the key
has been made, and the document there has been replaced. -/
theorem exists_of_save {store later : DirectoryStore} {session : Session} {path : Path}
    (saved : store.save session = (.ok path, later)) :
    ∃ key name made files, session.key = .ok key ∧
      store.directoryFor key session.contractName = .ok name ∧
      store.ensureDirectory name = (.ok (store.directory.session name), made) ∧
      replaceDocument made.files (store.directory.session name) session.write =
        (.ok path, files) ∧
      later = { made with files } := by
  unfold save at saved
  split at saved
  · cases saved
  · rename_i key keyed
    split at saved
    · cases saved
    · rename_i name picked
      split at saved
      · cases saved
      · rename_i directory made ensured
        obtain rfl : store.directory.session name = directory := by
          have answer := congrArg Prod.fst ensured
          simp only [ensureDirectory] at answer
          split at answer <;> cases answer
          rfl
        obtain ⟨replaced, rfl⟩ := Prod.mk.inj saved
        exact ⟨key, name, made, _, keyed, picked, ensured, Prod.ext replaced rfl, rfl⟩

/-- The steps of a save, one after the other. -/
theorem save_of_steps {store made : DirectoryStore} {session : Session} {key : SessionKey}
    {name : String} {path : Path} {files : FileTree} (keyed : session.key = .ok key)
    (picked : store.directoryFor key session.contractName = .ok name)
    (ensured : store.ensureDirectory name = (.ok (store.directory.session name), made))
    (replaced : replaceDocument made.files (store.directory.session name) session.write =
      (.ok path, files)) :
    store.save session = (.ok path, { made with files }) := by
  rw [save, keyed]
  simp only [picked, ensured, replaced]

/-- What has been saved is the text of the session. -/
theorem readText_of_save {store later : DirectoryStore} (rooted : store.files.Rooted)
    {session : Session} {path : Path} (saved : store.save session = (.ok path, later)) :
    later.files.readText path = .ok session.write := by
  obtain ⟨key, name, made, files, _, _, ensured, replaced, rfl⟩ := exists_of_save saved
  have rootedToo : made.files.Rooted := by
    have files := congrArg (fun result => result.2.files) ensured
    exact files ▸ rooted.ensureDirectory (store.directory.session name)
  obtain ⟨rfl, staging, place, resolved, plain, resolvedTarget, free, rfl⟩ :=
    replaceDocument_eq_ok_iff.mp replaced
  refine readText_moved (fun below isBelow => ?_) resolvedTarget free
  obtain ⟨rest, rfl⟩ := isBelow
  by_cases empty : rest = []
  · rwa [empty, List.append_nil]
  · rw [rootedToo.entryAt?_below plain rest empty]
    simp

/-! ## Data directories at the root -/

/-- Below the root the sessions have a path of one component. -/
theorem sessions_root : DataDirectory.sessions ⟨⟨"/"⟩⟩ = ⟨"/sessions"⟩ := by
  change Path.join ⟨"/"⟩ "sessions" = _
  decide

/-- Whatever stands there, the path of the sessions below the root leads to one place. -/
theorem resolve_sessions_root (files : FileTree) :
    files.resolve (DataDirectory.sessions ⟨⟨"/"⟩⟩) = .ok ["sessions"] := by
  rw [sessions_root]
  exact files.resolve_of_component "sessions" (by decide) (by decide) (by decide) (by decide)

end DirectoryStore

end ContractAtlas
