import ContractAtlas.Proofs.Json.SortedFields
import ContractAtlas.Proofs.Store.DirectoryName
import ContractAtlas.Proofs.Store.Document
import ContractAtlas.Proofs.Store.Memory

/-!
# The data directory as a picture of memory

A store in a data directory mirrors one in memory while its file tree has exactly the directories
and documents that the table in memory describes. A new directory and a replaced document each act
on the tree as setting one name acts on the table, so `ensureDirectory` and `save` keep the picture.
A name of more than 255 bytes is refused on disk, and the tree stays as it is. The room that the
picture demands is what keeps every path in it below the length that the file system takes.
-/

namespace ContractAtlas

open Json.SortedFields

/-- The session of a directory, if it has one. -/
def MemoryStore.session? (store : MemoryStore) (name : String) : Option Session :=
  (find? name store.directories).join

/-- What stands below the directory that holds the directories of a store. -/
def MemoryStore.entryAt? (store : MemoryStore) : List String → Option Entry
  | [] => some .directory
  | [name] => (find? name store.directories).map fun _ => .directory
  | [name, file] =>
      if file = documentName then
        (store.session? name).map fun session => .file session.write.toUTF8
      else none
  | _ => none

namespace MemoryStore

/-- The store with the content of a directory set. -/
def put (store : MemoryStore) (name : String) (held : Option Session) : MemoryStore :=
  { store with directories := insert name held store.directories }

/-- Putting a session into a directory changes what that directory holds and no other. -/
theorem session?_put (store : MemoryStore) (name other : String) (held : Option Session) :
    (store.put name held).session? other = if name = other then held else store.session? other := by
  rw [session?, put, find?_insert]
  split <;> rfl

/-- A directory that is missing holds no session. -/
theorem session?_eq_none {store : MemoryStore} {name : String}
    (missing : name ∉ names store.directories) : store.session? name = none := by
  rw [session?, find?_eq_none_iff.mpr missing]
  rfl

/-- A directory that holds a session is listed. -/
theorem mem_names_of_session? {store : MemoryStore} {name : String} {session : Session}
    (held : store.session? name = some session) : name ∈ names store.directories := by
  by_contra missing
  rw [session?_eq_none missing] at held
  cases held

/-- A new directory is all that a directory without a document adds. -/
theorem entryAt?_put_none {store : MemoryStore} {name : String}
    (new : name ∉ names store.directories) (rest : List String) :
    MemoryStore.entryAt? (store.put name none) rest =
      if rest = [name] then some .directory else store.entryAt? rest := by
  match rest with
  | [] => rfl
  | [other] =>
      rw [entryAt?, put, find?_insert, entryAt?]
      by_cases same : name = other
      · simp [same]
      · simp [same, Ne.symm same]
  | [other, file] =>
      rw [entryAt?, session?_put, entryAt?]
      by_cases same : name = other
      · simp [← same, session?_eq_none new]
      · simp [same]
  | _ :: _ :: _ :: _ => simp [entryAt?]

/-- A document is all that a session adds to a directory. -/
theorem entryAt?_put_some {store : MemoryStore} {name : String}
    (listed : name ∈ names store.directories) (session : Session) (rest : List String) :
    MemoryStore.entryAt? (store.put name (some session)) rest =
      if rest = [name, documentName] then some (.file session.write.toUTF8)
      else store.entryAt? rest := by
  match rest with
  | [] => rfl
  | [other] =>
      rw [entryAt?, put, find?_insert, entryAt?]
      by_cases same : name = other
      · obtain ⟨held, found⟩ := Option.isSome_iff_exists.mp (mem_names_iff.mp listed)
        simp [← same, found]
      · simp [same]
  | [other, file] =>
      rw [entryAt?, session?_put, entryAt?]
      by_cases same : name = other
      · by_cases document : file = documentName <;> simp [same, document]
      · simp [same, Ne.symm same]
  | _ :: _ :: _ :: _ => simp [entryAt?]

/-- A session in a directory that is there changes no names. -/
theorem names_put {store : MemoryStore} (sorted : Sorted store.directories) {name : String}
    (listed : name ∈ names store.directories) (held : Option Session) :
    names (store.put name held).directories = names store.directories := by
  refine names_eq_of_mem_iff (sorted.insert name held) sorted fun other => ?_
  rw [put, mem_names_insert]
  exact or_iff_right_of_imp fun same => same ▸ listed

end MemoryStore

namespace FileTree

/-- The names of the directories in a directory, in no particular order. -/
def childDirectories (tree : FileTree) (place : Place) : List String :=
  (tree.children place).filterMap fun child =>
    match child.2 with
    | .directory => some child.1
    | .file _ => none

/-- The directories of a listing whose names are texts are the child directories: a name that is no
text adds nothing. -/
theorem filterMap_listing (tree : FileTree) (place : Place) :
    ((tree.listing place).filter fun child => child.2.isDirectory).filterMap
      (fun child => String.fromUTF8? child.1) = tree.childDirectories place := by
  have unreadable (items : List (Place × RawName × Entry)) :
      ((items.map fun item => (item.2.1.bytes, item.2.2)).filter fun child =>
        child.2.isDirectory).filterMap (fun child => String.fromUTF8? child.1) = [] := by
    rw [List.filterMap_eq_nil_iff]
    intro child member
    obtain ⟨item, _, rfl⟩ := List.mem_map.mp (List.mem_of_mem_filter member)
    exact item.2.1.notText
  rw [listing, List.filter_append, List.filterMap_append, unreadable, List.append_nil,
    List.filterMap_filter, List.filterMap_map, childDirectories]
  refine List.filterMap_congr fun child _ => ?_
  cases entry : child.2 with
  | directory => simp only [Function.comp_apply, entry, Entry.isDirectory, if_true,
      fromUTF8?_toUTF8]
  | file _ => simp [entry, Entry.isDirectory]

/-- A directory is listed as the sorted names of its child directories. -/
theorem directoryNames_eq {tree : FileTree} {path : Path} {place : Place}
    (noSlash : path.endsInSlash = false) (resolved : tree.resolve path = .ok place)
    (directory : tree.entryAt? place = some .directory) {names : List String}
    (sorted : names.Pairwise (· < ·)) (same : (tree.childDirectories place).Perm names) :
    tree.directoryNames path = .ok names := by
  have status := (status_eq_ok_iff noSlash).mpr ⟨resolved, directory⟩
  have ordered : (tree.childDirectories place).mergeSort (fun left right => left <= right) =
      names := by
    refine ((List.mergeSort_perm _ _).trans same).eq_of_pairwise
      (fun _ _ _ _ => le_antisymm) ?_ (sorted.imp le_of_lt)
    simpa using @List.pairwise_mergeSort String (fun left right => decide (left <= right))
      (by simpa using fun _ _ _ => le_trans) (by simpa using le_total) (tree.childDirectories place)
  rw [directoryNames, status]
  simp only [bind, Except.bind, checkDirectory_eq_ok_iff.mpr directory, pure, Except.pure,
    filterMap_listing]
  exact congrArg Except.ok ordered

end FileTree

namespace DirectoryStore

open FileTree

/-- Whether a store in a data directory has the directories and documents of a store in memory, and
nothing else below the place of its session directories. Every document is read as the session that
it was written from. -/
structure Mirrors (place : Place) (memory : MemoryStore) (disk : DirectoryStore) : Prop where
  keyMatch : disk.keyMatch = memory.keyMatch
  resolved : disk.files.resolve disk.directory.sessions = .ok place
  room : disk.directory.sessions.text.utf8ByteSize + 1 + nameLimit + 1 +
    stagingName.utf8ByteSize < pathLimit
  contents : ∀ rest, disk.files.entryAt? (place ++ rest) = memory.entryAt? rest
  listing : (disk.files.childDirectories place).Perm (names memory.directories)
  sorted : Sorted memory.directories
  isDirectoryName : ∀ name ∈ names memory.directories, IsDirectoryName name
  readable : ∀ name session, memory.session? name = some session →
    Session.read? session.write = some session

/-- The path of the sessions can be followed. -/
theorem isOpen_sessions (directory : DataDirectory) : Path.IsOpen directory.sessions :=
  Path.isOpen_join directory.root (by decide) (by decide)

/-- The path of a session directory can be followed. -/
theorem isOpen_session (directory : DataDirectory) {name : String}
    (isName : Path.IsName name) : Path.IsOpen (directory.session name) :=
  Path.isOpen_join directory.sessions isName.nonempty isName.noSlash

namespace Mirrors

variable {place : Place} {memory : MemoryStore} {disk : DirectoryStore}

/-- The place of the sessions is a directory. -/
theorem directory (mirrors : Mirrors place memory disk) :
    disk.files.entryAt? place = some .directory := by
  simpa [MemoryStore.entryAt?] using mirrors.contents []

/-- Both stores list the same names. -/
theorem directoryNames (mirrors : Mirrors place memory disk) :
    disk.directoryNames = .ok (names memory.directories) := by
  have noSlash := (isOpen_sessions disk.directory).noSlash
  rw [DirectoryStore.directoryNames,
    if_pos (contains_eq_true noSlash mirrors.resolved mirrors.directory),
    FileTree.directoryNames_eq noSlash mirrors.resolved mirrors.directory mirrors.sorted
      mirrors.listing]
  rfl

/-- The path of a session directory leads to its place. -/
theorem resolve_session (mirrors : Mirrors place memory disk) {name : String}
    (isDirectoryName : IsDirectoryName name) :
    disk.files.resolve (disk.directory.session name) = .ok (place ++ [name]) := by
  refine resolve_join mirrors.resolved mirrors.directory isDirectoryName.isName
    isDirectoryName.short ?_
  have plain := (textFault?_eq_none_iff.mp (resolve_eq_ok_iff.mp mirrors.resolved).1).1
  have room := mirrors.room
  have short := isDirectoryName.short
  exact textFault?_join (isOpen_sessions disk.directory) isDirectoryName.isName plain (by omega)

/-- At the place of a listed name stands a directory. -/
theorem session_directory (mirrors : Mirrors place memory disk) {name : String}
    (listed : name ∈ names memory.directories) :
    disk.files.entryAt? (place ++ [name]) = some .directory := by
  obtain ⟨held, found⟩ := Option.isSome_iff_exists.mp (mem_names_iff.mp listed)
  rw [mirrors.contents, MemoryStore.entryAt?, found]
  rfl

/-- The places of a document and of the text that is written beside it. -/
theorem resolve_file (mirrors : Mirrors place memory disk) {name : String}
    (listed : name ∈ names memory.directories) {file : String} (isName : Path.IsName file)
    (short : file.utf8ByteSize <= stagingName.utf8ByteSize) :
    disk.files.resolve ((disk.directory.session name).join file) =
      .ok (place ++ [name, file]) := by
  have isDirectoryName := mirrors.isDirectoryName name listed
  have isOpen := isOpen_session disk.directory isDirectoryName.isName
  have resolved := mirrors.resolve_session isDirectoryName
  have plain := (textFault?_eq_none_iff.mp (resolve_eq_ok_iff.mp resolved).1).1
  have length : (disk.directory.session name).text.utf8ByteSize =
      disk.directory.sessions.text.utf8ByteSize + 1 + name.utf8ByteSize := by
    have slash : "/".utf8ByteSize = 1 := rfl
    rw [DataDirectory.session, Path.join_eq (isOpen_sessions disk.directory)
      isDirectoryName.isName.noSlash]
    simp [String.utf8ByteSize_append, slash]
  have room := mirrors.room
  have shortName := isDirectoryName.short
  have fits : file.utf8ByteSize <= nameLimit := short.trans (by decide)
  have fault := textFault?_join isOpen isName plain (by omega)
  simpa using resolve_join resolved (mirrors.session_directory listed) isName fits fault

/-- The path of a document leads to its place. -/
theorem resolve_document (mirrors : Mirrors place memory disk) {name : String}
    (listed : name ∈ names memory.directories) :
    disk.files.resolve (disk.documentPath name) = .ok (place ++ [name, documentName]) :=
  mirrors.resolve_file listed isName_documentName (by decide)

/-- At the place of a document stands the text of the session that is held in memory. -/
theorem entryAt?_document (mirrors : Mirrors place memory disk) (name : String) :
    disk.files.entryAt? (place ++ [name, documentName]) =
      (memory.session? name).map fun session => .file session.write.toUTF8 := by
  rw [mirrors.contents, MemoryStore.entryAt?, if_pos rfl]

/-- A directory has a document on disk exactly if it has one in memory. -/
theorem document?_eq (mirrors : Mirrors place memory disk) {name : String}
    (listed : name ∈ names memory.directories) :
    disk.document? name = (memory.session? name).map fun _ => disk.documentPath name := by
  have isFile : disk.files.isFile (disk.documentPath name) = true ↔ ∃ content,
      (memory.session? name).map (fun session => Entry.file session.write.toUTF8) =
        some (.file content) := by
    rw [isFile_eq_true_iff (disk.endsInSlash_documentPath name)]
    simp only [mirrors.resolve_document listed, Except.ok.injEq, exists_and_left, exists_eq_left',
      mirrors.entryAt?_document]
  rw [DirectoryStore.document?]
  cases held : memory.session? name with
  | none =>
      have missing : ¬ disk.files.isFile (disk.documentPath name) = true := by
        rw [isFile, held]
        rintro ⟨_, impossible⟩
        cases impossible
      exact if_neg missing
  | some session =>
      have present : disk.files.isFile (disk.documentPath name) = true := by
        rw [isFile, held]
        exact ⟨_, rfl⟩
      exact if_pos present

/-- A session that is held in memory is loaded from its document. -/
theorem load_documentPath (mirrors : Mirrors place memory disk) {name : String}
    {session : Session} (held : memory.session? name = some session) :
    disk.load (disk.documentPath name) = .ok session := by
  have listed : name ∈ names memory.directories := by
    rw [mem_names_iff]
    cases found : find? name memory.directories with
    | none => simp [MemoryStore.session?, found] at held
    | some _ => rfl
  have stands : disk.files.entryAt? (place ++ [name, documentName]) =
      some (.file session.write.toUTF8) := by
    rw [mirrors.entryAt?_document, held]
    rfl
  rw [DirectoryStore.load, readText_of_entry (disk.endsInSlash_documentPath name)
    (mirrors.resolve_document listed) stands]
  simp only [mirrors.readable name session held]

/-! ## Changes -/

/-- A new directory adds its name to those listed. -/
theorem childDirectories_set_directory (mirrors : Mirrors place memory disk) {name : String}
    (new : name ∉ names memory.directories) :
    ((disk.files.set (place ++ [name]) .directory).childDirectories place).Perm
      (names (insert name none memory.directories)) := by
  have absent : disk.files.entryAt? (place ++ [name]) = none := by
    rw [mirrors.contents, MemoryStore.entryAt?, find?_eq_none_iff.mpr new]
    rfl
  have appended : (disk.files.set (place ++ [name]) .directory).childDirectories place =
      disk.files.childDirectories place ++ [name] := by
    rw [childDirectories, children_set_of_new _ _ absent, List.filterMap_append]
    rfl
  rw [appended]
  refine (List.perm_append_singleton ..).trans ((mirrors.listing.cons name).trans ?_)
  refine (List.perm_ext_iff_of_nodup (List.nodup_cons.mpr ⟨new, mirrors.sorted.nodup⟩)
    (mirrors.sorted.insert name none).nodup).mpr fun other => ?_
  rw [mem_names_insert, List.mem_cons]

/-- A directory that is new on disk is an incomplete one in memory. -/
theorem ensureDirectory_new (mirrors : Mirrors place memory disk) {name : String}
    (isDirectoryName : IsDirectoryName name) (new : name ∉ names memory.directories) :
    ∃ later, disk.ensureDirectory name = (.ok (disk.directory.session name), later) ∧
      later.directory = disk.directory ∧ Mirrors place (memory.put name none) later := by
  have absent : disk.files.entryAt? (place ++ [name]) = none := by
    rw [mirrors.contents, MemoryStore.entryAt?, find?_eq_none_iff.mpr new]
    rfl
  have keeps : KeepsDirectories disk.files (disk.files.set (place ++ [name]) .directory) :=
    .set .directory (by simp [absent])
  refine ⟨{ disk with files := disk.files.set (place ++ [name]) .directory }, ?_, rfl,
    mirrors.keyMatch, keeps.resolve_eq_ok mirrors.resolved, mirrors.room, fun rest => ?_,
    mirrors.childDirectories_set_directory new, mirrors.sorted.insert name none,
    fun other listed => ?_, fun other session held => ?_⟩
  · have fault := (resolve_eq_ok_iff.mp (mirrors.resolve_session isDirectoryName)).1
    rw [DirectoryStore.ensureDirectory, DataDirectory.session,
      FileTree.ensureDirectory_new mirrors.resolved mirrors.directory
        isDirectoryName.isName isDirectoryName.short fault absent]
  · rw [MemoryStore.entryAt?_put_none new]
    change FileTree.entryAt? (disk.files.set (place ++ [name]) .directory) (place ++ rest) = _
    rw [entryAt?_set, mirrors.contents]
    by_cases root : place ++ rest = []
    · obtain ⟨_, rfl⟩ := List.append_eq_nil_iff.mp root
      simp [root, MemoryStore.entryAt?]
    · simp [root, eq_comm]
  · obtain rfl | listed := mem_names_insert.mp listed
    · exact isDirectoryName
    · exact mirrors.isDirectoryName other listed
  · rw [MemoryStore.session?_put] at held
    split at held
    · cases held
    · exact mirrors.readable other session held

/-- A directory that is there already stays as it is. -/
theorem ensureDirectory_listed (mirrors : Mirrors place memory disk) {name : String}
    (listed : name ∈ names memory.directories) :
    disk.ensureDirectory name = (.ok (disk.directory.session name), disk) := by
  have isDirectoryName := mirrors.isDirectoryName name listed
  rw [DirectoryStore.ensureDirectory, ensureDirectory_of_directory
    (isOpen_session disk.directory isDirectoryName.isName).noSlash
    (mirrors.resolve_session isDirectoryName) (mirrors.session_directory listed)]

/-- Nothing stands where a text is written before it is moved. -/
theorem entryAt?_staging (mirrors : Mirrors place memory disk) (name : String)
    (rest : List String) : disk.files.entryAt? (place ++ [name, stagingName] ++ rest) = none := by
  rw [List.append_assoc, mirrors.contents]
  cases rest with
  | nil =>
      have apart : stagingName ≠ documentName := by decide
      simp [MemoryStore.entryAt?, apart]
  | cons _ _ => rfl

/-- Moving a document in place adds no directory. -/
theorem childDirectories_moved (files : FileTree) (name text : String) :
    (moved files (place ++ [name, stagingName]) (place ++ [name, documentName])
      text).childDirectories place = files.childDirectories place := by
  have apart (file : String) : (place ++ [name, file]).dropLast ≠ place := by
    simp [List.dropLast_append_of_ne_nil]
  have notAbove (other : String) : ¬ place ++ [name, stagingName] <+: place ++ [other] :=
    fun above => absurd above.length_le (by simp)
  rw [childDirectories, moved, children_set_of_ne _ _ (apart documentName),
    children_prune _ notAbove, children_set_of_ne _ _ (apart stagingName), childDirectories]

/-- The picture has no staged texts, so moving one away takes nothing else along. -/
theorem entryAt?_below_staging (mirrors : Mirrors place memory disk) (name : String) :
    ∀ below, place ++ [name, stagingName] <+: below → disk.files.entryAt? below = none := by
  rintro below ⟨rest, rfl⟩
  exact mirrors.entryAt?_staging name rest

/-- A text replaces the document of a directory on disk, and no directory is lost. -/
theorem replaceDocument_disk (mirrors : Mirrors place memory disk) {name : String}
    (listed : name ∈ names memory.directories) (text : String) :
    let files := moved disk.files (place ++ [name, stagingName]) (place ++ [name, documentName]) text
    DirectoryStore.replaceDocument disk.files (disk.directory.session name) text =
        (.ok (disk.documentPath name), files) ∧ KeepsDirectories disk.files files := by
  have plain : ∀ below, place ++ [name, stagingName] <+: below →
      disk.files.entryAt? below ≠ some .directory := by
    intro below isBelow
    simp [mirrors.entryAt?_below_staging name below isBelow]
  have free : disk.files.entryAt? (place ++ [name, documentName]) ≠ some .directory := by
    rw [mirrors.entryAt?_document]
    cases memory.session? name <;> simp
  have unwritten := plain _ List.prefix_rfl
  exact ⟨replaceDocument_eq_moved (mirrors.resolve_file listed isName_stagingName le_rfl) unwritten
      (mirrors.resolve_document listed) free text,
    (KeepsDirectories.set (.file text.toUTF8) unwritten).trans
      (keepsDirectories_moved plain (entryAt?_set_file_ne_directory _ text.toUTF8 free))⟩

/-- A session that is read from its own text is written into a directory on disk as it is put into
it in memory. -/
theorem replaceDocument (mirrors : Mirrors place memory disk) {name : String}
    (listed : name ∈ names memory.directories) {session : Session}
    (readable : Session.read? session.write = some session) :
    ∃ files, DirectoryStore.replaceDocument disk.files (disk.directory.session name)
        session.write = (.ok (disk.documentPath name), files) ∧
      Mirrors place (memory.put name (some session)) { disk with files } := by
  obtain ⟨replaced, keeps⟩ := mirrors.replaceDocument_disk listed session.write
  refine ⟨_, replaced, mirrors.keyMatch, keeps.resolve_eq_ok mirrors.resolved, mirrors.room,
    fun rest => ?_, ?_, mirrors.sorted.insert name _, fun other isListed => ?_,
    fun other held present => ?_⟩
  · rw [MemoryStore.entryAt?_put_some listed]
    change FileTree.entryAt? (moved disk.files _ _ _) (place ++ rest) = _
    by_cases root : place ++ rest = []
    · obtain ⟨_, rfl⟩ := List.append_eq_nil_iff.mp root
      simp [root, MemoryStore.entryAt?]
    · rw [entryAt?_moved (mirrors.entryAt?_below_staging name) _ root, mirrors.contents]
      simp [eq_comm]
  · rw [MemoryStore.names_put mirrors.sorted listed]
    change ((moved disk.files _ _ _).childDirectories place).Perm _
    rw [childDirectories_moved]
    exact mirrors.listing
  · rw [MemoryStore.names_put mirrors.sorted listed] at isListed
    exact mirrors.isDirectoryName other isListed
  · rw [MemoryStore.session?_put] at present
    split at present
    · obtain rfl := Option.some.inj present
      exact readable
    · exact mirrors.readable other held present

/-- The directory of a key is the same in both stores. -/
theorem directoryFor (mirrors : Mirrors place memory disk) (key : SessionKey)
    (contractName : String) :
    disk.directoryFor key contractName = .ok (memory.directoryFor key contractName) := by
  rw [DirectoryStore.directoryFor, mirrors.directoryNames]
  rfl

/-- A session is saved on disk as it is in memory. -/
theorem save (mirrors : Mirrors place memory disk) {session : Session} {key : SessionKey}
    (keyed : session.key = .ok key)
    (isDirectoryName : IsDirectoryName (memory.directoryFor key session.contractName))
    (readable : Session.read? session.write = some session) :
    ∃ later, disk.save session =
        (.ok (disk.documentPath (memory.directoryFor key session.contractName)), later) ∧
      later.directory = disk.directory ∧ Mirrors place (memory.save session).2 later := by
  generalize named : memory.directoryFor key session.contractName = name at isDirectoryName
  have saved : (memory.save session).2 = memory.put name (some session) := by
    rw [MemoryStore.save, keyed, ← named]
    rfl
  have found : disk.directoryFor key session.contractName = .ok name :=
    named ▸ mirrors.directoryFor key session.contractName
  rw [saved, DirectoryStore.save, keyed]
  simp only [found]
  by_cases listed : name ∈ names memory.directories
  · obtain ⟨files, replaced, mirrorsAfter⟩ := mirrors.replaceDocument listed readable
    refine ⟨{ disk with files }, ?_, rfl, mirrorsAfter⟩
    simp only [mirrors.ensureDirectory_listed listed, replaced]
  · -- On disk the directory is there before the document, as an incomplete one.
    obtain ⟨made, ensured, sameDirectory, mirrorsMade⟩ :=
      mirrors.ensureDirectory_new isDirectoryName listed
    have nowListed : name ∈ names (memory.put name none).directories :=
      mem_names_insert.mpr (.inl rfl)
    obtain ⟨files, replaced, mirrorsAfter⟩ := mirrorsMade.replaceDocument nowListed readable
    have same : (memory.put name none).put name (some session) =
        memory.put name (some session) := by
      simp only [MemoryStore.put, insert_insert mirrors.sorted]
    rw [same] at mirrorsAfter
    refine ⟨{ made with files }, ?_, sameDirectory, mirrorsAfter⟩
    rw [sameDirectory] at replaced
    simp only [ensured, replaced, DirectoryStore.documentPath, sameDirectory]

/-- A directory with too long a name is not made. -/
theorem ensureDirectory_long (mirrors : Mirrors place memory disk) {name : String}
    (isName : Path.IsName name) (long : nameLimit < name.utf8ByteSize) :
    disk.ensureDirectory name =
      (.error (.directoryNotMade (disk.directory.session name)), disk) := by
  rw [DirectoryStore.ensureDirectory, DataDirectory.session,
    FileTree.ensureDirectory_long mirrors.resolved mirrors.directory isName long]

/-- A session whose directory has too long a name is not saved. -/
theorem save_long (mirrors : Mirrors place memory disk) {session : Session} {key : SessionKey}
    (keyed : session.key = .ok key)
    (isName : Path.IsName (memory.directoryFor key session.contractName))
    (long : nameLimit < (memory.directoryFor key session.contractName).utf8ByteSize) :
    disk.save session = (.error (.directoryNotMade (disk.directory.session
      (memory.directoryFor key session.contractName))), disk) := by
  rw [DirectoryStore.save, keyed]
  simp only [mirrors.directoryFor key session.contractName,
    mirrors.ensureDirectory_long isName long]

end Mirrors

/-! ## Empty stores -/

/-- Whether the directory that holds the session directories of a store is there, at a place, with
nothing in it, and a path that leaves room for the paths of documents. -/
structure IsEmpty (place : Place) (disk : DirectoryStore) : Prop where
  resolved : disk.files.resolve disk.directory.sessions = .ok place
  directory : disk.files.entryAt? place = some .directory
  nothing : ∀ rest ≠ [], disk.files.entryAt? (place ++ rest) = none
  room : disk.directory.sessions.text.utf8ByteSize + 1 + nameLimit + 1 +
    stagingName.utf8ByteSize < pathLimit

/-- Below the root there is room for the sessions. -/
theorem IsEmpty.of_root {disk : DirectoryStore} (root : disk.directory = ⟨⟨"/"⟩⟩)
    (directory : disk.files.entryAt? ["sessions"] = some .directory)
    (nothing : ∀ rest ≠ [], disk.files.entryAt? (["sessions"] ++ rest) = none) :
    IsEmpty ["sessions"] disk where
  resolved := root ▸ resolve_sessions_root disk.files
  directory := directory
  nothing := nothing
  room := by
    rw [root, sessions_root]
    decide

/-- A place without entries below it has no children. -/
theorem children_eq_nil {tree : FileTree} {place : Place}
    (nothing : ∀ name, tree.entryAt? (place ++ [name]) = none) : tree.children place = [] := by
  refine List.filterMap_eq_nil_iff.mpr fun item member => ?_
  cases last : item.1.getLast? with
  | none => rfl
  | some name =>
      refine if_neg fun inPlace => ?_
      have absent := nothing name
      rw [entryAt?_eq_find? _ (by simp), Option.map_eq_none_iff, List.find?_eq_none] at absent
      refine absent item member ?_
      rw [decide_eq_true_iff, ← inPlace, List.dropLast_append_getLast? name last]

/-- An empty store on disk mirrors the empty store in memory. -/
theorem IsEmpty.mirrors {place : Place} {disk : DirectoryStore} (empty : IsEmpty place disk) :
    Mirrors place { keyMatch := disk.keyMatch } disk where
  keyMatch := rfl
  resolved := empty.resolved
  room := empty.room
  contents rest := by
    match rest with
    | [] => simpa [MemoryStore.entryAt?] using empty.directory
    | [name] => exact empty.nothing _ (by simp)
    | [name, file] =>
        rw [empty.nothing _ (by simp), MemoryStore.entryAt?]
        exact (ite_self none).symm
    | _ :: _ :: _ :: _ => exact empty.nothing _ (by simp)
  listing := by
    rw [childDirectories, children_eq_nil fun name => empty.nothing _ (by simp)]
    exact List.Perm.refl _
  sorted := Json.SortedFields.sorted_nil
  isDirectoryName name listed := by cases listed
  readable name session held := by cases held

end DirectoryStore

end ContractAtlas
