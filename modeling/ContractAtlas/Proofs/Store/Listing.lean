import ContractAtlas.Proofs.Files.WellFormed
import ContractAtlas.Proofs.Store.Readability
import ContractAtlas.Proofs.Store.Mirror

/-!
# Listed directories

In a well-formed tree the session directories are the directories right below the place of all of
them, each listed once. A directory with a document is listed in any case. So which documents a
store has depends only on which paths lead to files, and not on the order of a table
(`complete_eq`).
-/

namespace ContractAtlas

namespace FileTree

variable {tree : FileTree}

/-- The child directories are the directory entries one step below the place. -/
theorem childDirectories_eq (tree : FileTree) (place : Place) :
    tree.childDirectories place = tree.entries.filterMap fun item =>
      match item.1.getLast?, item.2 with
      | some name, .directory => if item.1.dropLast = place then some name else none
      | _, _ => none := by
  rw [childDirectories, children, List.filterMap_filterMap]
  refine List.filterMap_congr fun item _ => ?_
  cases item.1.getLast? with
  | none => rfl
  | some name => by_cases inPlace : item.1.dropLast = place <;> cases item.2 <;> simp [inPlace]

/-- A name that is a text is listed exactly with what stands under it. -/
theorem mem_listing_iff {place : Place} {name : String} {entry : Entry} :
    (name.toUTF8, entry) ∈ tree.listing place ↔ (name, entry) ∈ tree.children place := by
  rw [listing, List.mem_append, List.mem_map, List.mem_map]
  constructor
  · rintro (⟨⟨other, _⟩, member, same⟩ | ⟨item, _, same⟩)
    · obtain ⟨sameBytes, rfl⟩ := Prod.mk.inj same
      have sameName := congrArg String.fromUTF8? sameBytes
      rw [fromUTF8?_toUTF8, fromUTF8?_toUTF8, Option.some_inj] at sameName
      exact sameName ▸ member
    · have notText := item.2.1.notText
      rw [(Prod.mk.inj same).1, fromUTF8?_toUTF8] at notText
      cases notText
  · exact fun member => .inl ⟨_, member, rfl⟩

/-- The child directories are the directories of the listing. -/
theorem mem_childDirectories_iff_listing {place : Place} {name : String} :
    name ∈ tree.childDirectories place ↔ (name.toUTF8, .directory) ∈ tree.listing place := by
  rw [mem_listing_iff, childDirectories, List.mem_filterMap]
  constructor
  · rintro ⟨⟨other, entry⟩, member, gives⟩
    cases entry with
    | directory =>
        cases gives
        exact member
    | file _ => cases gives
  · exact fun member => ⟨_, member, rfl⟩

namespace WellFormed

/-- In a well formed tree each place has the entry that the tree lists for it. -/
theorem entryAt?_eq_some_iff (wellFormed : WellFormed tree) {place : Place}
    (nonempty : place ≠ []) {entry : Entry} :
    tree.entryAt? place = some entry ↔ (place, entry) ∈ tree.entries := by
  rw [entryAt?_eq_find? tree nonempty, Option.map_eq_some_iff]
  constructor
  · rintro ⟨item, found, rfl⟩
    obtain rfl : item.1 = place := by simpa using List.find?_some found
    exact List.mem_of_find?_eq_some found
  · intro member
    obtain ⟨item, found⟩ := Option.isSome_iff_exists.mp
      (List.find?_isSome (p := fun item => item.1 = place) |>.mpr ⟨_, member, by simp⟩)
    obtain rfl : item.1 = place := by simpa using List.find?_some found
    have same := List.inj_on_of_nodup_map wellFormed.once (List.mem_of_find?_eq_some found) member
      rfl
    exact ⟨item, found, congrArg Prod.snd same⟩

/-- An item of the table that gives a name to the listing is the one of the directory. -/
theorem childDirectory_eq_some_iff {item : Place × Entry} {place : Place} {name : String} :
    (match item.1.getLast?, item.2 with
      | some name, .directory => if item.1.dropLast = place then some name else none
      | _, _ => none) = some name ↔ item = (place ++ [name], .directory) := by
  obtain ⟨at_, entry⟩ := item
  cases at_ using List.reverseRecOn with
  | nil => simp
  | append_singleton parent last => cases entry <;> simp

/-- In a well formed tree the child directories are the names with a directory below the place. -/
theorem mem_childDirectories_iff (wellFormed : WellFormed tree) {place : Place} {name : String} :
    name ∈ tree.childDirectories place ↔ tree.entryAt? (place ++ [name]) = some .directory := by
  rw [childDirectories_eq, List.mem_filterMap, wellFormed.entryAt?_eq_some_iff (by simp)]
  simp only [childDirectory_eq_some_iff]
  exact ⟨fun ⟨_, member, same⟩ => same ▸ member, fun member => ⟨_, member, rfl⟩⟩

/-- No name is listed twice. -/
theorem nodup_childDirectories (wellFormed : WellFormed tree) (place : Place) :
    (tree.childDirectories place).Nodup := by
  rw [childDirectories_eq]
  refine (List.Nodup.of_map Prod.fst wellFormed.once).filterMap fun item other name gives gives' => ?_
  rw [Option.mem_def, childDirectory_eq_some_iff] at gives gives'
  exact gives.trans gives'.symm

end WellFormed

/-! ## Names that are no text -/

/-- The tree with other things under the names that are no text. -/
def withRaw (tree : FileTree) (raw : List (Place × RawName × Entry)) : FileTree :=
  { tree with rawEntries := raw }

variable (raw : List (Place × RawName × Entry))

/-- Names that are no text add no place. -/
@[simp] theorem entryAt?_withRaw (place : Place) :
    (tree.withRaw raw).entryAt? place = tree.entryAt? place := rfl

/-- No path leads to a name that is no text. -/
@[simp] theorem resolve_withRaw (path : Path) :
    (tree.withRaw raw).resolve path = tree.resolve path := by
  have walk_eq (place : Place) (components : List String) :
      (tree.withRaw raw).walk place components = tree.walk place components := by
    induction components generalizing place with
    | nil => rfl
    | cons component later inductionHypothesis =>
        rw [walk, walk, checkDirectory, checkDirectory, entryAt?_withRaw]
        simp only [inductionHypothesis]
  rw [resolve, resolve, walk_eq]
  rfl

@[simp] theorem status_withRaw (path : Path) :
    (tree.withRaw raw).status path = tree.status path := by
  simp only [status, resolve_withRaw, entryAt?_withRaw]

@[simp] theorem isFile_withRaw (path : Path) :
    (tree.withRaw raw).isFile path = tree.isFile path := by
  rw [isFile, isFile, status_withRaw]

@[simp] theorem readText_withRaw (path : Path) :
    (tree.withRaw raw).readText path = tree.readText path := by
  rw [readText, readText, readBytes, readBytes, status_withRaw]

/-- A directory is listed by the names that are texts, whatever others there are. -/
@[simp] theorem directoryNames_withRaw (path : Path) :
    (tree.withRaw raw).directoryNames path = tree.directoryNames path := by
  simp only [directoryNames, filterMap_listing, status_withRaw, checkDirectory, entryAt?_withRaw]
  rfl

/-- Entries whose names are not text leave a tree well formed. -/
theorem WellFormed.withRaw (wellFormed : WellFormed tree) : WellFormed (tree.withRaw raw) :=
  ⟨wellFormed.rooted, wellFormed.once, wellFormed.named⟩

end FileTree

namespace DirectoryStore

open FileTree

variable {store : DirectoryStore}

/-- The sessions have a name that a directory can have. -/
theorem isName_sessions : Path.IsName "sessions" :=
  ⟨by decide, by decide, by decide, by decide, by decide⟩

/-- A path that is not that of a file cannot be followed or is that of a directory. -/
theorem status_eq_of_isFile_eq_false {path : Path} (plain : store.files.isFile path = false) :
    (∃ fault, store.files.status path = .error fault) ∨
      ∃ place, store.files.status path = .ok (place, .directory) := by
  unfold isFile at plain
  split at plain
  · cases plain
  · rename_i other
    cases status : store.files.status path with
    | error fault => exact .inl ⟨fault, rfl⟩
    | ok found =>
        obtain ⟨place, entry⟩ := found
        cases entry with
        | directory => exact .inr ⟨place, rfl⟩
        | file content => exact absurd status (other place content)

/-- What is not a file at the place of all session directories can be listed. -/
theorem exists_directoryNames (wellFormed : store.files.WellFormed)
    (plain : store.files.isFile store.directory.sessions = false) :
    ∃ names, store.directoryNames = .ok names ∧ names.Pairwise (· < ·) ∧ ∀ name, name ∈ names ↔
      ∃ place, store.files.resolve store.directory.sessions = .ok place ∧
        store.files.entryAt? (place ++ [name]) = some .directory := by
  have noSlash := (isOpen_sessions store.directory).noSlash
  by_cases present : ∃ place, store.files.status store.directory.sessions = .ok (place, .directory)
  · obtain ⟨place, status⟩ := present
    obtain ⟨resolved, directory⟩ := (status_eq_ok_iff noSlash).mp status
    have ordered : ((store.files.childDirectories place).mergeSort fun left right =>
        left <= right).Pairwise (· < ·) := by
      have sorted : ((store.files.childDirectories place).mergeSort fun left right =>
          left <= right).Pairwise (· ≤ ·) := List.pairwise_mergeSort' _ _
      have distinct := (List.mergeSort_perm (store.files.childDirectories place)
        fun left right => left <= right).nodup_iff.mpr (wellFormed.nodup_childDirectories place)
      exact (sorted.and distinct).imp fun both => lt_of_le_of_ne both.1 both.2
    refine ⟨_, ?_, ordered, fun name => ?_⟩
    · rw [directoryNames, if_pos (contains_eq_true noSlash resolved directory),
        directoryNames_eq noSlash resolved directory ordered (List.mergeSort_perm ..).symm]
      rfl
    · rw [List.mem_mergeSort, wellFormed.mem_childDirectories_iff]
      simp [resolved]
  · have absent : store.files.contains store.directory.sessions = false := by
      obtain ⟨fault, status⟩ := (status_eq_of_isFile_eq_false plain).resolve_right present
      rw [contains, status]
      rfl
    refine ⟨[], by rw [directoryNames, absent]; rfl, .nil, fun name => ?_⟩
    simp only [List.not_mem_nil, false_iff]
    rintro ⟨place, resolved, below⟩
    have directory := wellFormed.rooted place name (by simp [below])
    exact present ⟨place, (status_eq_ok_iff noSlash).mpr ⟨resolved, directory⟩⟩

/-- Where the sessions should be stands a file, so they cannot be listed. -/
theorem directoryNames_of_isFile (isFile : store.files.isFile store.directory.sessions = true) :
    store.directoryNames = .error (.file .notADirectory) := by
  have noSlash := (isOpen_sessions store.directory).noSlash
  obtain ⟨place, content, resolved, stands⟩ := (isFile_eq_true_iff noSlash).mp isFile
  have status := (status_eq_ok_iff noSlash).mpr ⟨resolved, stands⟩
  rw [directoryNames, if_pos (contains_eq_true noSlash resolved stands), FileTree.directoryNames,
    status]
  simp [bind, Except.bind, checkDirectory, stands, Except.mapError]

/-- The document of a directory stands in the directory, and the directory among all others. -/
theorem exists_place_of_resolve_documentPath {name : String} (isName : Path.IsName name)
    {place : Place} (resolved : store.files.resolve (store.documentPath name) = .ok place) :
    ∃ parent, store.files.resolve store.directory.sessions = .ok parent ∧
      store.files.entryAt? (parent ++ [name]) = some .directory ∧
      place = parent ++ [name] ++ [documentName] := by
  obtain ⟨within, resolvedWithin, directory, rfl⟩ := exists_parent_of_resolve_join
    (isOpen_session store.directory isName) isName_documentName resolved
  obtain ⟨parent, resolvedParent, _, rfl⟩ := exists_parent_of_resolve_join
    (isOpen_sessions store.directory) isName resolvedWithin
  exact ⟨parent, resolvedParent, directory, rfl⟩

/-- Whether a directory is listed, with a document or without one. -/
def Lists (store : DirectoryStore) (name : String) : Prop :=
  ∃ names, store.directoryNames = .ok names ∧ name ∈ names

/-- The names that are listed are those of the directories below the place of the sessions. -/
theorem lists_iff (wellFormed : store.files.WellFormed) {name : String} :
    store.Lists name ↔ ∃ place, store.files.resolve store.directory.sessions = .ok place ∧
      store.files.entryAt? (place ++ [name]) = some .directory := by
  cases isFile : store.files.isFile store.directory.sessions with
  | false =>
      obtain ⟨names, listing, _, member⟩ := exists_directoryNames wellFormed isFile
      simp [Lists, listing, member]
  | true =>
      obtain ⟨place, content, resolved, stands⟩ :=
        (isFile_eq_true_iff (isOpen_sessions store.directory).noSlash).mp isFile
      simp only [Lists, directoryNames_of_isFile isFile, reduceCtorEq, false_and, exists_false,
        false_iff]
      rintro ⟨other, resolvedToo, below⟩
      obtain rfl := Except.ok.inj (resolved.symm.trans resolvedToo)
      have directory := wellFormed.rooted place name (by simp [below])
      cases stands.symm.trans directory

/-- What is listed can be a name. -/
theorem Lists.isName (wellFormed : store.files.WellFormed) {name : String}
    (lists : store.Lists name) : Path.IsName name := by
  obtain ⟨place, _, directory⟩ := (lists_iff wellFormed).mp lists
  exact wellFormed.named place name (by simp [directory])

/-- Where something is listed, the sessions are not a file. -/
theorem Lists.isFile_sessions {name : String} (lists : store.Lists name) :
    store.files.isFile store.directory.sessions = false := by
  by_contra isFile
  obtain ⟨names, listing, _⟩ := lists
  rw [directoryNames_of_isFile (by simpa using isFile)] at listing
  cases listing

/-- A directory that has a document is listed. -/
theorem lists_of_isFile (wellFormed : store.files.WellFormed) {name : String}
    (isName : Path.IsName name) (isFile : store.files.isFile (store.documentPath name) = true) :
    store.Lists name := by
  obtain ⟨place, _, resolved, _⟩ :=
    (isFile_eq_true_iff (store.endsInSlash_documentPath name)).mp isFile
  obtain ⟨parent, resolvedParent, directory, _⟩ :=
    exists_place_of_resolve_documentPath isName resolved
  exact (lists_iff wellFormed).mpr ⟨parent, resolvedParent, directory⟩

/-- A directory is complete exactly when it has a document that is a file. -/
theorem complete_iff (wellFormed : store.files.WellFormed) {name : String} {path : Path} :
    DirectoryView.Complete store name path ↔ Path.IsName name ∧
      store.files.isFile (store.documentPath name) = true ∧ store.documentPath name = path := by
  have unfolded : DirectoryView.Complete store name path ↔
      store.Lists name ∧ store.document? name = some path := by
    simp only [DirectoryView.Complete, DirectoryView.complete, Lists]
    cases store.directoryNames with
    | error fault => simp [Except.map]
    | ok names => simp [Except.map]
  rw [unfolded, document?_eq_some_iff]
  constructor
  · rintro ⟨lists, isFile, located⟩
    exact ⟨lists.isName wellFormed, isFile, located⟩
  · rintro ⟨isName, isFile, located⟩
    exact ⟨lists_of_isFile wellFormed isName isFile, isFile, located⟩

/-- The complete directories are found among those listed, in the same order. -/
theorem complete_of_directoryNames {names : List String}
    (listing : store.directoryNames = .ok names) :
    DirectoryView.complete store = .ok ((names.filter fun name =>
      store.files.isFile (store.documentPath name)).map fun name =>
        (name, store.documentPath name)) := by
  simp only [DirectoryView.complete, listing, Except.map, ← List.filterMap_eq_map,
    List.filterMap_filter]
  congr 2
  funext name
  cases isFile : store.files.isFile (store.documentPath name) <;> simp [document?, isFile]

/-- The documents of two directories are apart. -/
theorem documentPath_inj (store : DirectoryStore) {name other : String} (isName : Path.IsName name)
    (isNameOther : Path.IsName other) (same : store.documentPath name = store.documentPath other) :
    name = other := by
  have text {name : String} (isName : Path.IsName name) : (store.documentPath name).text.toList =
      store.directory.sessions.text.toList ++ '/' :: (name.toList ++ '/' :: documentName.toList) := by
    rw [documentPath, Path.join_eq (isOpen_session store.directory isName)
      isName_documentName.noSlash, DataDirectory.session,
      Path.join_eq (isOpen_sessions store.directory) isName.noSlash]
    simp
  have characters := text isName
  rw [same, text isNameOther] at characters
  simpa [String.toList_inj, eq_comm] using characters

/-- No two directories have the same document. -/
theorem nodup_documents (wellFormed : store.files.WellFormed)
    {directories : List (String × Path)}
    (complete : DirectoryView.complete store = .ok directories) :
    (directories.map Prod.snd).Nodup := by
  cases plain : store.files.isFile store.directory.sessions with
  | true =>
      simp [DirectoryView.complete, directoryNames_of_isFile plain, Except.map] at complete
  | false =>
      obtain ⟨names, listing, sorted, _⟩ := exists_directoryNames wellFormed plain
      rw [complete_of_directoryNames listing] at complete
      obtain rfl := Except.ok.inj complete
      rw [List.map_map]
      have isName {name : String} (member : name ∈ names.filter fun name =>
          store.files.isFile (store.documentPath name)) : Path.IsName name :=
        Lists.isName wellFormed ⟨names, listing, List.mem_of_mem_filter member⟩
      exact (sorted.nodup.filter _).map_on fun name member other memberOther same =>
        store.documentPath_inj (isName member) (isName memberOther) same

/-- The directories with a document depend only on which paths lead to files. -/
theorem complete_eq {later : DirectoryStore} (wellFormed : store.files.WellFormed)
    (wellFormedLater : later.files.WellFormed) (directory : later.directory = store.directory)
    (sessions : later.files.isFile store.directory.sessions =
      store.files.isFile store.directory.sessions)
    (documents : ∀ name, Path.IsName name → later.files.isFile (store.documentPath name) =
      store.files.isFile (store.documentPath name)) :
    DirectoryView.complete later = DirectoryView.complete store := by
  have path (name : String) : later.documentPath name = store.documentPath name := by
    rw [documentPath, documentPath, directory]
  cases isFile : store.files.isFile store.directory.sessions with
  | true =>
      have isFileLater : later.files.isFile later.directory.sessions = true := by
        rw [directory, sessions, isFile]
      simp only [DirectoryView.complete, directoryNames_of_isFile isFile,
        directoryNames_of_isFile isFileLater, Except.map]
  | false =>
      have isFileLater : later.files.isFile later.directory.sessions = false := by
        rw [directory, sessions, isFile]
      obtain ⟨names, listing, sorted, _⟩ := exists_directoryNames wellFormed isFile
      obtain ⟨namesLater, listingLater, sortedLater, _⟩ :=
        exists_directoryNames wellFormedLater isFileLater
      have lists {store : DirectoryStore} {names : List String}
          (listing : store.directoryNames = .ok names) (name : String) :
          name ∈ names ↔ store.Lists name := by
        simp [Lists, listing]
      rw [complete_of_directoryNames listing, complete_of_directoryNames listingLater]
      simp only [path]
      -- Both lists stand in ascending order, so that it is enough that they have the same members.
      refine congrArg Except.ok (congrArg (List.map _) (Json.SortedFields.names_eq_of_mem_iff
        (sortedLater.filter _) (sorted.filter _) fun name => ?_))
      simp only [List.mem_filter, lists listing, lists listingLater]
      constructor
      · rintro ⟨listed, isFile⟩
        have isName := listed.isName wellFormedLater
        rw [documents name isName] at isFile
        exact ⟨lists_of_isFile wellFormed isName isFile, isFile⟩
      · rintro ⟨listed, isFile⟩
        have isName := listed.isName wellFormed
        rw [← documents name isName, ← path] at isFile
        exact ⟨lists_of_isFile wellFormedLater isName isFile, path name ▸ isFile⟩

end DirectoryStore

end ContractAtlas
