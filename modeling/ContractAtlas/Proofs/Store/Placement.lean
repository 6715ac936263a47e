import ContractAtlas.Proofs.Store.ReadAfterWrite

/-!
# Where a session is saved

The name of a session directory is put together from the key and the contract's name, and joined to
the path of all session directories. The contract's name is whatever the document says, so the join
may lead below the directory of the session or out of it. `save_stays_inside_iff` says when it does
not: when a directory of the key is listed already, or when nothing but slashes and lone dots
follows the first slash of the contract's name. -/

namespace ContractAtlas

/-! ## Paths up to slashes and dots -/

namespace Path

/-- Components without the lone dots. -/
def withoutDots (components : List String) : List String :=
  components.filter fun component => component ≠ "."

/-- The paths are the same up to slashes and lone dots. A dot counts only where a relative path
starts with it. -/
structure Same (left right : Path) : Prop where
  isAbsolute : left.isAbsolute = right.isAbsolute
  leadingDot : left.isAbsolute = false →
    (left.components.head? = some "." ↔ right.components.head? = some ".")
  components : withoutDots left.components = withoutDots right.components

/-- A path is the same as itself. -/
theorem Same.refl (path : Path) : path.Same path where
  isAbsolute := rfl
  leadingDot _ := Iff.rfl
  components := rfl

/-- A path that starts with a name is relative. -/
theorem isAbsolute_append {first : String} (nonempty : first ≠ "") (noSlash : '/' ∉ first.toList)
    (rest : String) : isAbsolute ⟨first ++ rest⟩ = false := by
  have characters : first.toList ≠ [] := by simpa using nonempty
  rw [isAbsolute, decide_eq_false_iff_not, String.toList_append,
    List.head?_append_of_ne_nil _ characters]
  exact fun head => noSlash (List.mem_of_head? head)

/-- A name before a slash, or before nothing, is the first component. -/
theorem components_first {first rest : String} (nonempty : first ≠ "")
    (noSlash : '/' ∉ first.toList) (ends : rest = "" ∨ ∃ after, rest = "/" ++ after) :
    components ⟨first ++ rest⟩ = first :: components ⟨rest⟩ := by
  have single := components_of_noSlash nonempty noSlash
  rcases ends with rfl | ⟨after, rfl⟩
  · rw [String.append_empty, single]
    rfl
  · have onlyAfter := components_append "" after
    rw [String.empty_append] at onlyAfter
    rw [← String.append_assoc, components_append, single, onlyAfter]
    rfl

end Path

/-- The directory name of a key is a part that encodes the key and what follows from the first slash
on, if there is one. -/
theorem SessionKey.exists_parts {key : SessionKey}
    (supported : Network.isSupported key.network = true) (contractName : String) :
    ∃ first rest, key.directoryName contractName = first ++ rest ∧
      (rest = "" ∨ ∃ after, rest = "/" ++ after) ∧ '/' ∉ first.toList ∧ ':' ∈ first.toList ∧
      key.EncodedBy first := by
  have plain := (Network.plain_of_isSupported supported).2
  have colon : ':' ∈ key.display.toList := by simp [toList_display]
  have noSlash := slash_not_mem_display supported
  by_cases unnamed : contractName = ""
  · have encoded := encodedBy_directoryName plain ""
    exact ⟨key.display, "", by simp [unnamed, directoryName], .inl rfl, noSlash, colon, encoded⟩
  have named : key.directoryName contractName = key.display ++ ":" ++ contractName := by
    rw [directoryName, if_neg (by simp [unnamed])]
  by_cases slash : '/' ∈ contractName.toList
  · obtain ⟨before, after, split, new⟩ := List.eq_append_cons_of_mem slash
    refine ⟨key.display ++ ":" ++ String.ofList before, "/" ++ String.ofList after, ?_,
      .inr ⟨_, rfl⟩, by simp [noSlash, new], by simp, encodedBy_display_append plain _⟩
    rw [named]
    exact String.toList_inj.mp (by simp [split])
  · exact ⟨_, "", by rw [named, String.append_empty], .inl rfl, by simp [noSlash, slash],
      by simp, encodedBy_display_append plain contractName⟩

/-- The name of a session directory is no path from the root. -/
theorem SessionKey.isAbsolute_directoryName {key : SessionKey}
    (supported : Network.isSupported key.network = true) (contractName : String) :
    Path.isAbsolute ⟨key.directoryName contractName⟩ = false := by
  obtain ⟨first, rest, split, _, noSlash, colon, _⟩ := exists_parts supported contractName
  rw [split]
  refine Path.isAbsolute_append ?_ noSlash rest
  rintro rfl
  cases colon

/-- A directory name that is a single name up to slashes and lone dots starts with that name, and
nothing but slashes and lone dots follows. -/
theorem SessionKey.exists_rest {key : SessionKey}
    (supported : Network.isSupported key.network = true) {contractName single : String}
    (tidied : Path.withoutDots (Path.components ⟨key.directoryName contractName⟩) = [single]) :
    ∃ rest, key.directoryName contractName = single ++ rest ∧
      (rest = "" ∨ ∃ after, rest = "/" ++ after) ∧
      Path.withoutDots (Path.components ⟨rest⟩) = [] ∧ '/' ∉ single.toList ∧
      ':' ∈ single.toList ∧ key.EncodedBy single := by
  obtain ⟨first, rest, split, ends, noSlash, colon, encoded⟩ := exists_parts supported contractName
  have nonempty : first ≠ "" := by
    rintro rfl
    cases colon
  have notHere : first ≠ "." := by
    rintro rfl
    exact absurd colon (by decide)
  rw [split, Path.components_first nonempty noSlash ends, Path.withoutDots, List.filter_cons,
    if_pos (by simpa using notHere)] at tidied
  obtain ⟨rfl, blank⟩ := List.cons.inj tidied
  exact ⟨rest, split, ends, blank, noSlash, colon, encoded⟩

namespace FileTree

variable {tree : FileTree}

/-- Lone dots lead nowhere else. -/
theorem walk_withoutDots {place target : Place} {components : List String}
    (walked : tree.walk place components = .ok target) :
    tree.walk place (Path.withoutDots components) = .ok target := by
  induction components generalizing place with
  | nil => exact walked
  | cons component later inductionHypothesis =>
      obtain ⟨directory, next, stepped, walkedLater⟩ := walk_cons_eq_ok_iff.mp walked
      rw [Path.withoutDots, List.filter_cons]
      split
      · exact walk_cons_eq_ok_iff.mpr ⟨directory, next, stepped, inductionHypothesis walkedLater⟩
      · rename_i dot
        have isDot : component = "." := by simpa using dot
        rw [step, if_pos isDot] at stepped
        obtain rfl := Except.ok.inj stepped
        exact inductionHypothesis walkedLater

/-- A path that can be looked up can be looked up without what follows a slash in one of its
parts. -/
theorem textFault?_of_rest {path : Path} (isOpen : Path.IsOpen path) {first rest file : String}
    (nonempty : first ≠ "") (noSlash : '/' ∉ first.toList)
    (ends : rest = "" ∨ ∃ after, rest = "/" ++ after) (isName : Path.IsName file)
    (fault : textFault? ((path.join (first ++ rest)).join file) = none) :
    textFault? ((path.join first).join file) = none := by
  rcases ends with rfl | ⟨after, rfl⟩
  · rwa [String.append_empty] at fault
  rw [Path.join_eq_of_relative isOpen (Path.isAbsolute_append nonempty noSlash _)] at fault
  rw [Path.join_eq (Path.isOpen_join path nonempty noSlash) isName.noSlash,
    Path.join_eq isOpen noSlash]
  obtain ⟨plain, _, short⟩ := textFault?_eq_none_iff.mp fault
  have slash : "/".utf8ByteSize = 1 := rfl
  have relative := Path.isAbsolute_eq_false isName.noSlash
  refine textFault?_eq_none_iff.mpr ⟨?_, by simp, ?_⟩
  · unfold Path.join at plain
    split at plain
    · simp_all
    · split at plain <;> simp_all
  · unfold Path.join at short
    split at short
    · simp_all
    · split at short <;> simp only [String.utf8ByteSize_append, slash] at short ⊢ <;> omega

/-- What has a colon and no slash is a name if a path that starts with it can be looked up. -/
theorem isName_of_textFault? {path : Path} (isOpen : Path.IsOpen path) {first rest file : String}
    (colon : ':' ∈ first.toList) (noSlash : '/' ∉ first.toList)
    (ends : rest = "" ∨ ∃ after, rest = "/" ++ after) (isName : Path.IsName file)
    (fault : textFault? ((path.join (first ++ rest)).join file) = none) : Path.IsName first := by
  have nonempty : first ≠ "" := by
    rintro rfl
    cases colon
  have faultFirst := textFault?_of_rest isOpen nonempty noSlash ends isName fault
  have plain := (textFault?_eq_none_iff.mp faultFirst).1
  rw [Path.join_eq (Path.isOpen_join path nonempty noSlash) isName.noSlash,
    Path.join_eq isOpen noSlash] at plain
  simp only [String.toList_append, List.mem_append, not_or] at plain
  refine ⟨nonempty, ?_, ?_, noSlash, plain.1.1.2⟩
  · rintro rfl
    exact absurd colon (by decide)
  · rintro rfl
    exact absurd colon (by decide)

/-- Slashes and lone dots behind a name lead nowhere else. -/
theorem walk_of_rest (path : Path) {first rest : String} (isName : Path.IsName first)
    (ends : rest = "" ∨ ∃ after, rest = "/" ++ after)
    (blank : Path.withoutDots (Path.components ⟨rest⟩) = []) {place : Place}
    (walked : tree.walk (tree.startOf (path.join (first ++ rest)))
      (path.join (first ++ rest)).components = .ok place) :
    tree.walk (tree.startOf (path.join first)) (path.join first).components = .ok place := by
  have relative := Path.isAbsolute_append isName.nonempty isName.noSlash rest
  rw [startOf, Path.isAbsolute_join_of_relative path relative,
    Path.components_join_of_relative path relative,
    Path.components_first isName.nonempty isName.noSlash ends, walk_append_eq_ok_iff] at walked
  obtain ⟨middle, reached, walkedLater⟩ := walked
  have tidied := walk_withoutDots walkedLater
  rw [Path.withoutDots, List.filter_cons, if_pos (by simpa using isName.notHere),
    ← Path.withoutDots, blank] at tidied
  rw [startOf, Path.isAbsolute_join path isName.noSlash,
    Path.components_join path isName.nonempty isName.noSlash, walk_append_eq_ok_iff]
  exact ⟨middle, reached, tidied⟩

end FileTree

namespace DirectoryStore

open FileTree

variable {store later : DirectoryStore} {key : SessionKey}

/-- A document that is replaced through a path with slashes and lone dots behind the name of its
directory is replaced as through the path of the directory. -/
theorem replaceDocument_of_rest {first rest : String} (isName : Path.IsName first)
    (ends : rest = "" ∨ ∃ after, rest = "/" ++ after)
    (blank : Path.withoutDots (Path.components ⟨rest⟩) = []) {text : String} {path : Path}
    {files : FileTree}
    (replaced : replaceDocument store.files (store.directory.session (first ++ rest)) text =
      (.ok path, files)) :
    replaceDocument store.files (store.directory.session first) text =
      (.ok (store.documentPath first), files) :=
  replaceDocument_of_walk replaced
    (fun _ walked => walk_of_rest store.directory.sessions isName ends blank walked)
    fun file member => by
      have isNameFile : Path.IsName file := by
        rcases List.mem_pair.mp member with rfl | rfl
        · exact isName_stagingName
        · exact isName_documentName
      exact textFault?_of_rest (isOpen_sessions store.directory) isName.nonempty isName.noSlash
        ends isNameFile

/-- The document of a directory name is, as a path, the one of a single name exactly if the
directory name is that name up to slashes and lone dots. -/
theorem same_documentPath_iff {name single : String} (relative : Path.isAbsolute ⟨name⟩ = false)
    (isName : Path.IsName single) :
    (store.documentPath name).Same (store.documentPath single) ↔
      Path.withoutDots (Path.components ⟨name⟩) = [single] := by
  have document := isName_documentName
  have components : (store.documentPath name).components =
      store.directory.sessions.components ++ Path.components ⟨name⟩ ++ [documentName] := by
    rw [documentPath, Path.components_join _ document.nonempty document.noSlash,
      DataDirectory.session, Path.components_join_of_relative _ relative]
  have componentsSingle : (store.documentPath single).components =
      store.directory.sessions.components ++ [single] ++ [documentName] := by
    rw [documentPath, Path.components_join _ document.nonempty document.noSlash,
      DataDirectory.session, Path.components_join _ isName.nonempty isName.noSlash]
  have singleDots : Path.withoutDots [single] = [single] := by
    simp [Path.withoutDots, isName.notHere]
  constructor
  · intro same
    have compared := same.components
    rw [components, componentsSingle, Path.withoutDots, Path.withoutDots, List.filter_append,
      List.filter_append, List.filter_append, List.filter_append] at compared
    exact (List.append_cancel_left (List.append_cancel_right compared)).trans singleDots
  · intro tidied
    have nonempty : store.directory.sessions.components ≠ [] := by
      rw [DataDirectory.sessions, Path.components_join _ isName_sessions.nonempty
        isName_sessions.noSlash]
      simp
    refine ⟨?_, fun _ => ?_, ?_⟩
    · rw [documentPath, documentPath, Path.isAbsolute_join _ document.noSlash,
        Path.isAbsolute_join _ document.noSlash, DataDirectory.session, DataDirectory.session,
        Path.isAbsolute_join_of_relative _ relative, Path.isAbsolute_join _ isName.noSlash]
    · rw [components, componentsSingle, List.append_assoc, List.append_assoc,
        List.head?_append_of_ne_nil _ nonempty, List.head?_append_of_ne_nil _ nonempty]
    · simp only [components, componentsSingle, Path.withoutDots, List.filter_append] at tidied ⊢
      rw [tidied]
      simp [isName.notHere]

/-- A save has written one directory of the key: the document there has the text of the session, the
path that was returned is listed, and the documents of all other directories are as they were. -/
def StaysInside (store later : DirectoryStore) (key : SessionKey) (session : Session)
    (path : Path) : Prop :=
  ∃ name, Path.IsName name ∧ key.EncodedBy name ∧
    later.files.readText (store.documentPath name) = .ok session.write ∧
    (∃ paths, SessionStore.documents later = .ok paths ∧ ∃ listed ∈ paths, path.Same listed) ∧
    ∀ other, Path.IsName other → other ≠ name →
      SameFile store.files later.files (store.documentPath other)

/-- Every listed document is that of a single name. -/
theorem exists_of_listed (wellFormed : store.files.WellFormed) {paths : List Path}
    (listing : SessionStore.documents store = .ok paths) {path : Path} (listed : path ∈ paths) :
    ∃ name, Path.IsName name ∧ path = store.documentPath name := by
  obtain ⟨name, complete⟩ := DirectoryView.exists_complete listing listed
  obtain ⟨isName, _, rfl⟩ := (complete_iff wellFormed).mp complete
  exact ⟨name, isName, rfl⟩

/-- The document of a directory with a name is listed when it is a file. -/
theorem exists_listed_of_isFile (wellFormed : store.files.WellFormed) {name : String}
    (isName : Path.IsName name) (isFile : store.files.isFile (store.documentPath name) = true) :
    ∃ paths, SessionStore.documents store = .ok paths ∧ store.documentPath name ∈ paths := by
  obtain ⟨named, listing, member⟩ := (complete_iff wellFormed).mpr ⟨isName, isFile, rfl⟩
  refine ⟨named.map Prod.snd, ?_, List.mem_map_of_mem member⟩
  rw [DirectoryView.documents_eq, listing]
  rfl

/-- A save that stays inside one directory has gone to a single name up to slashes and lone dots. -/
theorem exists_single_of_staysInside {session : Session} {name : String}
    (stays : StaysInside store later key session (store.documentPath name))
    (sameDirectory : later.directory = store.directory) (wellFormed : later.files.WellFormed)
    (relative : Path.isAbsolute ⟨name⟩ = false) :
    ∃ single, Path.withoutDots (Path.components ⟨name⟩) = [single] := by
  obtain ⟨_, _, _, _, ⟨paths, listing, listed, member, same⟩, _⟩ := stays
  obtain ⟨single, isName, rfl⟩ := exists_of_listed wellFormed listing member
  have located : later.documentPath single = store.documentPath single := by
    rw [documentPath, documentPath, sameDirectory]
  rw [located] at same
  exact ⟨single, (same_documentPath_iff relative isName).mp same⟩

/-- A document that is replaced in a directory of the key stays inside of it. -/
theorem staysInside_of_rewrites (wellFormed : store.files.WellFormed)
    (anchored : store.files.Anchored store.directory.root) {made : DirectoryStore}
    (unfinished : store.Unfinished made) {session : Session} {name : String}
    (isName : Path.IsName name) (encoded : key.EncodedBy name)
    (rewrites : Rewrites name session.write made later) {path : Path}
    (same : path.Same (store.documentPath name)) :
    StaysInside store later key session path := by
  have written := rewrites.written
  have located : later.documentPath name = store.documentPath name := by
    rw [rewrites.documentPath_eq, unfinished.documentPath_eq]
  rw [unfinished.documentPath_eq] at written
  obtain ⟨paths, listing, listed⟩ := exists_listed_of_isFile rewrites.wellFormed isName
    (located ▸ isFile_of_readText written)
  rw [located] at listed
  exact ⟨name, isName, encoded, written, ⟨paths, listing, _, listed, same⟩,
    fun other isNameOther apart =>
      sameFile_of_rewrites wellFormed anchored unfinished rewrites isNameOther apart⟩

/-- A session that is saved stays inside one directory of its key exactly if a directory of the key
was listed already, or the directory name that is put together from the key and the contract's name
is a single name up to slashes and lone dots. -/
theorem save_stays_inside_iff (wellFormed : store.files.WellFormed)
    (anchored : store.files.Anchored store.directory.root) {session : Session}
    (network : session.network = "" ∨ Network.isSupported session.network = true) {path : Path}
    (saved : store.save session = (.ok path, later)) :
    ∃ key, session.key = .ok key ∧
      (StaysInside store later key session path ↔
        (∃ name, store.Lists name ∧ key.EncodedBy name) ∨
          ∃ name, Path.withoutDots
            (Path.components ⟨key.directoryName session.contractName⟩) = [name]) := by
  obtain ⟨key, name, made, files, keyed, picked, ensured, replaced, rfl⟩ := exists_of_save saved
  have supported := session.isSupported_of_key network keyed
  obtain ⟨encoded, _, listed⟩ := picked_of_directoryFor supported picked
  have unfinished : store.Unfinished made := by
    have steps := Unfinished.ensureDirectory wellFormed name
    rwa [ensured] at steps
  rw [← unfinished.directory] at replaced
  refine ⟨key, keyed, ?_⟩
  rcases listed with listed | ⟨rfl, none⟩
  · have isName := listed.isName wellFormed
    obtain ⟨rfl, rewrites⟩ := rewrites_of_replaceDocument unfinished.wellFormed isName replaced
    refine iff_of_true ?_ (.inl ⟨name, listed, encoded⟩)
    refine staysInside_of_rewrites wellFormed anchored unfinished isName encoded rewrites ?_
    rw [unfinished.documentPath_eq]
    exact .refl _
  have relative := SessionKey.isAbsolute_directoryName supported session.contractName
  obtain ⟨located, _, _, _, _, resolved, _⟩ := exists_parent_of_replaceDocument replaced
  have isPath : path = store.documentPath (key.directoryName session.contractName) := by
    rw [located, unfinished.directory, documentPath]
  have wellFormedLater := wellFormed_of_replaceDocument unfinished.wellFormed replaced
  constructor
  · rw [isPath]
    exact fun stays =>
      .inr (exists_single_of_staysInside stays unfinished.directory wellFormedLater relative)
  · rintro (⟨other, listed, encodes⟩ | ⟨single, tidied⟩)
    · exact absurd encodes (none other listed)
    obtain ⟨rest, split, ends, blank, noSlash, colon, encodedSingle⟩ :=
      SessionKey.exists_rest supported tidied
    rw [split] at replaced resolved
    have isName : Path.IsName single := isName_of_textFault? (isOpen_sessions made.directory) colon
      noSlash ends isName_documentName (resolve_eq_ok_iff.mp resolved).1
    obtain ⟨_, rewrites⟩ := rewrites_of_replaceDocument unfinished.wellFormed isName
      (replaceDocument_of_rest isName ends blank replaced)
    refine staysInside_of_rewrites wellFormed anchored unfinished isName encodedSingle rewrites ?_
    rw [isPath]
    exact (same_documentPath_iff relative isName).mpr tidied

/-! ## Names with slashes -/

/-- A session of the key whose contract has this name. -/
def sessionNamed (contractName : String) : Session where
  networkInfo :=
    { contractName, contractNetwork := "mainet",
      contractAddress := "0x1111111111111111111111111111111111111111" }

/-- Whatever the contract is called, the session has its key. -/
theorem key_sessionNamed (contractName : String) :
    (sessionNamed contractName).key = .ok vaultKey := by
  have read : Address.parse? "0x1111111111111111111111111111111111111111" =
      some ⟨List.replicate 40 1, rfl⟩ := by decide +kernel
  have network : (sessionNamed contractName).effectiveNetwork = "mainet" := rfl
  have written : Address.parse? (sessionNamed contractName).contractAddress = _ := read
  rw [Session.key, written, network]
  rfl

/-- The name of another directory does not encode the key. -/
theorem not_encodedBy_other :
    ¬ vaultKey.EncodedBy "mainet:0x2222222222222222222222222222222222222222" := by
  have encodes : SessionKey.ofDirectoryName? "mainet:0x2222222222222222222222222222222222222222" =
      some (⟨"mainet", ⟨List.replicate 40 2, rfl⟩⟩, none) := by decide +kernel
  intro encoded
  exact absurd (encoded.unique ⟨none, encodes⟩) (by decide)

/-- The path of the root of the store is anchored. -/
theorem anchored_withOneDocument :
    withOneDocument.files.Anchored withOneDocument.directory.root :=
  anchored_of_not_mem (by decide +kernel)

/-- The store after a directory has been made. -/
def madeFor (name : String) : DirectoryStore :=
  (withOneDocument.ensureDirectory name).2

/-- Making the directory of a name is what a write leaves half way. -/
theorem unfinished_madeFor (name : String) : withOneDocument.Unfinished (madeFor name) :=
  .ensureDirectory wellFormed_withOneDocument name

/-- The directory can be made and leads to a place where no directory stands in the way of a
document. -/
def LeadsTo (name : String) (parent : Place) : Prop :=
  (withOneDocument.ensureDirectory name).1 = .ok (withOneDocument.directory.session name) ∧
    ∀ file ∈ [stagingName, documentName],
      (madeFor name).files.resolve ((withOneDocument.directory.session name).join file) =
          .ok (parent ++ [file]) ∧
        (madeFor name).files.checkDirectory (parent ++ [file]) ≠ .ok ()

instance (name : String) (parent : Place) : Decidable (LeadsTo name parent) :=
  inferInstanceAs (Decidable (_ ∧ _))

/-- A session is saved wherever the name of its directory leads. -/
theorem exists_save_withOneDocument {contractName name : String} {parent : Place}
    (named : vaultKey.directoryName contractName = name) (leads : LeadsTo name parent) :
    ∃ files, withOneDocument.save (sessionNamed contractName) =
        (.ok (withOneDocument.documentPath name), { madeFor name with files }) ∧
      replaceDocument (madeFor name).files (withOneDocument.directory.session name)
        (sessionNamed contractName).write =
          (.ok (withOneDocument.documentPath name), files) := by
  have listing : withOneDocument.directoryNames =
      .ok ["mainet:0x2222222222222222222222222222222222222222"] := by decide +kernel
  have supported : Network.isSupported vaultKey.network = true := by decide
  have refused : KeyMatch.exact.accepts vaultKey.display
      "mainet:0x2222222222222222222222222222222222222222" = false :=
    Bool.eq_false_iff.mpr fun accepted =>
      not_encodedBy_other ((KeyMatch.accepts_exact_display supported).mp accepted)
  have picked : withOneDocument.directoryFor vaultKey (sessionNamed contractName).contractName =
      .ok name := by
    rw [directoryFor, listing, Except.map, List.find?_cons, refused, ← named]
    rfl
  obtain ⟨made, resolved⟩ := leads
  have ensured : withOneDocument.ensureDirectory name =
      (.ok (withOneDocument.directory.session name), madeFor name) := Prod.ext made rfl
  have plain (file : String) (member : file ∈ [stagingName, documentName]) :
      FileTree.entryAt? (madeFor name).files (parent ++ [file]) ≠ some .directory :=
    fun directory => (resolved file member).2 (checkDirectory_eq_ok_iff.mpr directory)
  have replaced := replaceDocument_eq_moved (resolved stagingName (by simp)).1 (plain _ (by simp))
    (resolved documentName (by simp)).1 (plain _ (by simp)) (sessionNamed contractName).write
  exact ⟨_, save_of_steps (key_sessionNamed contractName) picked ensured replaced, replaced⟩

/-- A contract that is called something has its name after the key. -/
theorem directoryName_vaultKey {contractName : String} (named : contractName ≠ "") :
    vaultKey.directoryName contractName =
      "mainet:0x1111111111111111111111111111111111111111:" ++ contractName := by
  have display : vaultKey.display = "mainet:0x1111111111111111111111111111111111111111" := by
    decide +kernel
  rw [SessionKey.directoryName, if_neg (by simpa using named), display]
  rfl

/-- A contract's name that ends in slashes and lone dots leads to the directory of the name without
them. -/
theorem save_stays_inside_iff_trailing :
    ∃ path later, withOneDocument.save (sessionNamed "Vault/./") = (.ok path, later) ∧
      StaysInside withOneDocument later vaultKey (sessionNamed "Vault/./") path := by
  have named : vaultKey.directoryName "Vault/./" =
      "mainet:0x1111111111111111111111111111111111111111:Vault/./" :=
    directoryName_vaultKey (by decide)
  have leads : LeadsTo "mainet:0x1111111111111111111111111111111111111111:Vault/./"
      ["sessions", "mainet:0x1111111111111111111111111111111111111111:Vault"] := by
    decide +kernel
  obtain ⟨files, saved, _⟩ := exists_save_withOneDocument named leads
  obtain ⟨key, keyed, stays_iff⟩ := save_stays_inside_iff wellFormed_withOneDocument
    anchored_withOneDocument (.inr (by decide)) saved
  obtain rfl := Except.ok.inj ((key_sessionNamed _).symm.trans keyed)
  refine ⟨_, _, saved, stays_iff.mpr (.inr ?_)⟩
  rw [directoryName_vaultKey (by decide)]
  exact ⟨"mainet:0x1111111111111111111111111111111111111111:Vault", by decide +kernel⟩

/-- Whatever the contract is called, the session is read back. -/
theorem read?_write_sessionNamed (contractName : String) :
    Session.read? (sessionNamed contractName).write = some (sessionNamed contractName) := by
  have none : (sessionNamed contractName).toJson.numbers = [] := rfl
  exact Session.read?_write ⟨ContractData.asRead_empty _, List.forall_mem_nil _,
    List.forall_mem_nil _, rfl, Json.SortedFields.sorted_nil, List.forall_mem_nil _,
    List.forall_mem_nil _⟩ (none ▸ List.forall_mem_nil _)

/-- What leads to the directory of another session replaces the document there. -/
theorem load_of_leadsTo {name otherName : String} (leads : LeadsTo name ["sessions", otherName])
    (isName : Path.IsName otherName)
    (resolved : withOneDocument.files.resolve (withOneDocument.directory.session otherName) =
      .ok ["sessions", otherName])
    (faults : ∀ file ∈ [stagingName, documentName],
      textFault? ((withOneDocument.directory.session otherName).join file) = none)
    {session : Session} (readable : Session.read? session.write = some session) {path : Path}
    {files : FileTree}
    (replaced : replaceDocument (madeFor name).files (withOneDocument.directory.session name)
      session.write = (.ok path, files)) :
    DirectoryStore.load { madeFor name with files } (withOneDocument.documentPath otherName) =
      .ok session := by
  have unfinished := unfinished_madeFor name
  have resolvedLater := unfinished.extended.keeps.resolve_eq_ok resolved
  obtain ⟨_, _, parent, walked, _, same⟩ :=
    (resolve_join_eq_ok_iff isName_stagingName).mp (leads.2 stagingName (by simp)).1
  obtain rfl := List.append_cancel_right same
  have sameWalk : ∀ parent, (madeFor name).files.walk
      ((madeFor name).files.startOf (withOneDocument.directory.session name))
        (withOneDocument.directory.session name).components = .ok parent →
      (madeFor name).files.walk
        ((madeFor name).files.startOf (withOneDocument.directory.session otherName))
          (withOneDocument.directory.session otherName).components = .ok parent := by
    intro parent walkedToo
    obtain rfl := Except.ok.inj (walked.symm.trans walkedToo)
    exact (resolve_eq_ok_iff.mp resolvedLater).2
  have replacedToo := replaceDocument_of_walk replaced sameWalk fun file member _ =>
    faults file member
  obtain ⟨_, rewrites⟩ := rewrites_of_replaceDocument unfinished.wellFormed isName replacedToo
  have written : FileTree.readText files (withOneDocument.documentPath otherName) =
      .ok session.write := rewrites.written
  rw [load]
  simp only [written, readable]

/-- A contract's name that leads up and into the directory of another session: the document of the
other session is replaced, and the path that is returned is not listed. -/
theorem other_session_overwritten :
    let otherName := "mainet:0x2222222222222222222222222222222222222222"
    let session := sessionNamed ("x/../" ++ otherName)
    let other := withOneDocument.documentPath otherName
    withOneDocument.files.WellFormed ∧
      withOneDocument.files.Anchored withOneDocument.directory.root ∧
      session.key = .ok vaultKey ∧ Network.isSupported session.network = true ∧
      ¬ vaultKey.EncodedBy otherName ∧
      ∃ path later, withOneDocument.save session = (.ok path, later) ∧
        (∃ held, withOneDocument.load other = .ok held ∧ held.contractName = "") ∧
        later.load other = .ok session ∧
        ¬ StaysInside withOneDocument later vaultKey session path := by
  intro otherName session other
  let name := "mainet:0x1111111111111111111111111111111111111111:" ++ ("x/../" ++ otherName)
  have supported : Network.isSupported "mainet" = true := by decide
  have named : vaultKey.directoryName ("x/../" ++ otherName) = name :=
    directoryName_vaultKey (by decide)
  have leads : LeadsTo name ["sessions", otherName] := by decide +kernel
  obtain ⟨files, saved, replaced⟩ := exists_save_withOneDocument named leads
  have before : ∃ held, withOneDocument.load other = .ok held ∧ held.contractName = "" := by
    have content : withOneDocument.files.readText other = .ok "\x7b\x7d" := by decide +kernel
    have unnamed : (Session.read? "\x7b\x7d").map Session.contractName = some "" := by
      decide +kernel
    obtain ⟨held, read, unnamed⟩ := Option.map_eq_some_iff.mp unnamed
    exact ⟨held, by rw [load, content]; simp only [read], unnamed⟩
  have after := load_of_leadsTo leads (by decide +kernel) (by decide +kernel) (by decide +kernel)
    (read?_write_sessionNamed _) replaced
  have outside : ¬ StaysInside withOneDocument { madeFor name with files } vaultKey session
      (withOneDocument.documentPath name) := by
    have unfinished := unfinished_madeFor name
    have relative : Path.isAbsolute ⟨name⟩ = false := by decide +kernel
    intro stays
    obtain ⟨single, tidied⟩ := exists_single_of_staysInside stays
      unfinished.directory (wellFormed_of_replaceDocument unfinished.wellFormed replaced) relative
    have parts : (Path.withoutDots (Path.components ⟨name⟩)).length = 3 := by decide +kernel
    rw [tidied] at parts
    cases parts
  exact ⟨wellFormed_withOneDocument, anchored_withOneDocument, key_sessionNamed _, supported,
    not_encodedBy_other, _, _, saved, before, after, outside⟩

end DirectoryStore

end ContractAtlas
