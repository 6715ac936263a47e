import ContractAtlas.DataDirectory
import ContractAtlas.Proofs.Files.Path
import Mathlib.Data.List.Induction

/-!
# Laws of file trees

What stands where after a place has been set or pruned, and where a path leads. A path leads to the
same place as before as long as every directory is still a directory (`KeepsDirectories`), which is
all that walking along a path asks of the tree.
-/

namespace ContractAtlas

namespace FileTree

/-! ## Setting and pruning places -/

@[simp] theorem entryAt?_nil (tree : FileTree) : tree.entryAt? [] = some .directory := rfl

/-- Setting an entry is seen at its own place only. -/
theorem find?_setIn (place other : Place) (entry : Entry) (entries : List (Place × Entry)) :
    (setIn place entry entries).find? (fun item => item.1 = other) =
      if place = other then some (place, entry) else entries.find? fun item => item.1 = other := by
  induction entries with
  | nil => by_cases found : place = other <;> simp [setIn, found]
  | cons item later inductionHypothesis =>
      rw [setIn]
      by_cases same : item.1 = place
      · rw [if_pos same, List.find?_cons, List.find?_cons, same]
        by_cases found : place = other <;> simp [found]
      · rw [if_neg same, List.find?_cons, inductionHypothesis, List.find?_cons]
        by_cases found : item.1 = other
        · have apart : place ≠ other := fun equal => same (found.trans equal.symm)
          simp [found, apart]
        · simp [found]

/-- Below the root an entry is the first one that is kept for its place. -/
theorem entryAt?_eq_find? (tree : FileTree) {place : Place} (nonempty : place ≠ []) :
    tree.entryAt? place = (tree.entries.find? fun item => item.1 = place).map Prod.snd := by
  rw [entryAt?, if_neg (by simpa using nonempty)]

/-- Setting an entry changes one place, and never the root. -/
theorem entryAt?_set (tree : FileTree) (place other : Place) (entry : Entry) :
    FileTree.entryAt? (tree.set place entry) other =
      if other = [] then some .directory else if place = other then some entry
      else tree.entryAt? other := by
  by_cases root : other = []
  · simp [root]
  · rw [if_neg root, entryAt?_eq_find? _ root, entryAt?_eq_find? _ root, set, find?_setIn]
    split <;> rfl

/-- Pruning takes away a place and all below it, and nothing else. -/
theorem entryAt?_prune (tree : FileTree) (place other : Place) :
    FileTree.entryAt? (tree.prune place) other =
      if other = [] then some .directory else if place <+: other then none
      else tree.entryAt? other := by
  by_cases root : other = []
  · simp [root]
  · rw [if_neg root, entryAt?_eq_find? _ root, entryAt?_eq_find? _ root, prune, List.find?_filter]
    by_cases below : place <+: other
    · rw [if_pos below, Option.map_eq_none_iff, List.find?_eq_none]
      rintro item _ both
      obtain ⟨kept, rfl⟩ : (!place.isPrefixOf item.1) = true ∧ item.1 = other := by
        simpa using both
      simp [List.isPrefixOf_iff_prefix.mpr below] at kept
    · have same :
          (fun item : Place × Entry => !place.isPrefixOf item.1 && decide (item.1 = other)) =
            fun item => decide (item.1 = other) := by
        funext item
        by_cases found : item.1 = other
        · have kept : place.isPrefixOf other = false := by
            rwa [← Bool.not_eq_true, List.isPrefixOf_iff_prefix]
          simp [found, kept]
        · simp [found]
      rw [if_neg below]
      simp [same]

/-- What is no directory is not the root. -/
theorem ne_nil_of_not_directory {tree : FileTree} {place : Place}
    (plain : tree.entryAt? place ≠ some .directory) : place ≠ [] := by
  rintro rfl
  exact plain rfl

/-- Writing a file makes no directory. -/
theorem entryAt?_set_file_ne_directory {tree : FileTree} (place : Place) (content : ByteArray)
    {other : Place} (plain : tree.entryAt? other ≠ some .directory) :
    FileTree.entryAt? (tree.set place (.file content)) other ≠ some .directory := by
  rw [entryAt?_set, if_neg (ne_nil_of_not_directory plain)]
  split
  · simp
  · exact plain

/-! ## Names in a directory -/

/-- The bytes of a text are those of that text. -/
theorem fromUTF8?_toUTF8 (text : String) : String.fromUTF8? text.toUTF8 = some text :=
  dif_pos text.isValidUTF8

/-- An entry that is set elsewhere adds no child. -/
theorem children_set_of_ne (tree : FileTree) {place parent : Place} (entry : Entry)
    (elsewhere : place.dropLast ≠ parent) :
    (tree.set place entry).children parent = tree.children parent := by
  have unchanged (entries : List (Place × Entry)) :
      FileTree.children { tree with entries := setIn place entry entries } parent =
        FileTree.children { tree with entries } parent := by
    induction entries with
    | nil =>
        simp only [children, setIn, List.filterMap_cons, List.filterMap_nil, if_neg elsewhere]
        cases place.getLast? <;> rfl
    | cons item later inductionHypothesis =>
        simp only [children] at inductionHypothesis ⊢
        rw [setIn]
        split
        · rename_i same
          rw [List.filterMap_cons, List.filterMap_cons, same]
          cases place.getLast? <;> simp [elsewhere]
        · rw [List.filterMap_cons, List.filterMap_cons, inductionHypothesis]
  exact unchanged tree.entries

/-- A new entry goes to the end. -/
theorem setIn_of_absent {place : Place} {entries : List (Place × Entry)} (entry : Entry)
    (absent : ∀ item ∈ entries, item.1 ≠ place) :
    setIn place entry entries = entries ++ [(place, entry)] := by
  induction entries with
  | nil => rfl
  | cons item later inductionHypothesis =>
      obtain ⟨apart, absentLater⟩ := List.forall_mem_cons.mp absent
      rw [setIn, if_neg apart, inductionHypothesis absentLater, List.cons_append]

/-- A new entry stands behind those that a directory had. -/
theorem children_set_of_new (tree : FileTree) {parent : Place} {name : String} (entry : Entry)
    (new : tree.entryAt? (parent ++ [name]) = none) :
    (tree.set (parent ++ [name]) entry).children parent =
      tree.children parent ++ [(name, entry)] := by
  have absent : ∀ item ∈ tree.entries, item.1 ≠ parent ++ [name] := by
    rw [entryAt?_eq_find? _ (by simp), Option.map_eq_none_iff, List.find?_eq_none] at new
    simpa using new
  rw [children, set, setIn_of_absent entry absent, List.filterMap_append]
  simp [children]

/-- Pruning elsewhere takes no child away. -/
theorem children_prune (tree : FileTree) {place parent : Place}
    (elsewhere : ∀ name, ¬ place <+: parent ++ [name]) :
    (tree.prune place).children parent = tree.children parent := by
  rw [children, children, prune, List.filterMap_filter]
  congr 1
  funext item
  cases pruned : place.isPrefixOf item.1 with
  | false => rfl
  | true =>
      rw [List.isPrefixOf_iff_prefix] at pruned
      cases last : item.1.getLast? with
      | none => rfl
      | some name =>
          have apart : item.1.dropLast ≠ parent := by
            rintro rfl
            exact elsewhere name ((List.dropLast_append_getLast? name last).symm ▸ pruned)
          simp [apart]

/-! ## Where a path leads -/

/-- Whether everything that was a directory still is one. -/
structure KeepsDirectories (before after : FileTree) : Prop where
  workingDirectory : after.workingDirectory = before.workingDirectory
  directories : ∀ place, before.entryAt? place = some .directory →
    after.entryAt? place = some .directory

/-- A place passes as a directory exactly if it is one. -/
theorem checkDirectory_eq_ok_iff {tree : FileTree} {place : Place} :
    tree.checkDirectory place = .ok () ↔ tree.entryAt? place = some .directory := by
  unfold checkDirectory
  split <;> simp_all

/-- A walk goes on from a directory only, one component after the other. -/
theorem walk_cons_eq_ok_iff {tree : FileTree} {place target : Place} {component : String}
    {later : List String} :
    tree.walk place (component :: later) = .ok target ↔
      tree.entryAt? place = some .directory ∧
        ∃ next, step place component = .ok next ∧ tree.walk next later = .ok target := by
  rw [← checkDirectory_eq_ok_iff, walk]
  cases tree.checkDirectory place <;> cases step place component <;>
    simp [bind, Except.bind]

/-- A walk along two lists of components goes through the place between them. -/
theorem walk_append_eq_ok_iff {tree : FileTree} {place target : Place}
    {first second : List String} :
    tree.walk place (first ++ second) = .ok target ↔
      ∃ middle, tree.walk place first = .ok middle ∧ tree.walk middle second = .ok target := by
  induction first generalizing place with
  | nil => simp [walk]
  | cons component later inductionHypothesis =>
      simp only [List.cons_append, walk_cons_eq_ok_iff, inductionHypothesis]
      constructor
      · rintro ⟨directory, next, stepped, middle, walked, ends⟩
        exact ⟨middle, ⟨directory, next, stepped, walked⟩, ends⟩
      · rintro ⟨middle, ⟨directory, next, stepped, walked⟩, ends⟩
        exact ⟨directory, next, stepped, middle, walked, ends⟩

/-- A path leads to a place if its text is in order and the walk along its components ends there. -/
theorem resolve_eq_ok_iff {tree : FileTree} {path : Path} {place : Place} :
    tree.resolve path = .ok place ↔
      textFault? path = none ∧ tree.walk (tree.startOf path) path.components = .ok place := by
  unfold resolve
  cases textFault? path <;> simp

/-- An absolute path with one component leads right below the root. -/
theorem resolve_of_component (tree : FileTree) {path : Path} (name : String)
    (plain : textFault? path = none) (absolute : path.isAbsolute = true)
    (components : path.components = [name]) (stepped : step [] name = .ok [name]) :
    tree.resolve path = .ok [name] := by
  rw [resolve_eq_ok_iff, components, startOf, if_pos absolute]
  exact ⟨plain, walk_cons_eq_ok_iff.mpr ⟨rfl, [name], stepped, rfl⟩⟩

namespace KeepsDirectories

variable {before after : FileTree}

/-- Where directories are kept, every walk that succeeded still does. -/
theorem walk_eq_ok (keeps : KeepsDirectories before after) {place target : Place}
    {components : List String} (walked : before.walk place components = .ok target) :
    after.walk place components = .ok target := by
  induction components generalizing place with
  | nil => exact walked
  | cons component later inductionHypothesis =>
      obtain ⟨directory, next, stepped, walked⟩ := walk_cons_eq_ok_iff.mp walked
      exact walk_cons_eq_ok_iff.mpr
        ⟨keeps.directories place directory, next, stepped, inductionHypothesis walked⟩

/-- A path leads to the same place as before. -/
theorem resolve_eq_ok (keeps : KeepsDirectories before after) {path : Path} {place : Place}
    (resolved : before.resolve path = .ok place) : after.resolve path = .ok place := by
  obtain ⟨fault, walked⟩ := resolve_eq_ok_iff.mp resolved
  refine resolve_eq_ok_iff.mpr ⟨fault, ?_⟩
  have start : after.startOf path = before.startOf path := by
    rw [startOf, startOf, keeps.workingDirectory]
  rw [start]
  exact keeps.walk_eq_ok walked

/-- Keeping directories is transitive. -/
theorem trans {last : FileTree} (first : KeepsDirectories before after)
    (second : KeepsDirectories after last) : KeepsDirectories before last where
  workingDirectory := second.workingDirectory.trans first.workingDirectory
  directories place directory := second.directories place (first.directories place directory)

/-- A place that was no directory may be set to anything. -/
theorem set {tree : FileTree} {place : Place} (entry : Entry)
    (plain : tree.entryAt? place ≠ some .directory) :
    KeepsDirectories tree (tree.set place entry) where
  workingDirectory := rfl
  directories other directory := by
    have apart : place ≠ other := by
      rintro rfl
      exact plain directory
    rw [entryAt?_set, if_neg apart, directory, ite_self]

/-- A place that has no directory at or below it may be pruned. -/
theorem prune {tree : FileTree} {place : Place}
    (plain : ∀ below, place <+: below → tree.entryAt? below ≠ some .directory) :
    KeepsDirectories tree (tree.prune place) where
  workingDirectory := rfl
  directories other directory := by
    rw [entryAt?_prune, if_neg fun below => plain other below directory, directory, ite_self]

end KeepsDirectories

/-- What stands at the end of a path that does not end in a slash. -/
theorem status_eq_ok_iff {tree : FileTree} {path : Path} (noSlash : path.endsInSlash = false)
    {place : Place} {entry : Entry} :
    tree.status path = .ok (place, entry) ↔
      tree.resolve path = .ok place ∧ tree.entryAt? place = some entry := by
  unfold status
  cases resolved : tree.resolve path with
  | error fault => simp [bind, Except.bind]
  | ok found =>
      simp only [bind, Except.bind, noSlash, Bool.false_eq_true, if_false, Except.ok.injEq]
      constructor
      · intro stands
        split at stands <;> cases stands
        all_goals exact ⟨rfl, ‹_›⟩
      · rintro ⟨rfl, stands⟩
        rw [stands]
        cases entry <;> rfl

/-- A path is one of a file exactly if it leads to a place with a file. -/
theorem isFile_eq_true_iff {tree : FileTree} {path : Path} (noSlash : path.endsInSlash = false) :
    tree.isFile path = true ↔ ∃ place content, tree.resolve path = .ok place ∧
      tree.entryAt? place = some (.file content) := by
  simp only [← status_eq_ok_iff noSlash]
  unfold isFile
  split
  · simp_all
  · rename_i other
    simp only [Bool.false_eq_true, false_iff, not_exists]
    exact fun place content stands => other place content stands

/-- Whether a path leads to the same file in two trees, if to any. -/
def SameFile (before after : FileTree) (path : Path) : Prop :=
  ∀ place content, after.status path = .ok (place, .file content) ↔
    before.status path = .ok (place, .file content)

namespace SameFile

variable {before after : FileTree} {path : Path}

/-- A path is the same file in two trees with the same directories if the place that it leads to has
the same entry. -/
theorem of_keeps (keeps : KeepsDirectories before after) (keepsBack : KeepsDirectories after before)
    (noSlash : path.endsInSlash = false) (entries : ∀ place, before.resolve path = .ok place →
      after.entryAt? place = before.entryAt? place) : SameFile before after path := by
  intro place content
  rw [status_eq_ok_iff noSlash, status_eq_ok_iff noSlash]
  constructor
  · rintro ⟨resolved, stands⟩
    have resolvedBefore := keepsBack.resolve_eq_ok resolved
    exact ⟨resolvedBefore, (entries place resolvedBefore).symm.trans stands⟩
  · rintro ⟨resolved, stands⟩
    exact ⟨keeps.resolve_eq_ok resolved, (entries place resolved).trans stands⟩

/-- Both trees agree on whether it is a file. -/
theorem isFile_eq (same : SameFile before after path) (noSlash : path.endsInSlash = false) :
    after.isFile path = before.isFile path := by
  rw [Bool.eq_iff_iff, isFile_eq_true_iff noSlash, isFile_eq_true_iff noSlash]
  simp only [← status_eq_ok_iff noSlash, same _ _]

/-- If it is one, both have the same content for it. -/
theorem readBytes_eq (same : SameFile before after path) (noSlash : path.endsInSlash = false)
    (isFile : before.isFile path = true) : after.readBytes path = before.readBytes path := by
  obtain ⟨place, content, found⟩ := (isFile_eq_true_iff noSlash).mp isFile
  have status := (status_eq_ok_iff noSlash).mpr found
  rw [readBytes, readBytes, status, (same place content).mpr status]

end SameFile

/-- A file with the bytes of a text is read as the text. -/
theorem readText_of_entry {tree : FileTree} {path : Path} (noSlash : path.endsInSlash = false)
    {place : Place} {text : String} (resolved : tree.resolve path = .ok place)
    (stands : tree.entryAt? place = some (.file text.toUTF8)) : tree.readText path = .ok text := by
  have status := (status_eq_ok_iff noSlash).mpr ⟨resolved, stands⟩
  simp only [readText, readBytes, status, bind, Except.bind, pure, Except.pure,
    fromUTF8?_toUTF8]

/-! ## Writing and moving files -/

/-- A file is written where a path leads, over a file or where nothing stands. -/
theorem writeText_eq_ok_iff {tree after : FileTree} {path : Path}
    (noSlash : path.endsInSlash = false) {text : String} :
    tree.writeText path text = .ok after ↔ ∃ place, tree.resolve path = .ok place ∧
      tree.entryAt? place ≠ some .directory ∧ after = tree.set place (.file text.toUTF8) := by
  simp only [writeText, writeBytes, fileToWrite, noSlash, Bool.false_eq_true, if_false]
  cases tree.resolve path with
  | error fault => simp [bind, Except.bind]
  | ok place =>
      cases stands : tree.entryAt? place with
      | none => simp [bind, Except.bind, pure, Except.pure, stands, eq_comm]
      | some entry => cases entry <;> simp [bind, Except.bind, pure, Except.pure, stands, eq_comm]

/-- A file is moved where a path leads, over a file or where nothing stands. -/
theorem moveFile_eq_ok_iff {tree after : FileTree} {source target : Path}
    (sourceNoSlash : source.endsInSlash = false) (noSlash : target.endsInSlash = false) :
    tree.moveFile source target = .ok after ↔ ∃ sourcePlace content place,
      tree.resolve source = .ok sourcePlace ∧ tree.entryAt? sourcePlace = some (.file content) ∧
      tree.resolve target = .ok place ∧ tree.entryAt? place ≠ some .directory ∧
      after = (tree.prune sourcePlace).set place (.file content) := by
  simp only [moveFile, readBytes, status, fileToWrite, sourceNoSlash, noSlash, Bool.false_eq_true,
    if_false]
  cases tree.resolve source with
  | error fault => simp [bind, Except.bind]
  | ok sourcePlace =>
      cases stands : tree.entryAt? sourcePlace with
      | none => simp [bind, Except.bind, stands]
      | some entry =>
          cases entry with
          | directory => simp [bind, Except.bind, stands, throw, throwThe, MonadExceptOf.throw]
          | file content =>
              cases tree.resolve target with
              | error fault => simp [bind, Except.bind, stands, pure, Except.pure]
              | ok place =>
                  cases covered : tree.entryAt? place with
                  | none => simp [bind, Except.bind, pure, Except.pure, stands, covered, eq_comm]
                  | some entry =>
                      cases entry <;>
                        simp [bind, Except.bind, pure, Except.pure, stands, covered, eq_comm]

/-! ## Paths of names -/

/-- The text of a path is in order if it has no NUL, is not empty and is short enough. -/
theorem textFault?_eq_none_iff {path : Path} :
    textFault? path = none ↔
      '\x00' ∉ path.text.toList ∧ path.text ≠ "" ∧ path.text.utf8ByteSize < pathLimit := by
  unfold textFault?
  split
  · simp_all
  · split
    · simp_all
    · split <;> simp_all

/-- A name adds no fault to a path if there is room for it. -/
theorem textFault?_join {path : Path} (isOpen : Path.IsOpen path) {name : String}
    (isName : Path.IsName name) (plain : '\x00' ∉ path.text.toList)
    (short : path.text.utf8ByteSize + 1 + name.utf8ByteSize < pathLimit) :
    textFault? (path.join name) = none := by
  rw [textFault?_eq_none_iff, Path.join_eq isOpen isName.noSlash]
  refine ⟨?_, (Path.isOpen_append _ isName.nonempty isName.noSlash).nonempty, ?_⟩
  · simp [plain, isName.noNul]
  · have slash : "/".utf8ByteSize = 1 := rfl
    simpa [String.utf8ByteSize_append, slash] using short

/-- A path has no more faults than the same path with a name behind it. -/
theorem textFault?_of_join {path : Path} (isOpen : Path.IsOpen path) {name : String}
    (isName : Path.IsName name) (fault : textFault? (path.join name) = none) :
    textFault? path = none := by
  rw [textFault?_eq_none_iff, Path.join_eq isOpen isName.noSlash] at fault
  obtain ⟨plain, _, short⟩ := fault
  simp only [String.toList_append, List.mem_append, not_or] at plain
  simp only [String.utf8ByteSize_append] at short
  exact textFault?_eq_none_iff.mpr ⟨plain.1.1, isOpen.nonempty, by omega⟩

/-- A short name is one step down. -/
theorem step_of_isName {place : Place} {name : String} (isName : Path.IsName name)
    (short : name.utf8ByteSize <= nameLimit) : step place name = .ok (place ++ [name]) := by
  rw [step, if_neg isName.notHere, if_neg isName.notAbove, if_neg (Nat.not_lt.mpr short)]

/-- No step leads into a name that is too long. -/
theorem step_of_long {place : Place} {name : String} (isName : Path.IsName name)
    (long : nameLimit < name.utf8ByteSize) : step place name = .error .nameTooLong := by
  rw [step, if_neg isName.notHere, if_neg isName.notAbove, if_pos long]

/-- A name behind a path does not change where the path starts. -/
theorem startOf_join (tree : FileTree) (path : Path) {name : String}
    (noSlash : '/' ∉ name.toList) : tree.startOf (path.join name) = tree.startOf path := by
  rw [startOf, startOf, Path.isAbsolute_join path noSlash]

/-- A walk that ends in a name ends at the name in a directory. -/
theorem walk_concat_eq_ok_iff {tree : FileTree} {place target : Place} {components : List String}
    {name : String} (isName : Path.IsName name) :
    tree.walk place (components ++ [name]) = .ok target ↔
      name.utf8ByteSize <= nameLimit ∧ ∃ parent, tree.walk place components = .ok parent ∧
        tree.entryAt? parent = some .directory ∧ target = parent ++ [name] := by
  rw [walk_append_eq_ok_iff]
  constructor
  · rintro ⟨parent, walked, last⟩
    obtain ⟨directory, next, stepped, ended⟩ := walk_cons_eq_ok_iff.mp last
    by_cases short : name.utf8ByteSize <= nameLimit
    · rw [step_of_isName isName short] at stepped
      cases stepped
      exact ⟨short, parent, walked, directory, (Except.ok.inj ended).symm⟩
    · rw [step_of_long isName (Nat.lt_of_not_le short)] at stepped
      cases stepped
  · rintro ⟨short, parent, walked, directory, rfl⟩
    exact ⟨parent, walked,
      walk_cons_eq_ok_iff.mpr ⟨directory, _, step_of_isName isName short, rfl⟩⟩

/-- A name below a path leads to the name in the directory that the path leads to. -/
theorem resolve_join_eq_ok_iff {tree : FileTree} {path : Path} {place : Place} {name : String}
    (isName : Path.IsName name) :
    tree.resolve (path.join name) = .ok place ↔
      textFault? (path.join name) = none ∧ name.utf8ByteSize <= nameLimit ∧
        ∃ parent, tree.walk (tree.startOf path) path.components = .ok parent ∧
          tree.entryAt? parent = some .directory ∧ place = parent ++ [name] := by
  rw [resolve_eq_ok_iff, startOf_join tree path isName.noSlash,
    Path.components_join path isName.nonempty isName.noSlash, walk_concat_eq_ok_iff isName]

/-- If a name below a path leads somewhere, the path leads to the directory of the name. -/
theorem exists_parent_of_resolve_join {tree : FileTree} {path : Path} (isOpen : Path.IsOpen path)
    {name : String} (isName : Path.IsName name) {place : Place}
    (resolved : tree.resolve (path.join name) = .ok place) :
    ∃ parent, tree.resolve path = .ok parent ∧ tree.entryAt? parent = some .directory ∧
      place = parent ++ [name] := by
  obtain ⟨fault, _, parent, walked, directory, same⟩ := (resolve_join_eq_ok_iff isName).mp resolved
  exact ⟨parent, resolve_eq_ok_iff.mpr ⟨textFault?_of_join isOpen isName fault, walked⟩, directory,
    same⟩

/-- A name below a path that leads to a directory leads one step further. -/
theorem resolve_join {tree : FileTree} {path : Path} {place : Place}
    (resolved : tree.resolve path = .ok place) (directory : tree.entryAt? place = some .directory)
    {name : String} (isName : Path.IsName name) (short : name.utf8ByteSize <= nameLimit)
    (fault : textFault? (path.join name) = none) :
    tree.resolve (path.join name) = .ok (place ++ [name]) :=
  (resolve_join_eq_ok_iff isName).mpr
    ⟨fault, short, place, (resolve_eq_ok_iff.mp resolved).2, directory, rfl⟩

/-! ## Making directories -/

/-- A walk that ends in a directory has started from one. -/
theorem entryAt?_of_walk {tree : FileTree} {place target : Place} {components : List String}
    (walked : tree.walk place components = .ok target)
    (directory : tree.entryAt? target = some .directory) :
    tree.entryAt? place = some .directory := by
  cases components with
  | nil =>
      obtain rfl : place = target := Except.ok.inj walked
      exact directory
  | cons component later => exact (walk_cons_eq_ok_iff.mp walked).1

/-- Directories that are there already are not made. -/
theorem makeAlong_append {tree : FileTree} {place target : Place} {components : List String}
    (walked : tree.walk place components = .ok target)
    (directory : tree.entryAt? target = some .directory) (later : List String) :
    tree.makeAlong place (components ++ later) = tree.makeAlong target later := by
  induction components generalizing place with
  | nil =>
      obtain rfl : place = target := Except.ok.inj walked
      rfl
  | cons component others inductionHypothesis =>
      obtain ⟨here, next, stepped, walked⟩ := walk_cons_eq_ok_iff.mp walked
      rw [List.cons_append, makeAlong, checkDirectory_eq_ok_iff.mpr here, stepped]
      simp only [entryAt?_of_walk walked directory]
      exact inductionHypothesis walked

/-- A directory that is missing is made. -/
theorem makeAlong_new {tree : FileTree} {place next : Place} {name : String}
    (directory : tree.entryAt? place = some .directory) (stepped : step place name = .ok next)
    (new : tree.entryAt? next = none) :
    tree.makeAlong place [name] = (.ok (), tree.set next .directory) := by
  rw [makeAlong, checkDirectory_eq_ok_iff.mpr directory, stepped]
  simp only [new]
  rfl

/-- Where no step is possible nothing is made. -/
theorem makeAlong_error {tree : FileTree} {place : Place} {name : String} {fault : FileError}
    (directory : tree.entryAt? place = some .directory) (stepped : step place name = .error fault) :
    tree.makeAlong place [name] = (.error fault, tree) := by
  rw [makeAlong, checkDirectory_eq_ok_iff.mpr directory, stepped]

/-- A path exists if it leads to a place with an entry. -/
theorem contains_eq_true {tree : FileTree} {path : Path} (noSlash : path.endsInSlash = false)
    {place : Place} {entry : Entry} (resolved : tree.resolve path = .ok place)
    (stands : tree.entryAt? place = some entry) : tree.contains path = true := by
  rw [contains, (status_eq_ok_iff noSlash).mpr ⟨resolved, stands⟩]
  rfl

/-- A path does not exist if it leads to a place without one. -/
theorem contains_eq_false {tree : FileTree} {path : Path} {place : Place}
    (resolved : tree.resolve path = .ok place) (absent : tree.entryAt? place = none) :
    tree.contains path = false := by
  simp [contains, status, resolved, absent, bind, Except.bind, Except.isOk, Except.toBool]

section

variable {tree : FileTree} {path : Path} {place : Place} {name : String}

/-- A directory that is there already is not made. -/
theorem ensureDirectory_of_directory (noSlash : path.endsInSlash = false)
    (resolved : tree.resolve path = .ok place) (directory : tree.entryAt? place = some .directory) :
    tree.ensureDirectory path = (.ok (), tree) := by
  rw [ensureDirectory, if_pos (contains_eq_true noSlash resolved directory)]

/-- A directory that is missing in a directory is made. -/
theorem ensureDirectory_new (resolved : tree.resolve path = .ok place)
    (directory : tree.entryAt? place = some .directory)
    (isName : Path.IsName name) (short : name.utf8ByteSize <= nameLimit)
    (fault : textFault? (path.join name) = none) (new : tree.entryAt? (place ++ [name]) = none) :
    tree.ensureDirectory (path.join name) = (.ok (), tree.set (place ++ [name]) .directory) := by
  have start := tree.startOf_join path isName.noSlash
  have absent := contains_eq_false (resolve_join resolved directory isName short fault) new
  have made : tree.makeDirectories (path.join name) =
      (.ok (), tree.set (place ++ [name]) .directory) := by
    rw [makeDirectories, fault, Path.components_join path isName.nonempty isName.noSlash, start]
    simp only
    rw [makeAlong_append (resolve_eq_ok_iff.mp resolved).2 directory,
      makeAlong_new directory (step_of_isName isName short) new]
  rw [ensureDirectory, absent, made]
  rfl

/-- A directory whose name is too long is not made, and nothing else is. -/
theorem ensureDirectory_long (resolved : tree.resolve path = .ok place)
    (directory : tree.entryAt? place = some .directory)
    (isName : Path.IsName name) (long : nameLimit < name.utf8ByteSize) :
    tree.ensureDirectory (path.join name) = (.error (path.join name), tree) := by
  have start := tree.startOf_join path isName.noSlash
  have walked := (resolve_eq_ok_iff.mp resolved).2
  have unresolved (place : Place) : tree.resolve (path.join name) ≠ .ok place := by
    rw [Ne, resolve_eq_ok_iff, start, Path.components_join path isName.nonempty isName.noSlash,
      walk_append_eq_ok_iff]
    rintro ⟨_, middle, walkedToo, ends⟩
    obtain rfl := Except.ok.inj (walked.symm.trans walkedToo)
    obtain ⟨_, next, stepped, _⟩ := walk_cons_eq_ok_iff.mp ends
    rw [step_of_long isName long] at stepped
    cases stepped
  have absent : tree.contains (path.join name) = false := by
    cases resolution : tree.resolve (path.join name) with
    | ok place => exact absurd resolution (unresolved place)
    | error fault =>
        simp [contains, status, resolution, bind, Except.bind, Except.isOk, Except.toBool]
  obtain ⟨fault, made⟩ : ∃ fault, tree.makeDirectories (path.join name) = (.error fault, tree) := by
    unfold makeDirectories
    split
    · exact ⟨_, rfl⟩
    · rw [Path.components_join path isName.nonempty isName.noSlash, start,
        makeAlong_append walked directory, makeAlong_error directory (step_of_long isName long)]
      exact ⟨_, rfl⟩
  rw [ensureDirectory, absent, made]
  rfl

end

/-! ## Rooted trees -/

/-- Whether everything stands in a directory. -/
def Rooted (tree : FileTree) : Prop :=
  ∀ place name, tree.entryAt? (place ++ [name]) ≠ none → tree.entryAt? place = some .directory

/-- Below what is not a directory there is nothing. -/
theorem Rooted.entryAt?_below {tree : FileTree} (rooted : Rooted tree) {place : Place}
    (plain : tree.entryAt? place ≠ some .directory) (rest : List String) (nonempty : rest ≠ []) :
    tree.entryAt? (place ++ rest) = none := by
  induction rest using List.reverseRecOn with
  | nil => contradiction
  | append_singleton earlier name inductionHypothesis =>
      by_contra stands
      rw [← List.append_assoc] at stands
      have directory := rooted _ _ stands
      by_cases first : earlier = []
      · rw [first, List.append_nil] at directory
        exact plain directory
      · rw [inductionHypothesis first] at directory
        cases directory

namespace Rooted

variable {tree : FileTree}

/-- Anything may be put into a directory that replaces no directory. -/
theorem set (rooted : Rooted tree) {parent : Place} {name : String} (entry : Entry)
    (directory : tree.entryAt? parent = some .directory)
    (plain : tree.entryAt? (parent ++ [name]) ≠ some .directory) :
    Rooted (tree.set (parent ++ [name]) entry) := by
  have keeps : KeepsDirectories tree (tree.set (parent ++ [name]) entry) := .set entry plain
  intro place other stands
  rw [entryAt?_set, if_neg (by simp)] at stands
  split at stands
  · rename_i same
    obtain ⟨rfl, _⟩ := List.append_inj' same rfl
    exact keeps.directories parent directory
  · exact keeps.directories place (rooted place other stands)

/-- Whatever stands above something is a directory. -/
theorem directory_of_prefix (rooted : Rooted tree) {above place : Place} (below : above <+: place)
    (apart : above ≠ place) (stands : tree.entryAt? place ≠ none) :
    tree.entryAt? above = some .directory := by
  by_contra plain
  obtain ⟨rest, rfl⟩ := below
  exact stands (rooted.entryAt?_below plain rest fun empty => apart (by simp [empty]))

/-- Where nothing stands a step from a directory leads to a name in it. -/
theorem eq_append_of_step (rooted : Rooted tree) {place next : Place} {component : String}
    (directory : tree.entryAt? place = some .directory) (stepped : step place component = .ok next)
    (new : tree.entryAt? next = none) : next = place ++ [component] := by
  unfold step at stepped
  split at stepped
  · cases stepped
    rw [directory] at new
    cases new
  · split at stepped
    · cases stepped
      cases place using List.reverseRecOn with
      | nil => cases new
      | append_singleton parent name =>
          rw [List.dropLast_concat, rooted parent name (by simp [directory])] at new
          cases new
    · split at stepped
      · cases stepped
      · exact (Except.ok.inj stepped).symm

/-- Making directories keeps the root in place. -/
theorem makeAlong (rooted : Rooted tree) (place : Place) (components : List String) :
    Rooted (tree.makeAlong place components).2 := by
  induction components generalizing tree place with
  | nil => exact rooted
  | cons component later inductionHypothesis =>
      unfold FileTree.makeAlong
      split
      · exact rooted
      · exact rooted
      · rename_i checked stepped
        have directory := checkDirectory_eq_ok_iff.mp checked
        split
        · exact inductionHypothesis rooted _
        · exact rooted
        · rename_i new
          obtain rfl := rooted.eq_append_of_step directory stepped new
          exact inductionHypothesis (rooted.set .directory directory (by simp [new])) _

/-- So does making those of a path. -/
theorem ensureDirectory (rooted : Rooted tree) (path : Path) :
    Rooted (tree.ensureDirectory path).2 := by
  unfold FileTree.ensureDirectory
  split
  · exact rooted
  · change Rooted (tree.makeDirectories path).2
    unfold makeDirectories
    split
    · exact rooted
    · exact rooted.makeAlong _ _

end Rooted

end FileTree

end ContractAtlas
