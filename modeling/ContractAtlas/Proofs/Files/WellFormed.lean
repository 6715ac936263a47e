import ContractAtlas.Proofs.Files.Tree
import Mathlib.Data.List.Nodup

/-!
# Well-formed file trees

A table is well-formed when it describes a tree: everything stands in a directory, once, and under a
name. The operations on a tree keep it so. Most of them also take nothing away but in the place that
they write to, which `Extends` says of one tree and a later one, up to the entries of one name. A
path whose way up is there already (`Anchored`) then leads to the same files in both.
-/

namespace ContractAtlas

namespace FileTree

/-! ## Well-formed tables -/

/-- Setting an entry keeps the places in their order and adds a new one at the end. -/
theorem map_fst_setIn (place : Place) (entry : Entry) (entries : List (Place × Entry)) :
    (setIn place entry entries).map Prod.fst =
      if place ∈ entries.map Prod.fst then entries.map Prod.fst
      else entries.map Prod.fst ++ [place] := by
  induction entries with
  | nil => rfl
  | cons item later inductionHypothesis =>
      rw [setIn]
      by_cases same : item.1 = place
      · simp [same]
      · rw [if_neg same, List.map_cons, inductionHypothesis]
        by_cases member : place ∈ later.map Prod.fst <;> simp_all [Ne.symm same]

/-- Whether the table of a tree describes a tree: everything stands in a directory, once, and under
a name. -/
structure WellFormed (tree : FileTree) : Prop where
  rooted : Rooted tree
  once : (tree.entries.map Prod.fst).Nodup
  named : ∀ place name, tree.entryAt? (place ++ [name]) ≠ none → Path.IsName name

namespace WellFormed

variable {tree : FileTree}

/-- A table can be checked item by item. -/
theorem of_entries (once : (tree.entries.map Prod.fst).Nodup)
    (parents : ∀ item ∈ tree.entries, tree.checkDirectory item.1.dropLast = .ok ())
    (named : ∀ item ∈ tree.entries, ∀ name ∈ item.1.getLast?, Path.IsName name) :
    WellFormed tree := by
  have exists_item {place : Place} {name : String} (stands : tree.entryAt? (place ++ [name]) ≠ none) :
      ∃ item ∈ tree.entries, item.1 = place ++ [name] := by
    rw [entryAt?_eq_find? tree (by simp), Option.map_eq_none_iff.ne, ← Option.isSome_iff_ne_none,
      List.find?_isSome] at stands
    simpa using stands
  refine ⟨fun place name stands => ?_, once, fun place name stands => ?_⟩
  · obtain ⟨item, member, same⟩ := exists_item stands
    simpa [same] using checkDirectory_eq_ok_iff.mp (parents item member)
  · obtain ⟨item, member, same⟩ := exists_item stands
    exact named item member name (by simp [same])

/-- Anything may be put into a directory under a name, where it replaces no directory. -/
theorem set (wellFormed : WellFormed tree) {parent : Place} {name : String} (entry : Entry)
    (directory : tree.entryAt? parent = some .directory) (isName : Path.IsName name)
    (plain : tree.entryAt? (parent ++ [name]) ≠ some .directory) :
    WellFormed (tree.set (parent ++ [name]) entry) where
  rooted := wellFormed.rooted.set entry directory plain
  once := by
    rw [FileTree.set, map_fst_setIn]
    split
    · exact wellFormed.once
    · rename_i new
      exact (List.nodup_append_comm.mpr (List.nodup_cons.mpr ⟨new, wellFormed.once⟩))
  named place other stands := by
    rw [entryAt?_set, if_neg (by simp)] at stands
    split at stands
    · rename_i same
      obtain ⟨_, last⟩ := List.append_inj' same rfl
      exact List.singleton_inj.mp last ▸ isName
    · exact wellFormed.named place other stands

/-- Taking away all below a place leaves a well-formed tree. -/
theorem prune (wellFormed : WellFormed tree) (pruned : Place) : WellFormed (tree.prune pruned) where
  rooted place name stands := by
    rw [entryAt?_prune, if_neg (by simp)] at stands
    split at stands
    · contradiction
    · rename_i kept
      have directory := wellFormed.rooted place name stands
      have apart : ¬ pruned <+: place := fun above => kept (above.trans (List.prefix_append ..))
      rw [entryAt?_prune, if_neg apart, directory, ite_self]
  once := wellFormed.once.sublist (List.filter_sublist.map Prod.fst)
  named place name stands := by
    rw [entryAt?_prune, if_neg (by simp)] at stands
    split at stands
    · contradiction
    · exact wellFormed.named place name stands

end WellFormed

/-! ## Trees that extend others -/

/-- Whether a tree has everything that an earlier one had, with nothing new but directories, the
entries of one name aside. -/
structure Extends (aside : String) (before after : FileTree) : Prop where
  keeps : KeepsDirectories before after
  entryAt?_eq : ∀ place, place.getLast? ≠ some aside →
    after.entryAt? place = before.entryAt? place ∨
      before.entryAt? place = none ∧ after.entryAt? place = some .directory

namespace Extends

variable {aside : String} {before after : FileTree}

/-- A tree extends itself. -/
theorem refl (aside : String) (tree : FileTree) : Extends aside tree tree where
  keeps := ⟨rfl, fun _ directory => directory⟩
  entryAt?_eq _ _ := .inl rfl

/-- Extensions compose. -/
theorem trans {last : FileTree} (first : Extends aside before after)
    (second : Extends aside after last) : Extends aside before last where
  keeps := first.keeps.trans second.keeps
  entryAt?_eq place other := by
    obtain unchanged | ⟨new, made⟩ := second.entryAt?_eq place other
    · exact unchanged ▸ first.entryAt?_eq place other
    · obtain unchanged | ⟨_, directory⟩ := first.entryAt?_eq place other
      · exact .inr ⟨unchanged ▸ new, made⟩
      · rw [directory] at new
        cases new

/-- A directory may be made where nothing stands. -/
theorem set_directory {place : Place} (new : before.entryAt? place = none) :
    Extends aside before (before.set place .directory) where
  keeps := .set .directory (by simp [new])
  entryAt?_eq other _ := by
    rw [entryAt?_set]
    by_cases root : other = []
    · simp [root]
    · by_cases same : place = other
      · exact .inr ⟨same ▸ new, by simp [root, same]⟩
      · exact .inl (by simp [root, same])

/-- An entry of the name may be set to anything that replaces no directory. -/
theorem set_aside {parent : Place} (entry : Entry)
    (plain : before.entryAt? (parent ++ [aside]) ≠ some .directory) :
    Extends aside before (before.set (parent ++ [aside]) entry) where
  keeps := .set entry plain
  entryAt?_eq other apart := by
    have elsewhere : parent ++ [aside] ≠ other := by
      rintro rfl
      exact apart List.getLast?_concat
    by_cases root : other = []
    · exact .inl (by simp [root])
    · exact .inl (by rw [entryAt?_set, if_neg root, if_neg elsewhere])

end Extends

/-! ## Making directories -/

/-- Whether one more component of a path may be the name of a directory, unless it stands for
another place. -/
def IsPart (component : String) : Prop :=
  component ≠ "" ∧ '/' ∉ component.toList ∧ '\x00' ∉ component.toList

/-- The components of a path without NUL are parts that a name can have. -/
theorem isPart_of_mem_components {path : Path} (plain : '\x00' ∉ path.text.toList)
    {component : String} (member : component ∈ path.components) : IsPart component := by
  obtain ⟨nonempty, noSlash, inPath⟩ := Path.of_mem_components member
  exact ⟨nonempty, noSlash, fun nul => plain (inPath _ nul)⟩

/-- The parts of a path that are made are names. -/
theorem IsPart.isName_of_step {component : String} (isPart : IsPart component)
    {place : Place} (stepped : step place component = .ok (place ++ [component])) :
    Path.IsName component := by
  obtain ⟨nonempty, noSlash, noNul⟩ := isPart
  refine ⟨nonempty, ?_, ?_, noSlash, noNul⟩
  · rintro rfl
    exact absurd (Except.ok.inj stepped) (by simp)
  · rintro rfl
    have lengths := congrArg List.length (Except.ok.inj stepped)
    simp only [List.length_dropLast, List.length_append, List.length_singleton] at lengths
    omega

/-- Making directories along a path keeps a tree well-formed and takes nothing away. -/
theorem WellFormed.makeAlong {tree : FileTree} (wellFormed : WellFormed tree) (aside : String)
    (place : Place) {components : List String} (parts : ∀ part ∈ components, IsPart part) :
    WellFormed (tree.makeAlong place components).2 ∧
      Extends aside tree (tree.makeAlong place components).2 := by
  induction components generalizing tree place with
  | nil => exact ⟨wellFormed, .refl aside tree⟩
  | cons component later inductionHypothesis =>
      obtain ⟨isPart, partsLater⟩ := List.forall_mem_cons.mp parts
      unfold FileTree.makeAlong
      split
      · exact ⟨wellFormed, .refl aside tree⟩
      · exact ⟨wellFormed, .refl aside tree⟩
      · rename_i checked stepped
        have directory := checkDirectory_eq_ok_iff.mp checked
        split
        · exact inductionHypothesis wellFormed _ partsLater
        · exact ⟨wellFormed, .refl aside tree⟩
        · rename_i new
          obtain rfl := wellFormed.rooted.eq_append_of_step directory stepped new
          have made := wellFormed.set .directory directory (isPart.isName_of_step stepped)
            (by simp [new])
          obtain ⟨wellFormedAfter, extended⟩ := inductionHypothesis made _ partsLater
          exact ⟨wellFormedAfter, (Extends.set_directory new).trans extended⟩

/-- Making the directories of a path keeps a tree well-formed, and only adds to it. -/
theorem WellFormed.ensureDirectory {tree : FileTree} (wellFormed : WellFormed tree)
    (aside : String) (path : Path) :
    WellFormed (tree.ensureDirectory path).2 ∧ Extends aside tree (tree.ensureDirectory path).2 := by
  unfold FileTree.ensureDirectory
  split
  · exact ⟨wellFormed, .refl aside tree⟩
  · change WellFormed (tree.makeDirectories path).2 ∧
      Extends aside tree (tree.makeDirectories path).2
    unfold makeDirectories
    split
    · exact ⟨wellFormed, .refl aside tree⟩
    · rename_i fault
      have plain := (textFault?_eq_none_iff.mp fault).1
      exact wellFormed.makeAlong aside _ fun part member => isPart_of_mem_components plain member

/-- So does making those of several paths. -/
theorem WellFormed.ensureDirectories {tree : FileTree} (wellFormed : WellFormed tree)
    (aside : String) (paths : List Path) :
    WellFormed (tree.ensureDirectories paths).2 ∧
      Extends aside tree (tree.ensureDirectories paths).2 := by
  induction paths generalizing tree with
  | nil => exact ⟨wellFormed, .refl aside tree⟩
  | cons path later inductionHypothesis =>
      obtain ⟨wellFormedFirst, extended⟩ := wellFormed.ensureDirectory aside path
      unfold FileTree.ensureDirectories
      split
      · rename_i made
        rw [made] at wellFormedFirst extended
        obtain ⟨wellFormedLast, extendedLast⟩ := inductionHypothesis wellFormedFirst
        exact ⟨wellFormedLast, extended.trans extendedLast⟩
      · rename_i failed
        rw [failed] at wellFormedFirst extended
        exact ⟨wellFormedFirst, extended⟩

/-- What has been made along a path can be walked. -/
theorem WellFormed.exists_walk_of_makeAlong {tree later : FileTree} (wellFormed : WellFormed tree)
    {place : Place} {components : List String} (parts : ∀ part ∈ components, IsPart part)
    (made : tree.makeAlong place components = (.ok (), later)) :
    ∃ target, later.walk place components = .ok target := by
  induction components generalizing tree place with
  | nil => exact ⟨place, rfl⟩
  | cons component others inductionHypothesis =>
      have keeps := (wellFormed.makeAlong "" place parts).2.keeps
      obtain ⟨isPart, partsLater⟩ := List.forall_mem_cons.mp parts
      rw [made] at keeps
      unfold FileTree.makeAlong at made
      split at made
      · cases made
      · cases made
      · rename_i next checked stepped
        have directory := checkDirectory_eq_ok_iff.mp checked
        have exists_walk (rest : ∃ target, later.walk next others = .ok target) :
            ∃ target, later.walk place (component :: others) = .ok target := by
          obtain ⟨target, walked⟩ := rest
          exact ⟨target, walk_cons_eq_ok_iff.mpr
            ⟨keeps.directories place directory, next, stepped, walked⟩⟩
        split at made
        · exact exists_walk (inductionHypothesis wellFormed partsLater made)
        · cases made
        · rename_i new
          obtain rfl := wellFormed.rooted.eq_append_of_step directory stepped new
          exact exists_walk (inductionHypothesis (wellFormed.set .directory directory
            (isPart.isName_of_step stepped) (by simp [new])) partsLater made)

/-- A directory that has been made is there. -/
theorem WellFormed.exists_resolve_of_ensureDirectory {tree later : FileTree}
    (wellFormed : WellFormed tree) {path : Path}
    (ensured : tree.ensureDirectory path = (.ok (), later)) :
    ∃ place, later.resolve path = .ok place := by
  have keeps := (wellFormed.ensureDirectory "" path).2.keeps
  rw [ensured] at keeps
  unfold FileTree.ensureDirectory at ensured
  split at ensured
  · rename_i contained
    cases ensured
    cases resolved : tree.resolve path with
    | ok place => exact ⟨place, rfl⟩
    | error fault =>
        simp [contains, status, resolved, bind, Except.bind, Except.isOk, Except.toBool] at contained
  · rcases made : tree.makeDirectories path with ⟨_ | _, files⟩ <;> rw [made] at ensured <;>
      cases ensured
    unfold makeDirectories at made
    split at made
    · cases made
    · rename_i fault
      have plain := (textFault?_eq_none_iff.mp fault).1
      obtain ⟨target, walked⟩ := wellFormed.exists_walk_of_makeAlong
        (fun part member => isPart_of_mem_components plain member) made
      refine ⟨target, resolve_eq_ok_iff.mpr ⟨fault, ?_⟩⟩
      rwa [startOf, keeps.workingDirectory]

/-! ## Files at the end of a path -/

/-- Whether the way of a path leads up only where it is there already. -/
def Anchored (tree : FileTree) (path : Path) : Prop :=
  ∃ first later middle, path.components = first ++ later ∧ ".." ∉ later ∧
    tree.walk (tree.startOf path) first = .ok middle

/-- A path that leads somewhere is anchored. -/
theorem anchored_of_resolve {tree : FileTree} {path : Path} {place : Place}
    (resolved : tree.resolve path = .ok place) : tree.Anchored path :=
  ⟨path.components, [], place, (List.append_nil _).symm, List.not_mem_nil,
    (resolve_eq_ok_iff.mp resolved).2⟩

/-- So is a path that never leads up again. -/
theorem anchored_of_not_mem {tree : FileTree} {path : Path} (down : ".." ∉ path.components) :
    tree.Anchored path :=
  ⟨[], path.components, _, rfl, down, rfl⟩

/-- A name below an anchored path is anchored. -/
theorem Anchored.join {tree : FileTree} {path : Path} (anchored : tree.Anchored path)
    {name : String} (isName : Path.IsName name) : tree.Anchored (path.join name) := by
  obtain ⟨first, later, middle, split, down, walked⟩ := anchored
  refine ⟨first, later ++ [name], middle, ?_, ?_, ?_⟩
  · rw [Path.components_join path isName.nonempty isName.noSlash, split, List.append_assoc]
  · simp [down, Ne.symm isName.notAbove]
  · rwa [startOf_join tree path isName.noSlash]

/-- A step that does not lead up leads down. -/
theorem prefix_of_step {place next : Place} {component : String} (down : component ≠ "..")
    (stepped : step place component = .ok next) : place <+: next := by
  rw [step, if_neg down] at stepped
  split at stepped
  · exact Except.ok.inj stepped ▸ List.prefix_rfl
  · split at stepped
    · cases stepped
    · exact Except.ok.inj stepped ▸ List.prefix_append ..

/-- A walk that never leads up ends below its start. -/
theorem prefix_of_walk {tree : FileTree} {place target : Place} {components : List String}
    (down : ".." ∉ components) (walked : tree.walk place components = .ok target) :
    place <+: target := by
  induction components generalizing place with
  | nil => exact Except.ok.inj walked ▸ List.prefix_rfl
  | cons component later inductionHypothesis =>
      obtain ⟨apart, downLater⟩ := not_or.mp (List.mem_cons.not.mp down)
      obtain ⟨_, next, stepped, walkedLater⟩ := walk_cons_eq_ok_iff.mp walked
      exact (prefix_of_step (Ne.symm apart) stepped).trans
        (inductionHypothesis downLater walkedLater)

/-- Where something stands already, everything on the way down to it is there. -/
theorem Rooted.walk_of_walk {before after : FileTree} (rooted : before.Rooted)
    {place target : Place} {components : List String} (down : ".." ∉ components)
    (walked : after.walk place components = .ok target) (stands : before.entryAt? target ≠ none)
    (plain : after.entryAt? target ≠ some .directory) :
    before.walk place components = .ok target := by
  induction components generalizing place with
  | nil => exact walked
  | cons component later inductionHypothesis =>
      have below := prefix_of_walk down walked
      obtain ⟨_, downLater⟩ := not_or.mp (List.mem_cons.not.mp down)
      obtain ⟨directory, next, stepped, walkedLater⟩ := walk_cons_eq_ok_iff.mp walked
      have apart : place ≠ target := by
        rintro rfl
        exact plain directory
      exact walk_cons_eq_ok_iff.mpr ⟨rooted.directory_of_prefix below apart stands, next, stepped,
        inductionHypothesis downLater walkedLater⟩

/-- A path that ends in another name than the one aside leads to the same files as before. -/
theorem Extends.status_eq_ok_iff {aside : String} {before after : FileTree}
    (extended : Extends aside before after) (rooted : before.Rooted) {path : Path} {name : String}
    (anchored : before.Anchored path) (isName : Path.IsName name) (apart : name ≠ aside)
    {place : Place} {content : ByteArray} :
    after.status (path.join name) = .ok (place, .file content) ↔
      before.status (path.join name) = .ok (place, .file content) := by
  have noSlash := (Path.isOpen_join path isName.nonempty isName.noSlash).noSlash
  have same {parent : Place} (directoryAfter : after.entryAt? (parent ++ [name]) =
      some (.file content) ∨ before.entryAt? (parent ++ [name]) = some (.file content)) :
      after.entryAt? (parent ++ [name]) = before.entryAt? (parent ++ [name]) := by
    obtain unchanged | ⟨new, made⟩ := extended.entryAt?_eq (parent ++ [name]) (by simpa using apart)
    · exact unchanged
    · rw [new, made] at directoryAfter
      obtain impossible | impossible := directoryAfter <;> cases impossible
  rw [FileTree.status_eq_ok_iff noSlash, FileTree.status_eq_ok_iff noSlash]
  constructor
  · rintro ⟨resolved, stands⟩
    obtain ⟨_, _, parent, _, _, rfl⟩ := (resolve_join_eq_ok_iff isName).mp resolved
    have standsBefore := (same (.inl stands)).symm.trans stands
    refine ⟨?_, standsBefore⟩
    obtain ⟨fault, walked⟩ := resolve_eq_ok_iff.mp resolved
    obtain ⟨first, later, middle, split, down, reached⟩ := anchored.join isName
    have start : after.startOf (path.join name) = before.startOf (path.join name) := by
      rw [startOf, startOf, extended.keeps.workingDirectory]
    rw [start, split, walk_append_eq_ok_iff] at walked
    obtain ⟨middleAfter, reachedAfter, walkedLater⟩ := walked
    obtain rfl := Except.ok.inj ((extended.keeps.walk_eq_ok reached).symm.trans reachedAfter)
    rw [resolve_eq_ok_iff, split, walk_append_eq_ok_iff]
    exact ⟨fault, middle, reached, rooted.walk_of_walk down walkedLater (by simp [standsBefore])
      (by simp [stands])⟩
  · rintro ⟨resolved, stands⟩
    obtain ⟨_, _, parent, _, _, rfl⟩ := (resolve_join_eq_ok_iff isName).mp resolved
    exact ⟨extended.keeps.resolve_eq_ok resolved, (same (.inr stands)).trans stands⟩

end FileTree

end ContractAtlas
