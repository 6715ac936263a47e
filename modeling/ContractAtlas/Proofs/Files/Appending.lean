import ContractAtlas.Proofs.Files.Tree

/-!
# Files to which text is added

Adding text to a file either fails or leaves the file with the text at its end, and then more text
can be added (`appendText_of_appendable`). `appendable?` is what stands in a file that text can be
added to; a file that is yet to be made counts as empty, so a missing file and an empty one are not
told apart.
-/

namespace ContractAtlas.FileTree

variable {tree : FileTree} {path : Path}

/-- The content of a file that text can be added to, nothing if the file is yet to be made. -/
def appendable? (tree : FileTree) (path : Path) : Option ByteArray :=
  match tree.fileToWrite path with
  | .ok (_, content) => some (content.getD .empty)
  | .error _ => none

/-- A file can be written where a path leads, if no directory stands there and the path does not
insist on one. -/
theorem fileToWrite_eq_ok_iff {place : Place} {content : Option ByteArray} :
    tree.fileToWrite path = .ok (place, content) ↔
      path.endsInSlash = false ∧ tree.resolve path = .ok place ∧
        tree.entryAt? place = content.map Entry.file := by
  rw [fileToWrite]
  cases noSlash : path.endsInSlash with
  | true =>
      simp only [if_true, Bool.true_eq_false, false_and, iff_false]
      cases textFault? path with
      | some fault => simp
      | none =>
          cases walked : tree.walk (tree.startOf path) path.components.dropLast with
          | error fault => simp [bind, Except.bind]
          | ok parent =>
              cases checked : tree.checkDirectory parent with
              | error fault => simp [bind, Except.bind, checked]
              | ok _ => simp [bind, Except.bind, checked, throw, throwThe, MonadExceptOf.throw]
  | false =>
      simp only [Bool.false_eq_true, if_false, true_and]
      cases resolved : tree.resolve path with
      | error fault => simp [bind, Except.bind]
      | ok found =>
          simp only [bind, Except.bind, Except.ok.injEq]
          constructor
          · intro written
            split at written <;> cases written <;> exact ⟨rfl, ‹_›⟩
          · rintro ⟨rfl, stands⟩
            rw [stands]
            cases content <;> rfl

/-- A file can be appended to if the place of its path has a file with some content, or nothing yet.
-/
theorem appendable?_eq_some_iff {content : ByteArray} :
    tree.appendable? path = some content ↔
      path.endsInSlash = false ∧ ∃ (place : Place) (old : Option ByteArray),
        tree.resolve path = .ok place ∧ tree.entryAt? place = old.map Entry.file ∧
        content = old.getD .empty := by
  rw [appendable?]
  cases found : tree.fileToWrite path with
  | error fault =>
      simp only [reduceCtorEq, false_iff]
      rintro ⟨noSlash, place, old, resolved, stands, -⟩
      cases found.symm.trans (fileToWrite_eq_ok_iff.mpr ⟨noSlash, resolved, stands⟩)
  | ok target =>
      obtain ⟨noSlash, resolved, stands⟩ := fileToWrite_eq_ok_iff.mp found
      constructor
      · rintro ⟨⟩
        exact ⟨noSlash, target.1, target.2, resolved, stands, rfl⟩
      · rintro ⟨_, place, old, resolved, stands, rfl⟩
        cases found.symm.trans (fileToWrite_eq_ok_iff.mpr ⟨noSlash, resolved, stands⟩)
        rfl

/-- Text that is added to a file stands at its end, and more can be added. -/
theorem appendText_of_appendable {content : ByteArray}
    (writable : tree.appendable? path = some content) (text : String) :
    ∃ after, tree.appendText path text = .ok after ∧
      after.appendable? path = some (content ++ text.toUTF8) := by
  obtain ⟨noSlash, place, old, resolved, stands, rfl⟩ := appendable?_eq_some_iff.mp writable
  have found := fileToWrite_eq_ok_iff.mpr ⟨noSlash, resolved, stands⟩
  have plain : tree.entryAt? place ≠ some .directory := by
    rw [stands]
    cases old <;> simp
  have below := ne_nil_of_not_directory plain
  refine ⟨tree.set place (.file (old.getD .empty ++ text.toUTF8)), ?_, ?_⟩
  · simp [appendText, found, bind, Except.bind, pure, Except.pure]
  · refine appendable?_eq_some_iff.mpr ⟨noSlash, place, some (old.getD .empty ++ text.toUTF8),
      (KeepsDirectories.set _ plain).resolve_eq_ok resolved, ?_, rfl⟩
    rw [entryAt?_set, if_neg below, if_pos rfl, Option.map_some]

/-- Text can be added to a file only if it can be written. -/
theorem appendText_eq_error (closed : tree.appendable? path = none) (text : String) :
    ∃ fault, tree.appendText path text = .error fault := by
  rw [appendable?] at closed
  cases found : tree.fileToWrite path with
  | ok target => rw [found] at closed; cases closed
  | error fault => exact ⟨fault, by simp [appendText, found, bind, Except.bind]⟩

/-- No file stands at the end of a path that ends in a slash. -/
theorem noSlash_of_status {place : Place} {content : ByteArray}
    (found : tree.status path = .ok (place, .file content)) : path.endsInSlash = false := by
  rw [status] at found
  cases resolved : tree.resolve path with
  | error fault => simp [resolved, bind, Except.bind] at found
  | ok place =>
      simp only [resolved, bind, Except.bind] at found
      split at found
      · cases found
      · cases found
      · split at found
        · cases found
        · rename_i noSlash
          exact Bool.eq_false_iff.mpr noSlash

/-- Text can be added wherever a text can be read. -/
theorem appendable?_of_readText {text : String} (read : tree.readText path = .ok text) :
    tree.appendable? path = some text.toUTF8 := by
  obtain ⟨place, content, found, same⟩ : ∃ place content,
      tree.status path = .ok (place, .file content) ∧ content = text.toUTF8 := by
    rcases found : tree.status path with fault | ⟨place, _ | content⟩
    · simp [readText, readBytes, found, bind, Except.bind] at read
    · simp [readText, readBytes, found, bind, Except.bind, throw, throwThe,
        MonadExceptOf.throw] at read
    · refine ⟨place, content, rfl, ?_⟩
      simp only [readText, readBytes, found, bind, Except.bind, pure, Except.pure] at read
      split at read
      · rename_i decoded isText
        cases read
        rw [String.fromUTF8?] at isText
        split at isText <;> cases isText
        rfl
      · cases read
  have noSlash := noSlash_of_status found
  obtain ⟨resolved, stands⟩ := (status_eq_ok_iff noSlash).mp found
  exact appendable?_eq_some_iff.mpr ⟨noSlash, place, some content, resolved, stands, same.symm⟩

/-- What does not stand in a file yet is nothing, if it is a file at all. -/
theorem appendable?_of_absent {content : ByteArray} (absent : tree.contains path = false)
    (writable : tree.appendable? path = some content) : content = .empty := by
  obtain ⟨noSlash, place, old, resolved, stands, rfl⟩ := appendable?_eq_some_iff.mp writable
  cases old with
  | none => rfl
  | some bytes =>
      exact absurd (contains_eq_true noSlash resolved stands) (Bool.eq_false_iff.mp absent)

/-- The text of a file that text can be added to can be read, once there is a file. -/
theorem readText_of_appendable {text : String} (present : tree.contains path = true)
    (writable : tree.appendable? path = some text.toUTF8) : tree.readText path = .ok text := by
  obtain ⟨noSlash, place, old, resolved, stands, same⟩ := appendable?_eq_some_iff.mp writable
  cases old with
  | none =>
      exact absurd present (Bool.eq_false_iff.mp (contains_eq_false resolved stands))
  | some bytes =>
      exact readText_of_entry noSlash resolved (by rw [same]; exact stands)

end ContractAtlas.FileTree
