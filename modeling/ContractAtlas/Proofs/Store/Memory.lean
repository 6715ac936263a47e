import ContractAtlas.Proofs.Store.Directories

/-!
# Documents of the store in memory

The path of a document leads back to its directory when the name of the directory ends in neither a
slash nor a dot, as every name does that ends in an address.
-/

namespace ContractAtlas

namespace Path

/-- A text ends plainly if its last character plays no part in how a path ends. -/
def EndsPlainly (text : String) : Prop :=
  ∃ last earlier, text.toList.reverse = last :: earlier ∧ last ≠ '/' ∧ last ≠ '.'

/-- A text that ends in neither a slash nor a dot stays as it is. -/
theorem trimEndReversed_of_plain {last : Char} {earlier : List Char} (slash : last ≠ '/')
    (dot : last ≠ '.') : trimEndReversed (last :: earlier) = last :: earlier := by
  unfold trimEndReversed
  split <;> simp_all

/-- A slash after such a text is taken off. -/
theorem trimEndReversed_slash {last : Char} {earlier : List Char} (slash : last ≠ '/')
    (dot : last ≠ '.') : trimEndReversed ('/' :: last :: earlier) = last :: earlier := by
  rw [trimEndReversed, trimEndReversed_of_plain slash dot]
  simp

/-- Trimming the end of a path once is enough. -/
theorem trimEndReversed_trimEndReversed (characters : List Char) :
    trimEndReversed (trimEndReversed characters) = trimEndReversed characters := by
  induction characters using trimEndReversed.induct with
  | case1 => simp [trimEndReversed]
  | case2 later notLast inductionHypothesis =>
      rw [trimEndReversed]
      · exact inductionHypothesis
      · exact notLast
  | case3 later inductionHypothesis =>
      rw [trimEndReversed]
      exact inductionHypothesis
  | case4 characters notRoot notSlash notDot =>
      have same : trimEndReversed characters = characters := by
        unfold trimEndReversed
        split
        · exact absurd rfl notRoot
        · exact absurd rfl (notSlash _)
        · exact absurd rfl (notDot _)
        · rfl
      rw [same, same]

/-- A slash after a trimmed text is taken off. -/
theorem trimEndReversed_cons_of_trimmed {characters : List Char} (nonempty : characters ≠ [])
    (trimmed : trimEndReversed characters = characters) :
    trimEndReversed ('/' :: characters) = characters := by
  rw [trimEndReversed]
  · exact trimmed
  · exact nonempty

end Path

/-- The display of a key ends in a digit of its address. -/
theorem SessionKey.endsPlainly_display (key : SessionKey) : Path.EndsPlainly key.display := by
  cases ends : key.address.checksumChars.reverse with
  | nil => exact absurd (congrArg List.length ends) (by simp)
  | cons last earlier =>
      have member : last ∈ key.address.checksumChars := by
        rw [← List.mem_reverse, ends]
        exact List.mem_cons_self ..
      obtain ⟨first, _, _⟩ := key.address.printable_of_mem_checksumChars member
      refine ⟨last, earlier ++ ':' :: key.network.toList.reverse, ?_, ?_, ?_⟩
      · simp [toList_display, ends]
      · rintro rfl
        exact absurd first (by decide)
      · rintro rfl
        exact absurd first (by decide)

namespace MemoryStore

/-- The path of a document is the name of its directory with that of the document after it. -/
theorem documentPath_eq {name : String} (plain : Path.EndsPlainly name) :
    documentPath name = ⟨name ++ "/" ++ documentName⟩ := by
  obtain ⟨last, earlier, ends, slash, _⟩ := plain
  have nonempty : name ≠ "" := by
    rintro rfl
    cases ends
  have relative : Path.isAbsolute ⟨documentName⟩ = false := by decide
  have inner : Path.endsInSlash ⟨name⟩ = false := by
    simpa [Path.endsInSlash, ← List.head?_reverse, ends] using slash
  simp [documentPath, Path.join, relative, inner, nonempty]

/-- The path of a document leads back to its directory. -/
theorem parent?_documentPath {name : String} (plain : Path.EndsPlainly name) :
    (documentPath name).parent? = some ⟨name⟩ := by
  obtain ⟨last, earlier, ends, slash, dot⟩ := id plain
  have file : documentName.toList.reverse = 'n' :: "osj.ataDnoisses".toList := by decide
  have reversed : (name ++ "/" ++ documentName).toList.reverse =
      'n' :: ("osj.ataDnoisses".toList ++ '/' :: last :: earlier) := by
    simp [ends, file]
  have directory : ('n' :: ("osj.ataDnoisses".toList ++ '/' :: last :: earlier)).dropWhile
      (· != '/') = '/' :: last :: earlier := by
    simp
  rw [documentPath_eq plain, Path.parent?, reversed,
    Path.trimEndReversed_of_plain (by decide) (by decide)]
  have back : String.ofList (last :: earlier).reverse = name := by simp [← ends]
  simpa [directory, Path.trimEndReversed_slash slash dot] using back

/-- The document of a directory is loaded as the session that the directory holds. -/
theorem load_documentPath {store : MemoryStore} {name : String} {session : Session}
    (plain : Path.EndsPlainly name)
    (held : Json.SortedFields.find? name store.directories = some (some session)) :
    store.load (documentPath name) = .ok session := by
  simp [load, parent?_documentPath plain, held]

/-- What stands before the name of the document in the path of a document, in reverse order. -/
def wayBack (name : String) : List Char :=
  if name = "" then []
  else if Path.endsInSlash ⟨name⟩ then name.toList.reverse
  else '/' :: name.toList.reverse

/-- Read backwards, the path of a document starts with the name of the document. -/
theorem reverse_toList_documentPath (name : String) :
    (documentPath name).text.toList.reverse = documentName.toList.reverse ++ wayBack name := by
  have relative : Path.isAbsolute ⟨documentName⟩ = false := by decide
  rw [documentPath, Path.join, relative, wayBack]
  by_cases empty : name = ""
  · simp [empty]
  · cases slash : Path.endsInSlash ⟨name⟩ <;> simp [empty]

/-- What comes then, if anything, is a slash. -/
theorem head?_wayBack (name : String) : ∀ first ∈ (wayBack name).head?, first = '/' := by
  intro first head
  rw [wayBack] at head
  split at head
  · cases head
  · split at head
    · rename_i slash
      rw [List.head?_reverse] at head
      exact Option.some.inj (head.symm.trans (of_decide_eq_true slash))
    · exact (Option.some.inj head).symm

/-- The path of a document leads back to what its directory is called up to slashes and dots at the
end. -/
theorem parent?_documentPath_eq (name : String) : (documentPath name).parent? =
    some ⟨String.ofList (Path.trimEndReversed (wayBack name)).reverse⟩ := by
  have file : documentName.toList.reverse = 'n' :: "osj.ataDnoisses".toList := by decide
  have dropped : ('n' :: "osj.ataDnoisses".toList ++ wayBack name).dropWhile (· != '/') =
      wayBack name := by
    have inFile : ('n' :: "osj.ataDnoisses".toList).dropWhile (· != '/') = [] := by decide
    rw [List.dropWhile_append, inFile]
    cases way : wayBack name with
    | nil => rfl
    | cons first later =>
        obtain rfl := head?_wayBack name first (by rw [way]; rfl)
        rfl
  rw [Path.parent?, reverse_toList_documentPath, file, List.cons_append,
    Path.trimEndReversed_of_plain (by decide) (by decide), ← List.cons_append]
  split
  · contradiction
  · rename_i root
    exact absurd (List.cons.inj root).1 (by decide)
  · rw [dropped]

/-- The directory that the path of a document leads to has a document that leads back to it. -/
theorem parent?_documentPath_of_parent? {name : String} {directory : Path}
    (parent : (documentPath name).parent? = some directory) :
    (documentPath directory.text).parent? = some directory := by
  rw [parent?_documentPath_eq] at parent
  obtain rfl := Option.some.inj parent
  generalize way : Path.trimEndReversed (wayBack name) = trimmed
  have once : Path.trimEndReversed trimmed = trimmed := by
    rw [← way, Path.trimEndReversed_trimEndReversed]
  have same : Path.trimEndReversed (wayBack (String.ofList trimmed.reverse)) = trimmed := by
    rw [wayBack]
    split
    · rename_i empty
      have none : trimmed = [] := by simpa using congrArg String.toList empty
      rw [none] at once ⊢
      exact once
    · rename_i nonempty
      have characters : trimmed ≠ [] := by
        rintro rfl
        exact nonempty rfl
      split
      · simpa using once
      · simpa using Path.trimEndReversed_cons_of_trimmed characters once
  rw [parent?_documentPath_eq, same]

end MemoryStore

end ContractAtlas
