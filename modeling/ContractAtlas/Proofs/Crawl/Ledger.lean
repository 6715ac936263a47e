import ContractAtlas.Crawl.Ledger
import ContractAtlas.Proofs.Files.Appending
import ContractAtlas.Proofs.Json.CompactText
import ContractAtlas.Proofs.Json.Fields
import ContractAtlas.Proofs.Text.Trimming

/-!
# The failure ledger is lossless

Records that are added to an empty ledger are read back, one by one and in order, whatever texts
they contain (`records_of_appended`). Two conventions have to agree for that. A record is one line:
its document is written without control characters, so neither a line feed nor a carriage return of
a payload or of an error can end a line. And no record reads as blank, because a document starts
with a brace. What the moments of the records look like is the only thing that is taken for granted.
-/

namespace ContractAtlas.Crawl

open Json Text

namespace FailureRecord

/-- Whether the moment of a record is read back as it was written. -/
def HasFaithfulMoment (record : FailureRecord) : Prop :=
  Timestamp.parse? record.timestamp.render = some record.timestamp

/-- A route can be told from its name. -/
theorem ofName?_name (route : Route) : Route.ofName? route.name = some route := by
  cases route <;> rfl

/-- The document of a record says what the record is. -/
theorem ofWritten?_toJson {record : FailureRecord} (faithful : record.HasFaithfulMoment) :
    ofWritten? record.toJson.written = some record := by
  rw [HasFaithfulMoment] at faithful
  have moment : moment? (.string (some record.timestamp.render)) = some record.timestamp := by
    simp only [moment?, Written.text?, bind, Option.bind, faithful]
  have named (fields : List (String × Json)) :
      Written.namedFields? (writtenFields fields) = some (writtenByName fields) :=
    Written.object?_written fields
  rw [toJson, Json.written, ofWritten?, named]
  simp [writtenByName, Written.required?, Written.single?, Json.written, Written.text?,
    Written.choice?, moment, ofName?_name]

/-- The line of a record denotes the record. -/
theorem read?_toCompactText {record : FailureRecord} (faithful : record.HasFaithfulMoment) :
    read? record.toJson.toCompactText = some record := by
  have integers : ∀ number ∈ record.toJson.numbers, number.IsInteger := by
    simp [toJson, numbers, fieldNumbers]
  simp only [read?, Written.read?_toCompactText integers, bind, Option.bind,
    ofWritten?_toJson faithful]

/-- The line of a record is in braces, so it is not blank. -/
theorem trim_toCompactText_ne_empty (record : FailureRecord) :
    trim record.toJson.toCompactText ≠ "" := by
  obtain ⟨inside, split⟩ :
      ∃ inside, compact record.toJson = '\x7b' :: inside ++ ['\x7d'] := ⟨_, rfl⟩
  have unpadded : trimChars (compact record.toJson) = compact record.toJson := by
    rw [split]
    apply trimChars_eq_self
    · rintro _ ⟨⟩
      exact isBlank_of_printable (by decide) (by decide)
    · intro last isLast
      obtain rfl : '\x7d' = last := by
        rw [List.getLast?_append, List.getLast?_singleton] at isLast
        exact Option.some.inj isLast
      exact isBlank_of_printable (by decide) (by decide)
  intro blank
  have empty := congrArg String.toList blank
  rw [toList_trim, toCompactText, String.toList_ofList, unpadded, split] at empty
  cases empty

end FailureRecord

namespace Ledger

/-- The text of a ledger with some records. -/
def textOf : List FailureRecord → String
  | [] => ""
  | record :: later => record.line ++ textOf later

/-- The text of some records is the text of the first ones and of the rest. -/
theorem textOf_append (first second : List FailureRecord) :
    textOf (first ++ second) = textOf first ++ textOf second := by
  induction first with
  | nil => simp [textOf]
  | cons record later inductionHypothesis => simp [textOf, inductionHypothesis, String.append_assoc]

/-- The line feeds of a ledger are those at the ends of its records. -/
theorem splitAllChars_textOf (records : List FailureRecord) :
    splitAllChars '\n' (textOf records).toList =
      records.map (fun record => compact record.toJson) ++ [[]] := by
  induction records with
  | nil => rfl
  | cons record later inductionHypothesis =>
      have whole : '\n' ∉ compact record.toJson := (visible_compact _).notMem (by decide)
      have split : (textOf (record :: later)).toList =
          compact record.toJson ++ '\n' :: (textOf later).toList := by
        simp [textOf, FailureRecord.line, toCompactText]
      rw [split, splitAllChars_append, splitAllChars_of_not_mem whole, inductionHypothesis]
      rfl

/-- The lines of a ledger are its records. -/
theorem lines_textOf (records : List FailureRecord) :
    lines (textOf records) = records.map fun record => record.toJson.toCompactText := by
  have unreturned : ∀ record ∈ records, (compact record.toJson).getLast? ≠ some '\r' := by
    intro record _ returned
    exact (visible_compact record.toJson).notMem (by decide) (List.mem_of_getLast? returned)
  rw [lines, splitAllChars_textOf, List.dropLast_concat, List.getLast?_concat]
  simp only [Option.getD_some, List.isEmpty_nil, if_true, List.map_map]
  refine List.map_congr_left fun record member => ?_
  simp [unreturned record member, toCompactText]

/-- The records are read back from their text, if a timestamp can hold their moments. -/
theorem recordsOf_textOf {records : List FailureRecord}
    (faithful : ∀ record ∈ records, record.HasFaithfulMoment) :
    recordsOf (textOf records) = .ok records := by
  have written : ((records.map fun record => record.toJson.toCompactText).filter fun line =>
      !(trim line).isEmpty) = records.map fun record => record.toJson.toCompactText := by
    refine List.filter_eq_self.mpr fun line member => ?_
    obtain ⟨record, _, rfl⟩ := List.mem_map.mp member
    simpa using record.trim_toCompactText_ne_empty
  have read : (records.map fun record => record.toJson.toCompactText).mapM FailureRecord.read? =
      some records :=
    mapM_eq_some_iff.mpr <| List.forall₂_map_left_iff.mpr <|
      List.forall₂_same.mpr fun record member =>
        FailureRecord.read?_toCompactText (faithful record member)
  rw [recordsOf, lines_textOf, written, read]

/-- The records of a file that text can be added to are those of its text, whether there is a file
yet or not. -/
theorem records_of_appendable {files : FileTree} {path : Path} {text : String}
    (writable : files.appendable? path = some text.toUTF8) :
    records files path = recordsOf text := by
  cases present : files.contains path with
  | true =>
      simp [records, present, FileTree.readText_of_appendable present writable, Except.mapError,
        bind, Except.bind]
  | false =>
      have empty : text.toUTF8 = "".toUTF8 := FileTree.appendable?_of_absent present writable
      obtain rfl := String.toByteArray_inj.mp empty
      rw [records, present]
      rfl

/-- What stands in a missing or empty file is nothing. -/
theorem appendable?_of_fresh {files : FileTree} {path : Path} {content : ByteArray}
    (fresh : files.contains path = false ∨ files.readText path = .ok "")
    (writable : files.appendable? path = some content) : content = .empty := by
  obtain missing | empty := fresh
  · exact FileTree.appendable?_of_absent missing writable
  · exact Option.some.inj (writable.symm.trans (FileTree.appendable?_of_readText empty))

/-- A missing or empty ledger has no records. -/
theorem records_of_fresh {files : FileTree} {path : Path}
    (fresh : files.contains path = false ∨ files.readText path = .ok "") :
    records files path = .ok [] := by
  obtain missing | empty := fresh
  · rw [records, missing]
    rfl
  · exact records_of_appendable (FileTree.appendable?_of_readText empty)

/-- Adds records to a ledger, one by one. -/
def appendAll (files : FileTree) (path : Path) (records : List FailureRecord) :
    Except FileError FileTree :=
  records.foldlM (fun files record => append files path record) files

/-- Records that are added to a file stand at its end. -/
theorem appendAll_of_appendable {files : FileTree} {path : Path} {content : ByteArray}
    (writable : files.appendable? path = some content) (records : List FailureRecord) :
    ∃ after, appendAll files path records = .ok after ∧
      after.appendable? path = some (content ++ (textOf records).toUTF8) := by
  induction records generalizing files content with
  | nil => exact ⟨files, rfl, by simpa [textOf] using writable⟩
  | cons record later inductionHypothesis =>
      obtain ⟨next, appended, written⟩ := FileTree.appendText_of_appendable writable record.line
      obtain ⟨after, rest, final⟩ := inductionHypothesis written
      refine ⟨after, ?_, ?_⟩
      · rw [appendAll, List.foldlM_cons, append, appended]
        exact rest
      · rw [final, textOf, ByteArray.append_assoc]
        simp

/-- Records that are added to a missing or empty ledger are all that it has afterwards, in the order
in which they were added, whatever texts they contain. They can be added if the ledger can be
written at all. -/
theorem records_of_appended {files : FileTree} {path : Path} {records : List FailureRecord}
    (faithful : ∀ record ∈ records, record.HasFaithfulMoment)
    (fresh : files.contains path = false ∨ files.readText path = .ok "") :
    (∀ after, appendAll files path records = .ok after →
      Ledger.records after path = .ok records) ∧
    (∀ target, files.fileToWrite path = .ok target →
      ∃ after, appendAll files path records = .ok after) := by
  constructor
  · intro after appended
    cases writable : files.appendable? path with
    | none =>
        cases records with
        | nil =>
            cases appended
            exact records_of_fresh fresh
        | cons record later =>
            obtain ⟨fault, closed⟩ := FileTree.appendText_eq_error writable record.line
            rw [appendAll, List.foldlM_cons, append, closed] at appended
            cases appended
    | some content =>
        obtain rfl := appendable?_of_fresh fresh writable
        obtain ⟨_, same, written⟩ := appendAll_of_appendable writable records
        cases appended.symm.trans same
        rw [records_of_appendable (by simpa using written), recordsOf_textOf faithful]
  · intro target found
    have writable : files.appendable? path = some (target.2.getD .empty) := by
      rw [FileTree.appendable?, found]
    obtain ⟨after, appended, _⟩ := appendAll_of_appendable writable records
    exact ⟨after, appended⟩

/-- Two records whose texts have line ends, quotes, backslashes, control characters and other line
separators than the line feed. -/
theorem records_of_appended_lineEnds :
    let records : List FailureRecord :=
      [⟨⟨0, 0⟩, .full, "mainet:\"0x\\\n\"", "HTTP 500:\r\n\u2028line\n\n"⟩,
       ⟨⟨1754000000, 5000⟩, .lightweight, "\r", "\x00\x1f\u0085é\r"⟩]
    ∃ after, appendAll { } ⟨"fails.jsonl"⟩ records = .ok after ∧
      Ledger.records after ⟨"fails.jsonl"⟩ = .ok records := by
  intro records
  have faithful : ∀ record ∈ records, record.HasFaithfulMoment := by
    simp only [records, List.forall_mem_cons, FailureRecord.HasFaithfulMoment]
    exact ⟨by decide, by decide, List.forall_mem_nil _⟩
  have missing : FileTree.contains { } ⟨"fails.jsonl"⟩ = false := by decide
  obtain ⟨readBack, possible⟩ := records_of_appended faithful (.inl missing)
  have writable : FileTree.fileToWrite { } ⟨"fails.jsonl"⟩ = .ok (["fails.jsonl"], none) :=
    FileTree.fileToWrite_eq_ok_iff.mpr ⟨by decide, by decide, rfl⟩
  obtain ⟨after, appended⟩ := possible _ writable
  exact ⟨after, appended, readBack after appended⟩

end Ledger

end ContractAtlas.Crawl
