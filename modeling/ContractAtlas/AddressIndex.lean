import ContractAtlas.Json.Fields
import ContractAtlas.Json.Writer
import ContractAtlas.Store.Basic
import ContractAtlas.Timestamp

/-!
# The address index

The index names the document of every address that a store knows, for tools that do not want to
read directory names. It is made anew from the whole store and never updated in place, so it can lag
behind the store. Of several sessions with one address the last one in the order of the documents
stands in the index.
-/

namespace ContractAtlas

open Json

/-- An index from addresses to documents. -/
structure AddressIndex where
  generatedAt : Option Timestamp := none
  /-- The document of every checksummed address, in the order of these texts. -/
  entries : List (String × Path) := []

namespace AddressIndex

/-- The entry of a session, none if it has no key. -/
def entryAt? (found : Path × Session) : Option (String × Path) :=
  match found.2.key with
  | .ok key => some (key.checksummedAddress, found.1)
  | .error _ => none

/-- The index of a store, made at a moment. -/
def rebuild {σ : Type} [SessionStore σ] (store : σ) (now : Timestamp) :
    Except StoreError AddressIndex := do
  let sessions <- SessionStore.sessions store
  return ⟨some now, SortedFields.ofList (sessions.filterMap entryAt?)⟩

/-- The number of entries. -/
def size (index : AddressIndex) : Nat :=
  index.entries.length

/-- The document of an index. -/
def toJson (index : AddressIndex) : Json :=
  .object
    [("generated_at", Json.textOrNull (index.generatedAt.map Timestamp.render)),
     ("entries", .object (index.entries.map fun entry => (entry.1, .string entry.2.text)))]

/-- The text of an index. -/
def write (index : AddressIndex) : String :=
  Json.toPrettyText index.toJson

/-- A moment in an index. -/
def moment? (written : Written) : Option Timestamp := do
  Timestamp.parse? (<- written.text?)

/-- The documents in an index. -/
def entries? (written : Written) : Option (List (String × Path)) := do
  return (<- written.textFields?).map fun entry => (entry.1, ⟨entry.2⟩)

/-- The index of a written document, an object or an array of the two parts. -/
def ofWritten? : Written -> Option AddressIndex
  | .object fields => do
      let fields <- Written.namedFields? fields
      return {
        generatedAt := <- Written.field? fields ["generated_at"] none (Written.nullable? moment?)
        entries := <- Written.required? fields ["entries"] entries? }
  | .array [generatedAt, entries] => do
      return {
        generatedAt := <- Written.nullable? moment? generatedAt
        entries := <- entries? entries }
  | _ => none

/-- The index that a text denotes. -/
def read? (text : String) : Option AddressIndex := do
  ofWritten? (<- Written.read? text)

/-- The files with an index written to a path. -/
def save (index : AddressIndex) (files : FileTree) (path : Path) : Except StoreError FileTree :=
  (files.writeText path index.write).mapError .file

/-- The index in a file. -/
def load (files : FileTree) (path : Path) : Except StoreError AddressIndex := do
  let text <- (files.readText path).mapError .file
  match read? text with
  | some index => return index
  | none => throw .notADocument

end AddressIndex

end ContractAtlas
