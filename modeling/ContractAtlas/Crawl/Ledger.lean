import ContractAtlas.Crawl.Level
import ContractAtlas.Files.Tree
import ContractAtlas.Json.Fields
import ContractAtlas.Json.Writer
import ContractAtlas.Timestamp

/-!
# The failure ledger

Every failed request is recorded in a file to which lines are only ever added: one record a line, as
a compact document. Line ends inside a record are escaped by the document, so the lines of the file
are the records. Blank lines are passed over.
-/

namespace ContractAtlas.Crawl

open Json

/-- A failed request. -/
structure FailureRecord where
  timestamp : Timestamp
  route : Route
  payload : String
  error : String
deriving DecidableEq, Repr

namespace FailureRecord

/-- The document of a record. -/
def toJson (record : FailureRecord) : Json :=
  .object
    [("timestamp", .string record.timestamp.render), ("route", .string record.route.name),
     ("payload", .string record.payload), ("error", .string record.error)]

/-- A moment in a record. -/
def moment? (written : Written) : Option Timestamp := do
  Timestamp.parse? (<- written.text?)

/-- The record of a written document, an object or an array of the four parts. -/
def ofWritten? : Written -> Option FailureRecord
  | .object fields => do
      let fields <- Written.namedFields? fields
      return {
        timestamp := <- Written.required? fields ["timestamp"] moment?
        route := <- Written.required? fields ["route"] (Written.choice? Route.ofName?)
        payload := <- Written.required? fields ["payload"] Written.text?
        error := <- Written.required? fields ["error"] Written.text? }
  | .array [timestamp, route, payload, error] => do
      return {
        timestamp := <- moment? timestamp
        route := <- Written.choice? Route.ofName? route
        payload := <- payload.text?
        error := <- error.text? }
  | _ => none

/-- The record that a line denotes. -/
def read? (line : String) : Option FailureRecord := do
  ofWritten? (<- Written.read? line)

/-- The line of a record, with its line end. -/
def line (record : FailureRecord) : String :=
  record.toJson.toCompactText ++ "\n"

end FailureRecord

namespace Ledger

/-- The files with a record added to a ledger, which is made if there is none. -/
def append (files : FileTree) (path : Path) (record : FailureRecord) :
    Except FileError FileTree :=
  files.appendText path record.line

/-- The records of a ledger's text, oldest first. -/
def recordsOf (text : String) : Except AtlasError (List FailureRecord) :=
  let written := (Text.lines text).filter fun line => !(Text.trim line).isEmpty
  match written.mapM FailureRecord.read? with
  | some records => .ok records
  | none => .error .notADocument

/-- The records of a ledger, oldest first. A missing ledger has none. -/
def records (files : FileTree) (path : Path) : Except AtlasError (List FailureRecord) := do
  if files.contains path then
    recordsOf (<- (files.readText path).mapError .file)
  else return []

end Ledger

end ContractAtlas.Crawl
