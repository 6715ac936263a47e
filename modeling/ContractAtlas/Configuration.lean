import ContractAtlas.DataDirectory
import ContractAtlas.Json.Fields
import ContractAtlas.Json.Writer
import ContractAtlas.Store.KeyMatch

/-!
# Configuration

The settings say where the contract node and the analysis service are, how long to wait for them,
how often to call the service, and how queries match directories. A file that cannot be read, or
that does not hold settings, counts as one with the default settings, so reading never fails.
-/

namespace ContractAtlas

open Json

/-- The settings. -/
structure Configuration where
  nodeUrl : String := "https://eth.llamarpc.com"
  serviceUrl : String := "http://127.0.0.1:5000"
  dispatchesPerWindow : Nat := 5
  windowMilliseconds : Nat := 1000
  nodeTimeoutSeconds : Nat := 10
  serviceTimeoutSeconds : Nat := 600
  keyMatch : KeyMatch := .substring
deriving DecidableEq, Repr

namespace Configuration

/-- How long to wait for the node, in milliseconds. -/
def nodeTimeout (configuration : Configuration) : Nat :=
  configuration.nodeTimeoutSeconds * 1000

/-- How long to wait for the service, in milliseconds. -/
def serviceTimeout (configuration : Configuration) : Nat :=
  configuration.serviceTimeoutSeconds * 1000

/-- The document of the settings. -/
def toJson (configuration : Configuration) : Json :=
  .object
    [("rpc_url", .string configuration.nodeUrl),
     ("dispatch_url", .string configuration.serviceUrl),
     ("max_dispatches_per_window", .nat configuration.dispatchesPerWindow),
     ("dispatch_window_ms", .nat configuration.windowMilliseconds),
     ("rpc_timeout_secs", .nat configuration.nodeTimeoutSeconds),
     ("dispatch_timeout_secs", .nat configuration.serviceTimeoutSeconds),
     ("key_match", .string configuration.keyMatch.name)]

/-- The text of the settings. -/
def write (configuration : Configuration) : String :=
  Json.toPrettyText configuration.toJson

/-- The settings whose parts are found by name or position, a missing part taking its default. -/
def ofParts? (part : String -> Nat -> Option (Option Written)) : Option Configuration := do
  let text (name : String) (position : Nat) (absent : String) : Option String := do
    Written.optional? absent Written.text? (<- part name position)
  let number (name : String) (position : Nat) (absent : Nat) : Option Nat := do
    Written.optional? absent Written.nat? (<- part name position)
  let absent : Configuration := {}
  return {
    nodeUrl := <- text "rpc_url" 0 absent.nodeUrl
    serviceUrl := <- text "dispatch_url" 1 absent.serviceUrl
    dispatchesPerWindow := <- number "max_dispatches_per_window" 2 absent.dispatchesPerWindow
    windowMilliseconds := <- number "dispatch_window_ms" 3 absent.windowMilliseconds
    nodeTimeoutSeconds := <- number "rpc_timeout_secs" 4 absent.nodeTimeoutSeconds
    serviceTimeoutSeconds := <- number "dispatch_timeout_secs" 5 absent.serviceTimeoutSeconds
    keyMatch := <- Written.optional? absent.keyMatch (Written.choice? KeyMatch.ofName?)
      (<- part "key_match" 6) }

/-- The settings of a written document: an object, whose unknown fields are ignored, or an array of
the parts in declared order. -/
def ofWritten? : Written -> Option Configuration
  | .object fields => do
      let fields <- Written.namedFields? fields
      ofParts? fun name _ => Written.single? [name] fields
  | .array items =>
      if 7 < items.length then none else ofParts? fun _ position => some items[position]?
  | _ => none

/-- The settings that a text denotes. -/
def read? (text : String) : Option Configuration := do
  ofWritten? (<- Written.read? text)

/-- The settings in a file, the default ones if it holds none. -/
def load (files : FileTree) (path : Path) : Configuration :=
  match files.readText path with
  | .ok text => (read? text).getD {}
  | .error _ => {}

/-- The files with the settings written to a path. -/
def save (configuration : Configuration) (files : FileTree) (path : Path) :
    Except FileError FileTree :=
  files.writeText path configuration.write

/-- The settings of a data directory. A missing file is made with the default ones if that is
possible. -/
def loadOrCreate (files : FileTree) (directory : DataDirectory) : Configuration × FileTree :=
  let path := directory.settings
  if files.contains path then (load files path, files)
  else
    match save {} files path with
    | .ok files => ({}, files)
    | .error _ => ({}, files)

end Configuration

end ContractAtlas
