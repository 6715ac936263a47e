import ContractAtlas.CommandLine.Run
import ContractAtlas.Web.Message
import Std.Async.DNS
import Std.Async.Signal
import Std.Async.TCP
import Std.Async.Timer

/-!
# The program

Carries out the command that the arguments describe, on the files of the disk and over the network.
Before a command the part of the disk that it may touch is read into a file tree, and afterwards the
differences are written back. While a crawl waits for the service, the differences are written and
the tree is read anew, so that both see each other's files. Only plain connections are made; a
server that asks for encryption is one that does not answer.
-/

namespace ContractAtlas.Program

open CommandLine Std.Async Std.Net

/-! ## The disk -/

/-- The text of the absolute path of a place. -/
def textOf (place : Place) : String :=
  "/" ++ "/".intercalate place

/-- What stands at a place on the disk. -/
def entryOnDisk? (place : Place) : IO (Option Entry) := do
  let path := (<- IO.currentDir) / textOf place
  if <- path.isDir then return some .directory
  else if <- path.pathExists then return some (.file (<- IO.FS.readBinFile path))
  else return none

/-- The names in a directory of the disk, none if it cannot be read. -/
def namesOnDisk (place : Place) : IO (List String) := do
  let path := (<- IO.currentDir) / textOf place
  try
    return (<- path.readDir).toList.map fun entry => entry.fileName
  catch _ => return []

/-- The tree with what stands on the disk along the way to a place. -/
def withPlace (tree : FileTree) (place : Place) : IO FileTree :=
  (List.range place.length).foldlM (fun tree length => do
    let reached := place.take (length + 1)
    if (tree.entryAt? reached).isSome then return tree
    else
      match <- entryOnDisk? reached with
      | some entry => return tree.set reached entry
      | none => return tree) tree

/-- The place of a path, dots taken as names. -/
def placeOf (tree : FileTree) (path : Path) : Place :=
  tree.startOf path ++ path.components

/-- What a command may touch: a data directory, and a file that it is to write. -/
structure Scope where
  directory : DataDirectory
  output : Option Path

/-- The part of the disk that a command may touch. -/
def readDisk (scope : Scope) : IO FileTree := do
  let here := Path.components ⟨(<- IO.currentDir).toString⟩
  let start <- withPlace { workingDirectory := here } here
  let directory := scope.directory
  let fixed := [directory.sessions, directory.logs, directory.addressIndex,
    directory.failureLedger, directory.settings] ++ scope.output.toList
  let tree <- (fixed.map (placeOf start)).foldlM withPlace start
  let names <- namesOnDisk (placeOf start directory.sessions)
  names.foldlM (fun tree name =>
    withPlace tree (placeOf start ((directory.session name).join documentName))) tree

/-- Writes a file beside its place and moves it there, so that no reader sees half of it. -/
def replaceFile (place : Place) (content : ByteArray) : IO Unit := do
  let staging := textOf place ++ ".part"
  IO.FS.writeBinFile staging content
  IO.FS.rename staging (textOf place)

/-- Writes the differences between two trees to the disk. -/
def writeDisk (before after : FileTree) : IO Unit := do
  for (place, entry) in after.entries do
    if !(before.entryAt? place).any entry.isSame then
      match entry with
      | .directory => IO.FS.createDirAll (textOf place)
      | .file content => replaceFile place content

/-! ## The network -/

/-- The address of a host and a port. -/
def socketAddress (host : String) (port : Nat) : Async (Option SocketAddress) := do
  let plain := String.ofList (host.toList.filter fun character => !(['[', ']'].contains character))
  let port := UInt16.ofNat port
  let found <- DNS.getAddrInfo plain (toString port)
  return found[0]?.map fun address =>
    match address with
    | .v4 address => SocketAddress.v4 { addr := address, port }
    | .v6 address => SocketAddress.v6 { addr := address, port }

/-- The bytes that a connection brings until enough of them have come or it ends. -/
partial def receive (client : TCP.Socket.Client) (isEnough : List UInt8 -> Bool)
    (received : ByteArray) : Async ByteArray := do
  match <- client.recv? 65536 with
  | none => return received
  | some more =>
      let received := received ++ more
      if isEnough received.toList then return received else receive client isEnough received

/-- Sends a request and waits for the answer. -/
def talk (request : Web.ServerRequest) : Async Web.Reply := do
  let host := request.url.host.getD ""
  match <- socketAddress host (request.url.port.getD 80) with
  | none => return .unanswered (Web.unsentReason request.url)
  | some address =>
      let client <- TCP.Socket.Client.mk
      client.connect address
      client.send (Web.Message.ofRequest request)
      let received <- receive client Web.Message.isWholeAnswer ByteArray.empty
      return Web.Message.reply request.url received.toList

/-- The longest time that a timer can measure, in milliseconds. -/
def longestWait : Nat := Nat.pow 2 62

/-- Carries a request to a server. -/
def transport : Web.Transport IO := fun request => do
  let unanswered : Web.Reply := .unanswered (Web.unsentReason request.url)
  if request.url.scheme != "http" then return unanswered
  let duration : Std.Time.Millisecond.Offset := .ofNat (min request.timeout longestWait)
  let answer : Async Web.Reply := do
    try talk request catch _ => return unanswered
  let tooLate : Async Web.Reply := do
    sleep duration
    return .timedOut (Web.unsentReason request.url)
  have : Inhabited Web.Reply := ⟨unanswered⟩
  (Async.race answer tooLate).block

/-- Whether the head of a request is complete. -/
def hasHead (bytes : List UInt8) : Bool :=
  (Web.Message.head? bytes).isSome

/-- Answers the request of one connection. -/
def answerClient (refresh : FileTree -> IO FileTree) (store : DirectoryStore)
    (client : TCP.Socket.Client) : Async Unit := do
  let received <- receive client hasHead ByteArray.empty
  match Web.Message.head? received.toList with
  | none => return
  | some (head, _) =>
      let files <- refresh store.files
      client.send (Web.Message.serve { store with files } head)
      client.shutdown

/-- Answers one connection after another until a signal to stop comes. -/
partial def serveClients (refresh : FileTree -> IO FileTree) (store : DirectoryStore)
    (server : TCP.Socket.Server) (stops : List Signal.Waiter) : Async Unit := do
  let stopCases := stops.toArray.map fun stop =>
    Selectable.case stop.selector fun _ => return (none : Option TCP.Socket.Client)
  let accepted := Selectable.case server.acceptSelector fun client => return some client
  match <- Selectable.one (stopCases.push accepted) with
  | none => return
  | some client =>
      background (try answerClient refresh store client catch _ => pure ())
      serveClients refresh store server stops

/-- Serves a store on a host and port until a signal to stop comes. -/
def serve (refresh : FileTree -> IO FileTree) (host : String) (port : Nat)
    (store : DirectoryStore) : IO (Option AtlasError) := do
  let serving : Async (Option AtlasError) := do
    match <- socketAddress host port with
    | none => return some (.bind (.unavailable "no address for the host"))
    | some address =>
        let server <- TCP.Socket.Server.mk
        server.bind address
        server.listen 128
        let stops <- [Signal.sigint, Signal.sigterm].mapM fun signal =>
          Signal.Waiter.mk signal false
        serveClients refresh store server stops
        return none
  try serving.block
  catch cause => return some (.bind (.unavailable (toString cause)))

/-! ## Commands -/

/-- The current moment. -/
def currentMoment : IO Timestamp := do
  let nanoseconds := (<- Std.Time.Timestamp.now).toNanosecondsSinceUnixEpoch.val
  return ⟨nanoseconds.fdiv 1000000000, (nanoseconds.fmod 1000000000).toNat⟩

/-- The clock of the machine. -/
def machineClock : Crawl.Clock IO where
  now := IO.monoMsNow
  sleep duration := IO.sleep (UInt32.ofNat (min duration (Nat.pow 2 32 - 1)))

/-- The surroundings of a command, where `disk` holds the tree that the disk was last known to
have. -/
def surroundings (scope : Scope) (disk : IO.Ref FileTree) : Surroundings IO :=
  let refresh (files : FileTree) : IO FileTree := do
    writeDisk (<- disk.get) files
    let fresh <- readDisk scope
    disk.set fresh
    return fresh
  { transport
    now := currentMoment
    clock := machineClock
    refresh
    serve := serve refresh }

/-- The root of the data directory of a machine, which lies in the home directory. -/
def standardRoot? : IO (Option Path) := do
  return (<- IO.getEnv "HOME").map fun home => (DataDirectory.ofHome ⟨home⟩).root

/-- The file that a command is to write besides the data directory. -/
def outputOf : Command -> Option Path
  | .graph arguments => arguments.output.map Path.mk
  | _ => none

/-- Reports a failed command. -/
def report (fault : AtlasError) : IO UInt32 := do
  IO.eprintln ("Error: " ++ fault.message)
  return 1

/-- Carries out a command in the data directory with the given root. -/
def carryOut (invocation : Invocation) (root : Path) : IO UInt32 := do
  let scope : Scope := ⟨⟨root⟩, outputOf invocation.command⟩
  let disk <- IO.mkRef (<- readDisk scope)
  match invocation.prepare root (<- disk.get) with
  | (.error fault, files) =>
      writeDisk (<- disk.get) files
      report fault
  | (.ok directory, files) =>
      let outcome <- invocation.command.run (surroundings scope disk) directory files
      writeDisk (<- disk.get) outcome.files
      IO.print outcome.output
      match outcome.fault with
      | none => return 0
      | some fault => report fault

/-- The commands and their arguments. -/
def usage : String :=
  "Usage: contract-atlas [--data-dir DIR] [-v] COMMAND\n\n" ++
  "Commands:\n" ++
  "  crawl [TARGET] [-l LEVEL] [--dispatch-url URL] [--max-dispatches COUNT] [--json]\n" ++
  "  map (TARGET | --all) [--rpc-url URL] [--json]\n" ++
  "  graph [--exclude-zero] [--json] [--output FILE]\n" ++
  "  index\n" ++
  "  list [--header]\n" ++
  "  server [-b ADDRESS]\n"

/-- Answers arguments that describe no command. -/
def explain : UsageError -> IO UInt32
  | .displayHelp => do
      IO.print usage
      return 0
  | .displayVersion => do
      IO.println ("contract-atlas " ++ Web.Api.version)
      return 0
  | fault => do
      IO.eprint ("error: " ++ fault.name ++ "\n\n" ++ usage)
      return 2

end ContractAtlas.Program

/-- Carries out the command that the arguments describe. -/
def main (arguments : List String) : IO UInt32 := do
  match ContractAtlas.CommandLine.Invocation.ofArguments arguments with
  | .error fault => ContractAtlas.Program.explain fault
  | .ok invocation =>
      match invocation.dataDirectory with
      | some root => ContractAtlas.Program.carryOut invocation ⟨root⟩
      | none =>
          match <- ContractAtlas.Program.standardRoot? with
          | some root => ContractAtlas.Program.carryOut invocation root
          | none => ContractAtlas.Program.report (.store .homeUnknown)
