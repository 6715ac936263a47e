import ContractAtlas.CommandLine.Crawling
import ContractAtlas.CommandLine.Graphing
import ContractAtlas.CommandLine.Mapping

/-!
# Running commands

A command works in the data directory that it is given, which is made first if need be.
-/

namespace ContractAtlas.CommandLine

/-- The port that a text writes. -/
def port? (text : String) : Option Nat :=
  (number? text).filter (· < Nat.pow 2 16)

/-- The host and port of a text, which the last colon separates. -/
def bindAddress (text : String) : Except BindFault (String × Nat) :=
  let reversed := text.toList.reverse
  let port := (reversed.takeWhile (· != ':')).reverse
  match reversed.dropWhile (· != ':') with
  | [] => .error .notAnAddress
  | _ :: host =>
      match port? (String.ofList port) with
      | some port => .ok (String.ofList host.reverse, port)
      | none => .error .portOutOfRange

variable {m : Type -> Type} [Monad m]

/-- Serves the sessions of a data directory. -/
def server (surroundings : Surroundings m) (directory : DataDirectory) (bind : String)
    (files : FileTree) : m Outcome :=
  let (_, store) := openStore directory files
  match bindAddress bind with
  | .error fault => return .failed (.bind fault) store.files
  | .ok (host, port) => do
      let fault <- surroundings.serve host port store
      return { fault, files := store.files }

/-- Carries out a command in a data directory. -/
def Command.run (surroundings : Surroundings m) (directory : DataDirectory) (files : FileTree) :
    Command -> m Outcome
  | .crawl arguments => CommandLine.crawl surroundings directory arguments files
  | .map arguments => CommandLine.map surroundings directory arguments files
  | .graph arguments => return CommandLine.graph directory arguments files
  | .index => return CommandLine.index directory (<- surroundings.now) files
  | .list header => return CommandLine.list ⟨directory, .substring, files⟩ header
  | .server bind => CommandLine.server surroundings directory bind files

/-- The data directory of an invocation, made in the files, where `absent` is the root if none is
given. -/
def Invocation.prepare (invocation : Invocation) (absent : Path) (files : FileTree) :
    Except AtlasError DataDirectory × FileTree :=
  let directory := DataDirectory.mk ((invocation.dataDirectory.map Path.mk).getD absent)
  match directory.ensure files with
  | (.ok (), files) => (.ok directory, files)
  | (.error failed, files) => (.error (.store (.directoryNotMade failed)), files)

end ContractAtlas.CommandLine
