import ContractAtlas.Crawl.RateLimiter
import ContractAtlas.Store.Directory
import ContractAtlas.Timestamp
import ContractAtlas.Web.Exchange
import ContractAtlas.Error

/-!
# Outcomes

A command prints a text, may fail, and leaves the files as they are afterwards. What it prints
before it fails stays printed. What it needs from outside of the files is a parameter in any monad.
-/

namespace ContractAtlas.CommandLine

/-- What comes of a command. -/
structure Outcome where
  output : String := ""
  fault : Option AtlasError := none
  files : FileTree

namespace Outcome

/-- The text of lines, each with its line end. -/
def linesText (lines : List String) : String :=
  String.join (lines.map (· ++ "\n"))

/-- A command that printed lines. -/
def printed (lines : List String) (files : FileTree) : Outcome :=
  { output := linesText lines, files }

/-- A command that failed before it printed anything. -/
def failed (fault : AtlasError) (files : FileTree) : Outcome :=
  { fault := some fault, files }

end Outcome

/-- What commands need from outside of the files. -/
structure Surroundings (m : Type -> Type) where
  transport : Web.Transport m
  /-- The current moment, for records. -/
  now : m Timestamp
  /-- The clock of the rate limiter, in milliseconds. -/
  clock : Crawl.Clock m
  /-- The files after others may have worked on them. -/
  refresh : FileTree -> m FileTree
  /-- Serves a store on a host and port until it is told to stop. -/
  serve : String -> Nat -> DirectoryStore -> m (Option AtlasError)

end ContractAtlas.CommandLine
