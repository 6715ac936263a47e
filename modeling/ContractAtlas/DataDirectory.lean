import ContractAtlas.Files.Tree

/-!
# The data directory

One directory holds everything that the library keeps: the session directories, the address index,
the ledger of failed dispatches, the settings and the logs. It is described by its root alone; the
places of its parts follow from it.
-/

namespace ContractAtlas

/-- A data directory, given by its root. -/
structure DataDirectory where
  root : Path
deriving DecidableEq, Repr

namespace DataDirectory

/-- The directory that holds the session directories. -/
def sessions (directory : DataDirectory) : Path :=
  directory.root.join "sessions"

/-- The file of the address index. -/
def addressIndex (directory : DataDirectory) : Path :=
  directory.root.join "address_index.json"

/-- The file of the ledger of failed dispatches. -/
def failureLedger (directory : DataDirectory) : Path :=
  directory.root.join "fails.jsonl"

/-- The file of the settings. -/
def settings (directory : DataDirectory) : Path :=
  directory.root.join "netmap.settings.json"

/-- The directory of the logs. -/
def logs (directory : DataDirectory) : Path :=
  directory.root.join "logs"

/-- The file of the server's log. -/
def logFile (directory : DataDirectory) : Path :=
  directory.logs.join "netmap.log"

/-- The directory of a session. -/
def session (directory : DataDirectory) (name : String) : Path :=
  directory.sessions.join name

/-- The data directory below a home directory. -/
def ofHome (home : Path) : DataDirectory :=
  ⟨home.join ".netmap"⟩

end DataDirectory

/-- Makes a directory unless something stands there already. A failure names the directory. -/
def FileTree.ensureDirectory (tree : FileTree) (path : Path) : Except Path Unit × FileTree :=
  if tree.contains path then (.ok (), tree)
  else
    let (made, tree) := tree.makeDirectories path
    (made.mapError fun _ => path, tree)

/-- Makes several directories, one after the other, up to the first failure. -/
def FileTree.ensureDirectories (tree : FileTree) : List Path -> Except Path Unit × FileTree
  | [] => (.ok (), tree)
  | path :: later =>
      match tree.ensureDirectory path with
      | (.ok (), tree) => tree.ensureDirectories later
      | (.error failed, tree) => (.error failed, tree)

/-- Makes the directories that a data directory consists of. -/
def DataDirectory.ensure (directory : DataDirectory) (tree : FileTree) :
    Except Path Unit × FileTree :=
  tree.ensureDirectories [directory.root, directory.sessions, directory.logs]

end ContractAtlas
