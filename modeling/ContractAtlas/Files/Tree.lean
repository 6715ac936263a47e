import ContractAtlas.Files.Path

/-!
# File trees

A file tree is a table of its files and directories by place, where a place is the list of names
that leads to it from the root. The root is always a directory. A path is resolved name by name:
every name but the last must lead to a directory, one dot stays, two dots go up. Reads and single
writes fail without a change. Only the creation of a whole directory path may stop half way, and
then keeps the directories that it has made.

Names are bytes. Those that are no text are kept apart (`rawEntries`): paths are texts and never
lead to them, so that only the listing of a directory comes upon them. There are no links, neither
to files nor to directories, and everything may be read and written: states of a disk with links or
with rights taken away are outside this model.
-/

namespace ContractAtlas

open Text

/-- Why an operation on a file tree fails. -/
inductive FileError where
  | notFound
  | alreadyExists
  | notADirectory
  | isADirectory
  | nameTooLong
  | nulInPath
  | notText
deriving DecidableEq, Repr

/-- The wording of a failure. -/
def FileError.message : FileError -> String
  | .notFound => "No such file or directory (os error 2)"
  | .alreadyExists => "File exists (os error 17)"
  | .notADirectory => "Not a directory (os error 20)"
  | .isADirectory => "Is a directory (os error 21)"
  | .nameTooLong => "File name too long (os error 36)"
  | .nulInPath => "file name contained an unexpected NUL byte"
  | .notText => "stream did not contain valid UTF-8"

/-- What stands at a place. -/
inductive Entry where
  | directory
  | file (content : ByteArray)

/-- Whether a directory stands there. -/
def Entry.isDirectory : Entry -> Bool
  | .directory => true
  | .file _ => false

/-- Whether the same stands at two places. -/
def Entry.isSame : Entry -> Entry -> Bool
  | .directory, .directory => true
  | .file left, .file right => left.data.toList = right.data.toList
  | _, _ => false

/-- The names that lead from the root to a place. -/
abbrev Place := List String

/-- A name that is no text: its bytes are not UTF-8. -/
structure RawName where
  bytes : ByteArray
  notText : String.fromUTF8? bytes = none

/-- The files and directories below the root. -/
structure FileTree where
  entries : List (Place × Entry) := []
  /-- The directory at which relative paths start. -/
  workingDirectory : Place := []
  /-- What stands under names that are no text, by the place of the directory that it is in. What
  such a directory holds itself is out of reach and left out. -/
  rawEntries : List (Place × RawName × Entry) := []

namespace FileTree

/-- What stands at a place. -/
def entryAt? (tree : FileTree) (place : Place) : Option Entry :=
  if place.isEmpty then some .directory
  else (tree.entries.find? fun item => item.1 = place).map Prod.snd

/-- The table with one place set. -/
def setIn (place : Place) (entry : Entry) : List (Place × Entry) -> List (Place × Entry)
  | [] => [(place, entry)]
  | item :: later =>
      if item.1 = place then (place, entry) :: later else item :: setIn place entry later

/-- The tree with one place set. -/
def set (tree : FileTree) (place : Place) (entry : Entry) : FileTree :=
  { tree with entries := setIn place entry tree.entries }

/-- The tree without a place and everything below it. -/
def prune (tree : FileTree) (place : Place) : FileTree :=
  { tree with
    entries := tree.entries.filter fun item => !place.isPrefixOf item.1
    rawEntries := tree.rawEntries.filter fun item => !place.isPrefixOf item.1 }

/-- The names that are texts and the entries right below a place, in no particular order. -/
def children (tree : FileTree) (place : Place) : List (String × Entry) :=
  tree.entries.filterMap fun item =>
    match item.1.getLast? with
    | some name => if item.1.dropLast = place then some (name, item.2) else none
    | none => none

/-- Everything right below a place, under the bytes of its name, in no particular order. -/
def listing (tree : FileTree) (place : Place) : List (ByteArray × Entry) :=
  let unreadable := tree.rawEntries.filter fun item => item.1 = place
  (tree.children place).map (fun child => (child.1.toUTF8, child.2)) ++
    unreadable.map fun item => (item.2.1.bytes, item.2.2)

/-- The greatest length of a name, in bytes. -/
def nameLimit : Nat := 255

/-- The length that the text of a path stays below, in bytes. -/
def pathLimit : Nat := 4096

/-- The failure that the text of a path brings about whatever the tree holds. -/
def textFault? (path : Path) : Option FileError :=
  if path.text.toList.contains '\x00' then some .nulInPath
  else if path.text.isEmpty then some .notFound
  else if pathLimit <= path.text.utf8ByteSize then some .nameTooLong
  else none

/-- Whether a directory stands at a place, or why none does. -/
def checkDirectory (tree : FileTree) (place : Place) : Except FileError Unit :=
  match tree.entryAt? place with
  | some .directory => .ok ()
  | some (.file _) => .error .notADirectory
  | none => .error .notFound

/-- The place after one more component. -/
def step (place : Place) (component : String) : Except FileError Place :=
  if component = "." then .ok place
  else if component = ".." then .ok place.dropLast
  else if nameLimit < component.utf8ByteSize then .error .nameTooLong
  else .ok (place ++ [component])

/-- The place that components lead to from a place. -/
def walk (tree : FileTree) (place : Place) : List String -> Except FileError Place
  | [] => .ok place
  | component :: later => do
      tree.checkDirectory place
      walk tree (<- step place component) later

/-- The directory at which a path starts. -/
def startOf (tree : FileTree) (path : Path) : Place :=
  if path.isAbsolute then [] else tree.workingDirectory

/-- The place of a path, at which something may stand or not. -/
def resolve (tree : FileTree) (path : Path) : Except FileError Place :=
  match textFault? path with
  | some fault => .error fault
  | none => tree.walk (tree.startOf path) path.components

/-- What stands at the end of a path. -/
def status (tree : FileTree) (path : Path) : Except FileError (Place × Entry) := do
  let place <- tree.resolve path
  match tree.entryAt? place with
  | none => .error .notFound
  | some .directory => .ok (place, .directory)
  | some (.file content) =>
      if path.endsInSlash then .error .notADirectory else .ok (place, .file content)

/-- Whether anything stands at the end of a path. -/
def contains (tree : FileTree) (path : Path) : Bool :=
  (tree.status path).isOk

/-- Whether a file stands at the end of a path. -/
def isFile (tree : FileTree) (path : Path) : Bool :=
  match tree.status path with
  | .ok (_, .file _) => true
  | _ => false

/-- The names of the directories in a directory, in ascending order. A directory whose name is no
text is passed over. -/
def directoryNames (tree : FileTree) (path : Path) : Except FileError (List String) := do
  let (place, _) <- tree.status path
  tree.checkDirectory place
  let directories := (tree.listing place).filter fun child => child.2.isDirectory
  let names := directories.filterMap fun child => String.fromUTF8? child.1
  return names.mergeSort fun left right => left <= right

/-- The bytes of a file. -/
def readBytes (tree : FileTree) (path : Path) : Except FileError ByteArray := do
  match <- tree.status path with
  | (_, .file content) => return content
  | (_, .directory) => throw .isADirectory

/-- The text of a file. -/
def readText (tree : FileTree) (path : Path) : Except FileError String := do
  match String.fromUTF8? (<- tree.readBytes path) with
  | some text => return text
  | none => throw .notText

/-- The place of a file that is to be written, with its content so far. A slash at the end of the
path asks for a directory, whatever stands there, so that only what leads there is looked at. -/
def fileToWrite (tree : FileTree) (path : Path) :
    Except FileError (Place × Option ByteArray) := do
  if path.endsInSlash then
    match textFault? path with
    | some fault => throw fault
    | none =>
        tree.checkDirectory (<- tree.walk (tree.startOf path) path.components.dropLast)
        throw .isADirectory
  else
    let place <- tree.resolve path
    match tree.entryAt? place with
    | some .directory => throw .isADirectory
    | some (.file content) => return (place, some content)
    | none => return (place, none)

/-- The tree with a file's content replaced, the file made if there is none. -/
def writeBytes (tree : FileTree) (path : Path) (content : ByteArray) :
    Except FileError FileTree := do
  let (place, _) <- tree.fileToWrite path
  return tree.set place (.file content)

/-- The tree with a file's text replaced, the file made if there is none. -/
def writeText (tree : FileTree) (path : Path) (text : String) : Except FileError FileTree :=
  tree.writeBytes path text.toUTF8

/-- The tree with text added to the end of a file, the file made if there is none. -/
def appendText (tree : FileTree) (path : Path) (text : String) : Except FileError FileTree := do
  let (place, content) <- tree.fileToWrite path
  return tree.set place (.file ((content.getD ByteArray.empty) ++ text.toUTF8))

/-- The tree with a file moved to another path, over a file that stands there. -/
def moveFile (tree : FileTree) (source target : Path) : Except FileError FileTree := do
  let (sourcePlace, _) <- tree.status source
  let content <- tree.readBytes source
  let (targetPlace, _) <- tree.fileToWrite target
  return (tree.prune sourcePlace).set targetPlace (.file content)

/-- Makes the directories that components lead through from a place, and keeps those made before a
failure. -/
def makeAlong (tree : FileTree) (place : Place) : List String -> Except FileError Unit × FileTree
  | [] => (.ok (), tree)
  | component :: later =>
      match tree.checkDirectory place, step place component with
      | .error fault, _ => (.error fault, tree)
      | _, .error fault => (.error fault, tree)
      | .ok (), .ok next =>
          match tree.entryAt? next with
          | some .directory => makeAlong tree next later
          | some (.file _) => (.error .notADirectory, tree)
          | none => makeAlong (tree.set next .directory) next later

/-- Makes the directory of a path and all directories above it. -/
def makeDirectories (tree : FileTree) (path : Path) : Except FileError Unit × FileTree :=
  match textFault? path with
  | some fault => (.error fault, tree)
  | none => tree.makeAlong (tree.startOf path) path.components

/-- The tree without the file or directory at the end of a path. -/
def remove (tree : FileTree) (path : Path) : Except FileError FileTree := do
  let (place, _) <- tree.status path
  return tree.prune place

end FileTree

end ContractAtlas
