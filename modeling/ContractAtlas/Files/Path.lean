import ContractAtlas.Text.Quoted

/-!
# Paths

A path is kept as its text, because messages and answers show it as it was put together. Joining
adds one slash where there is none, and a name that starts with a slash replaces the path. The
components of a path are its pieces between slashes without the empty ones.
-/

namespace ContractAtlas

open Text

/-- A path in a file tree. -/
structure Path where
  text : String
deriving DecidableEq, Repr

namespace Path

/-- Whether the path starts at the root. -/
def isAbsolute (path : Path) : Bool :=
  path.text.toList.head? = some '/'

/-- Whether the path ends in a slash, and so can only name a directory. -/
def endsInSlash (path : Path) : Bool :=
  path.text.toList.getLast? = some '/'

/-- The path of a name below a path. -/
def join (path : Path) (name : String) : Path :=
  if isAbsolute ⟨name⟩ then ⟨name⟩
  else if path.text.isEmpty || path.endsInSlash then ⟨path.text ++ name⟩
  else ⟨path.text ++ "/" ++ name⟩

/-- The components of a path. -/
def components (path : Path) : List String :=
  (splitAll '/' path.text).filter fun component => !component.isEmpty

/-- The path between double quotes, as messages show it. -/
def quoted (path : Path) : String :=
  Text.quoted path.text

/-- Characters in reverse order without the slashes and the lone dots that end them. -/
def trimEndReversed : List Char -> List Char
  | ['/'] => ['/']
  | '/' :: later => trimEndReversed later
  | '.' :: '/' :: later => trimEndReversed ('/' :: later)
  | characters => characters
termination_by characters => characters.length

/-- The path without its last component, if there is one. A lone dot after another component does
not count as one. -/
def parent? (path : Path) : Option Path :=
  match trimEndReversed path.text.toList.reverse with
  | [] => none
  | ['/'] => none
  | characters =>
      some ⟨String.ofList (trimEndReversed (characters.dropWhile (· != '/'))).reverse⟩

end Path

end ContractAtlas
