import ContractAtlas.SessionKey

/-!
# Key matching

How a query is compared with the names of session directories. A substring match asks whether the
name contains the query, ASCII letter case aside. An exact match reads the query as a key or as a
bare address and compares it with the key that the name encodes; a bare address matches on every
network. A blank query matches nothing.
-/

namespace ContractAtlas

open Text

/-- How a query is compared with a directory name. -/
inductive KeyMatch where
  | substring
  | exact
deriving DecidableEq, Repr

namespace KeyMatch

/-- Whether a directory name contains a query, ASCII letter case aside. -/
def matchesSubstring (query directory : String) : Bool :=
  contains (lowerAscii directory) (lowerAscii query)

/-- Whether a directory name encodes the key or the address that a query denotes. -/
def matchesExactly (query directory : String) : Bool :=
  match SessionKey.ofDirectoryName? directory with
  | none => false
  | some (key, _) =>
      match SessionKey.ofDirectoryName? query with
      | some (queried, _) => queried = key
      | none => Address.parse? query = some key.address

/-- Whether a query matches a directory name. -/
def accepts (mode : KeyMatch) (query directory : String) : Bool :=
  let query := trim query
  if query.isEmpty then false
  else match mode with
    | .substring => matchesSubstring query directory
    | .exact => matchesExactly query directory

/-- The name of a mode in the settings. -/
def name : KeyMatch -> String
  | .substring => "substring"
  | .exact => "exact"

/-- The mode of a name in the settings. -/
def ofName? (name : String) : Option KeyMatch :=
  if name = "substring" then some .substring
  else if name = "exact" then some .exact
  else none

end KeyMatch

end ContractAtlas
