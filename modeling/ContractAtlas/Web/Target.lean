import ContractAtlas.Web.Form

/-!
# Request targets

A request names what it asks for by a path, or by a whole URL, of which the scheme and authority do
not count. A query may follow the path, and a fragment that does not count.
-/

namespace ContractAtlas.Web

open Text

/-- What a request asks for. -/
structure Target where
  path : String
  /-- The fields of the query, in order. -/
  query : List (String × String)
deriving DecidableEq, Repr

namespace Target

/-- What follows the authority of a URL, none for a text that is not a whole URL. -/
def afterAuthority? (characters : List Char) : Option (List Char) :=
  let scheme := characters.takeWhile fun character =>
    isAlphanumeric character || ['+', '-', '.'].contains character
  match characters.drop scheme.length with
  | ':' :: '/' :: '/' :: later =>
      some (later.dropWhile fun character => !(['/', '?', '#'].contains character))
  | _ => none

/-- The target that a text names. The path of a whole URL is never empty. -/
def ofText (text : String) : Target :=
  let beforeFragment := (splitOnceChars '#' ((afterAuthority? text.toList).getD text.toList)).1
  let (path, query) := splitOnceChars '?' beforeFragment
  { path := if path.isEmpty then "/" else String.ofList path
    query := (query.map fun query => Form.fields (String.ofList query)).getD [] }

end Target

end ContractAtlas.Web
