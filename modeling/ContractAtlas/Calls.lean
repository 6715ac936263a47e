import ContractAtlas.Json.SortedFields
import ContractAtlas.Text.Search
import ContractAtlas.Text.WordCharacter

/-!
# Call expressions

The analysis lists the external calls of a contract as written. Some of them are no dependencies: a
call that mentions a library, or one of the tokens that show a language construct. What remains
keeps its order and its repetitions. A name counts wherever it occurs in a call, so a library whose
name is part of another name excludes the calls of that name too.
-/

namespace ContractAtlas.Calls

open Text Json

/-- The tokens that exclude a call whatever the libraries are. -/
def exceptionTokens : List String :=
  ["msg.value", "msg.sender", "new ", "this.", "address(", "abi."]

/-- The library of a library call: the word that the call starts with. -/
def libraryName? (call : String) : Option String :=
  match leadingWord call.toList with
  | [] => none
  | word => some (String.ofList word)

/-- The libraries of a list of library calls, in ascending order. -/
def libraryNames (calls : List String) : List String :=
  SortedFields.distinctNames (calls.filterMap libraryName?)

/-- Everything that excludes a call. -/
def exclusions (libraries : List String) : List String :=
  exceptionTokens ++ libraries

/-- Whether a call contains one of the exclusions. -/
def isExcluded (exclusions : List String) (call : String) : Bool :=
  exclusions.any (contains call)

/-- The calls that are dependencies, given the libraries. -/
def dependencies (libraries calls : List String) : List String :=
  calls.filter fun call => !isExcluded (exclusions libraries) call

/-- The interface of a call: the first word that a full stop follows. -/
def interface? (call : String) : Option String :=
  (receiver? call.toList).map String.ofList

/-- The interfaces of a list of calls, in ascending order. -/
def interfaces (calls : List String) : List String :=
  SortedFields.distinctNames (calls.filterMap interface?)

end ContractAtlas.Calls
