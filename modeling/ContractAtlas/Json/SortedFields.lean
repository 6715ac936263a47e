/-!
# Sorted fields

The fields of an object are a list of pairs in strictly ascending order of their names. The order
of names is that of their code points, which is also the order of their UTF-8 bytes. `insert` keeps
the order and replaces the value of a name that is already there, so building the fields from pairs
in any order keeps the last value of each name.
-/

namespace ContractAtlas.Json.SortedFields

/-- The fields with one name set to a value. -/
def insert {α : Type} (name : String) (value : α) :
    List (String × α) -> List (String × α)
  | [] => [(name, value)]
  | field :: later =>
      if name < field.1 then (name, value) :: field :: later
      else if name = field.1 then (name, value) :: later
      else field :: insert name value later

/-- The value of a name. -/
def find? {α : Type} (name : String) : List (String × α) -> Option α
  | [] => none
  | field :: later => if field.1 = name then some field.2 else find? name later

/-- Whether a name has a value. -/
def has {α : Type} (name : String) (fields : List (String × α)) : Bool :=
  (find? name fields).isSome

/-- The fields with every pair of `updates` set, in order. -/
def insertAll {α : Type} (fields updates : List (String × α)) : List (String × α) :=
  updates.foldl (fun fields field => insert field.1 field.2 fields) fields

/-- The sorted fields of a list of pairs, the last value of each name winning. -/
def ofList {α : Type} (pairs : List (String × α)) : List (String × α) :=
  insertAll [] pairs

/-- The names of the fields. -/
def names {α : Type} (fields : List (String × α)) : List String :=
  fields.map Prod.fst

/-- The texts of a list in strictly ascending order, each once. -/
def distinctNames (texts : List String) : List String :=
  names (ofList (texts.map fun text => (text, ())))

/-- The names in strictly ascending order. -/
def Sorted {α : Type} (fields : List (String × α)) : Prop :=
  (names fields).Pairwise (· < ·)

end ContractAtlas.Json.SortedFields
