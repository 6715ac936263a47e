/-!
# Reachability

Which vertices of a finite directed graph reach which. The vertices are the numbers below a count.
The relation is a list of rows, where bit `j` of row `i` says that `i` reaches `j`. It starts with
every vertex reaching itself and the targets of its edges, and then allows one vertex after another
in between: whoever reaches that vertex reaches everything that it reaches.
-/

namespace ContractAtlas.Reachability

/-- The row of a vertex without vertices in between. -/
def directRow (edges : List (Nat × Nat)) (vertex : Nat) : Nat :=
  edges.foldl (fun row edge => if edge.1 = vertex then row ||| 1 <<< edge.2 else row)
    (1 <<< vertex)

/-- The rows without vertices in between. -/
def direct (count : Nat) (edges : List (Nat × Nat)) : List Nat :=
  (List.range count).map (directRow edges)

/-- The rows with one more vertex allowed in between. -/
def through (rows : List Nat) (vertex : Nat) : List Nat :=
  let onward := rows.getD vertex 0
  rows.map fun row => if row.testBit vertex then row ||| onward else row

/-- The rows with every vertex allowed in between. -/
def closure (count : Nat) (edges : List (Nat × Nat)) : List Nat :=
  (List.range count).foldl through (direct count edges)

/-- Whether one vertex reaches another. -/
def reaches (rows : List Nat) (source target : Nat) : Bool :=
  (rows.getD source 0).testBit target

/-- Whether two vertices reach each other. -/
def reachEachOther (rows : List Nat) (left right : Nat) : Bool :=
  reaches rows left right && reaches rows right left

/-- The vertices below a count that reach a vertex and are reached from it. -/
def classOf (rows : List Nat) (count vertex : Nat) : List Nat :=
  (List.range count).filter (reachEachOther rows vertex)

/-- The classes of mutual reachability, each listed at its least vertex. -/
def classes (count : Nat) (edges : List (Nat × Nat)) : List (List Nat) :=
  let rows := closure count edges
  ((List.range count).filter fun vertex => (classOf rows count vertex).head? = some vertex).map
    (classOf rows count)

end ContractAtlas.Reachability
