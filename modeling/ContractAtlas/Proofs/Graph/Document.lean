import ContractAtlas.Graph.Document
import ContractAtlas.Proofs.Graph.Nodes
import ContractAtlas.Proofs.Json.Fields
import ContractAtlas.Proofs.Json.Text

/-!
# Graph documents read back

A graph document lists nodes under identifiers and links pairs of identifiers. `NodeLink.read?`
reads such a document from a text, knowing nothing of the graph that it came from. What it finds in
the text of a graph is the nodes, each under its address, and the edges, so the graph can be had
back from its document (`NodeLink.read?_toPrettyText`).
-/

namespace ContractAtlas

open Json Json.SortedFields

/-- What a document of nodes and links says. -/
structure NodeLink where
  directed : Bool
  multigraph : Bool
  /-- The identifiers under which the nodes are listed. -/
  ids : List String
  nodes : List ContractNode
  /-- The identifiers of source and target of every link. -/
  links : List (String × String)
deriving DecidableEq, Repr

namespace NodeLink

/-- A node with the identifier under which it is listed. -/
def listed? (written : Written) : Option (String × ContractNode) := do
  let fields <- written.object?
  let id <- Written.required? fields ["id"] Written.text?
  return (id, {
    address := <- Written.required? fields ["address"] Written.text?
    label := <- Written.required? fields ["label"] Written.text?
    sessionPath := <- Written.required? fields ["session_path"] Written.text?
    expressions := <- Written.required? fields ["ext_expressions"] Written.texts?
    analyzed := <- Written.required? fields ["analyzed"] Written.bool? })

/-- The ends of a link. -/
def link? (written : Written) : Option (String × String) := do
  let fields <- written.object?
  return (<- Written.required? fields ["source"] Written.text?,
    <- Written.required? fields ["target"] Written.text?)

/-- What a written document says. -/
def ofWritten? (written : Written) : Option NodeLink := do
  let fields <- written.object?
  let listed <- Written.required? fields ["nodes"] fun items => do (<- items.array?).mapM listed?
  let links <- Written.required? fields ["links"] fun items => do (<- items.array?).mapM link?
  return {
    directed := <- Written.required? fields ["directed"] Written.bool?
    multigraph := <- Written.required? fields ["multigraph"] Written.bool?
    ids := listed.map Prod.fst
    nodes := listed.map Prod.snd
    links }

/-- What the text of a document says. -/
def read? (text : String) : Option NodeLink := do
  ofWritten? (<- Written.read? text)

/-- The graph of the listed nodes with the links as its edges. -/
def graph (document : NodeLink) : ContractGraph :=
  ⟨document.nodes, document.links⟩

/-! ## Reading what a graph is written as -/

/-- A node is read back from its entry. -/
theorem listed?_written (id : String) (node : ContractNode) :
    listed? (Json.object (("id", .string id) :: node.fields)).written = some (id, node) := by
  rw [listed?, Written.object?_written]
  simp [ContractNode.fields, writtenByName, Written.required?, Written.single?, Json.written,
    Written.text?, Written.bool?, Written.texts?_written]

/-- An edge is read back from its entry. -/
theorem link?_written (edge : String × String) :
    link? (Json.object [("source", .string edge.1), ("target", .string edge.2)]).written =
      some edge := by
  rw [link?, Written.object?_written]
  simp [writtenByName, Written.required?, Written.single?, Json.written, Written.text?]

/-- What the document of a graph says. -/
def ofGraph (graph : ContractGraph) : NodeLink where
  directed := true
  multigraph := false
  ids := graph.addresses
  nodes := graph.nodes
  links := graph.edges

/-- A graph is read back from its document. -/
theorem ofWritten?_toJson (graph : ContractGraph) :
    ofWritten? graph.toJson.written = some (ofGraph graph) := by
  have nodes : graph.nodes.mapM (fun node =>
      listed? (Json.object (("id", .string node.address) :: node.fields)).written) =
        some (graph.nodes.map fun node => (node.address, node)) :=
    mapM_eq_some_iff.mpr <| List.forall₂_map_right_iff.mpr <|
      List.forall₂_same.mpr fun node _ => listed?_written node.address node
  have links : graph.edges.mapM (fun edge =>
      link? (Json.object [("source", .string edge.1), ("target", .string edge.2)]).written) =
        some graph.edges :=
    mapM_eq_some_iff.mpr <| List.forall₂_same.mpr fun edge _ => link?_written edge
  have bool?_written (value : Bool) : Written.bool? (Json.bool value).written = some value := rfl
  rw [ContractGraph.toJson, ofWritten?, Written.object?_written]
  simp [writtenByName, Written.required?, Written.single?, bool?_written, nodes, links, ofGraph,
    ContractGraph.addresses, Function.comp_def]

/-- Items without numbers are a list without numbers. -/
theorem itemNumbers_eq_nil {items : List Json} (none : ∀ item ∈ items, item.numbers = []) :
    itemNumbers items = [] := by
  refine List.eq_nil_iff_forall_not_mem.mpr fun number member => ?_
  obtain ⟨item, isItem, inside⟩ := mem_itemNumbers.mp member
  rw [none item isItem] at inside
  cases inside

/-- There are no numbers in the document of a graph. -/
theorem numbers_toJson (graph : ContractGraph) : graph.toJson.numbers = [] := by
  have expressions (texts : List String) : (Json.strings texts).numbers = [] :=
    itemNumbers_eq_nil <| List.forall_mem_map.mpr fun _ _ => rfl
  have nodes : itemNumbers (graph.nodes.map fun node =>
      .object (("id", .string node.address) :: node.fields)) = [] :=
    itemNumbers_eq_nil <| List.forall_mem_map.mpr fun node _ => by
      simp [ContractNode.fields, numbers, fieldNumbers, expressions]
  have links : itemNumbers (graph.edges.map fun edge =>
      .object [("source", .string edge.1), ("target", .string edge.2)]) = [] :=
    itemNumbers_eq_nil <| List.forall_mem_map.mpr fun _ _ => rfl
  simp [ContractGraph.toJson, numbers, fieldNumbers, nodes, links]

/-- The text of the document of a graph says what the graph is. -/
theorem read?_toPrettyText (graph : ContractGraph) :
    read? graph.toJson.toPrettyText = some (ofGraph graph) := by
  have integers : ∀ number ∈ graph.toJson.numbers, number.IsInteger := by
    simp [numbers_toJson]
  rw [read?, Written.read?_toPrettyText integers]
  exact ofWritten?_toJson graph

end NodeLink

end ContractAtlas
