import ContractAtlas.Graph.Statistics

/-!
# Graph documents

A graph as a document of nodes and links, and the statistics of a graph as a document. How a number
is written is a parameter of the second, so that statistics in exact arithmetic have documents too.
-/

namespace ContractAtlas

/-- A float as a JSON value, null if it is not finite. -/
def floatToJson (number : Float) : Json :=
  if number.isFinite then .number (.binary64 (Decimal.Binary64.ofFloat number)) else .null

namespace ContractNode

/-- The fields of a node. -/
def fields (node : ContractNode) : List (String × Json) :=
  [("address", .string node.address),
   ("label", .string node.label),
   ("session_path", .string node.sessionPath),
   ("ext_expressions", Json.strings node.expressions),
   ("analyzed", .bool node.analyzed)]

/-- The document of a node. -/
def toJson (node : ContractNode) : Json :=
  .object node.fields

end ContractNode

/-- The document of a graph. -/
def ContractGraph.toJson (graph : ContractGraph) : Json :=
  .object
    [("directed", .bool true),
     ("multigraph", .bool false),
     ("nodes", .array (graph.nodes.map fun node =>
       .object (("id", .string node.address) :: node.fields))),
     ("links", .array (graph.edges.map fun edge =>
       .object [("source", .string edge.1), ("target", .string edge.2)]))]

section

variable {α : Type} (number : α -> Json)

/-- The document of the centrality of a node. -/
def NodeCentrality.toJson (node : NodeCentrality α) : Json :=
  .object
    [("address", .string node.address),
     ("label", .string node.label),
     ("degree", number node.degree),
     ("in_degree", number node.inDegree),
     ("out_degree", number node.outDegree),
     ("role", .string node.role.name)]

/-- The document of a component. -/
def Component.toJson (component : Component α) : Json :=
  .object
    [("members", Json.strings component.members),
     ("size", .nat component.size),
     ("internal_edges", .nat component.internalEdges),
     ("density", number component.density)]

/-- The fields of statistics. -/
def GraphStatistics.fields (statistics : GraphStatistics α) : List (String × Json) :=
  [("node_count", .nat statistics.nodeCount),
   ("edge_count", .nat statistics.edgeCount),
   ("centrality", .array (statistics.centrality.map (NodeCentrality.toJson number))),
   ("centrality_threshold", number statistics.centralityThreshold),
   ("core", Json.strings statistics.core),
   ("periphery", Json.strings statistics.periphery),
   ("strongly_connected_components",
     .array (statistics.components.map (Component.toJson number))),
   ("component_sizes", .array (statistics.componentSizes.map Json.nat)),
   ("cluster_strength", number statistics.clusterStrength),
   ("isolated_nodes", .nat statistics.isolatedNodes),
   ("network_size", number statistics.networkSize)]

/-- The document of statistics. -/
def GraphStatistics.toJson (statistics : GraphStatistics α) : Json :=
  .object (statistics.fields number)

end

end ContractAtlas
