import ContractAtlas.CommandLine.Invocation
import ContractAtlas.CommandLine.Listing
import ContractAtlas.Graph.Builder
import ContractAtlas.Graph.Document

/-!
# Showing the graph

The graph command builds the graph of all sessions and shows its statistics as a text or, with the
graph itself, as a document. It may write the graph to a file too.
-/

namespace ContractAtlas.CommandLine

/-- A number with three places after the point. -/
def threePlaces (number : Float) : String :=
  Decimal.fixed 3 (Decimal.Binary64.ofFloat number)

/-- The line of a node of the core. -/
def coreLine (node : NodeCentrality Float) : String :=
  "  core " ++ node.address ++ " " ++ node.label ++ " (" ++ threePlaces node.degree ++ ")"

/-- The line of a component of several nodes. -/
def cycleLine (component : Component Float) : String :=
  "  cycle of " ++ toString component.size ++ " (density " ++ threePlaces component.density ++
    "): " ++ " ".intercalate component.members

/-- The lines of the statistics of a graph. -/
def statisticsLines (statistics : GraphStatistics Float) : List String :=
  ["Nodes:            " ++ toString statistics.nodeCount,
   "Edges:            " ++ toString statistics.edgeCount,
   "Isolated nodes:   " ++ toString statistics.isolatedNodes,
   "Network size:     " ++ threePlaces statistics.networkSize,
   "Cluster strength: " ++ threePlaces statistics.clusterStrength,
   "Core threshold:   " ++ threePlaces statistics.centralityThreshold ++ " (" ++
     toString statistics.core.length ++ " core, " ++ toString statistics.periphery.length ++
     " periphery)"] ++
  (statistics.core.filterMap statistics.centralityOf?).map coreLine ++
  statistics.cycles.map cycleLine

/-- The document of a graph with its statistics. -/
def graphDocument (graph : ContractGraph) (statistics : GraphStatistics Float) : Json :=
  .object [("graph", graph.toJson), ("statistics", statistics.toJson floatToJson)]

/-- The files with the graph written to a file, if there is one to write. -/
def writeGraph (graph : ContractGraph) (output : Option String) (files : FileTree) :
    Except FileError FileTree :=
  match output with
  | some path => files.writeText ⟨path⟩ graph.toJson.toPrettyText
  | none => .ok files

/-- Shows the graph of all sessions. -/
def graph (directory : DataDirectory) (arguments : GraphArguments) (files : FileTree) : Outcome :=
  let (_, store) := openStore directory files
  match ContractGraph.ofStore store with
  | .error fault => .failed (.store fault) store.files
  | .ok graph =>
      match writeGraph graph arguments.output store.files with
      | .error cause => .failed (.output cause) store.files
      | .ok files =>
          let options : AnalysisOptions Float :=
            { AnalysisOptions.standard with excludeZero := arguments.excludeZero }
          let statistics := graph.analyze options
          if arguments.asJson then
            .printed [(graphDocument graph statistics).toPrettyText] files
          else .printed (statisticsLines statistics) files

end ContractAtlas.CommandLine
