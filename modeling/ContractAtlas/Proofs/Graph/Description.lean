import ContractAtlas.Proofs.Graph.Nodes

/-!
# What a graph of sessions consists of

The sessions of a graph mention contracts one after the other: each its own contract, and then those
it depends on. `described` says what the graph of such a sequence of mentions is, without building
it: nodes and edges are the first occurrences in the sequence, what is said about an analyzed
contract comes from its last session, and a contract that is only referenced has its first name.
One more mention turns the description of a sequence into that of the longer one, so the graph of
any sessions is the described one (`ofSessions_eq_described`).
-/

namespace ContractAtlas

namespace ContractGraph

open Text

/-! ## First occurrences -/

/-- One more item at the end of a list is a first occurrence if it is new. -/
theorem eraseDups_concat {α : Type} [BEq α] [LawfulBEq α] (items : List α) (item : α) :
    (items ++ [item]).eraseDups =
      if item ∈ items then items.eraseDups else items.eraseDups ++ [item] := by
  rw [List.eraseDups_append]
  by_cases known : item ∈ items
  · simp [known, List.removeAll]
  · simp [known, List.removeAll, List.eraseDups_cons]

/-- Erasing duplicates leaves none. -/
theorem nodup_eraseDups {α : Type} [BEq α] [LawfulBEq α] (items : List α) :
    items.eraseDups.Nodup := by
  induction items using List.reverseRecOn with
  | nil => exact List.nodup_nil
  | append_singleton earlier item inductionHypothesis =>
      rw [eraseDups_concat]
      split
      · exact inductionHypothesis
      · rename_i new
        have fresh : item ∉ earlier.eraseDups := fun member => new (List.mem_eraseDups.mp member)
        exact List.nodup_append.mpr ⟨inductionHypothesis, List.nodup_singleton _, by grind⟩

/-- Going through a list again brings no new items up. -/
theorem eraseDups_append_self {α : Type} [BEq α] [LawfulBEq α] (items : List α) :
    (items ++ items).eraseDups = items.eraseDups := by
  have nothing : items.removeAll items = [] :=
    List.filter_eq_nil_iff.mpr fun item member => by simp [member]
  rw [List.eraseDups_append, nothing, List.eraseDups_nil, List.append_nil]

/-- Entering one more address is erasing the duplicates with it at the end. -/
theorem withAddress_eraseDups (ids : List String) (id : String) :
    withAddress ids.eraseDups id = (ids ++ [id]).eraseDups := by
  simp [withAddress, eraseDups_concat]

/-! ## Mentions -/

/-- One mention of a contract: by its own session, whose document may have a path, or under some
name by a session that depends on it. -/
inductive Mention where
  | own (session : Session) (path : Option Path)
  | dependency (source name address : String)

namespace Mention

/-- The address of the node of the mentioned contract. -/
def id : Mention → String
  | own session _ => nodeId session.contractAddress
  | dependency _ _ address => nodeId address

/-- The edge that a mention stands for, if it is that of a dependency. -/
def edge? : Mention → Option (String × String)
  | own _ _ => none
  | dependency source _ address => some (nodeId source, nodeId address)

/-- The session of a contract, if the mention is by that session. -/
def sessionOf? (id : String) : Mention → Option (Session × Option Path)
  | own session path => if nodeId session.contractAddress = id then some (session, path) else none
  | dependency _ _ _ => none

/-- The name of a contract, if the mention is by a session that depends on it. -/
def nameOf? (id : String) : Mention → Option String
  | own _ _ => none
  | dependency _ name address => if nodeId address = id then some name else none

/-- A contract that is mentioned is mentioned by its session or by a name. -/
theorem nameOf?_id {mention : Mention} (none : mention.sessionOf? mention.id = none) :
    (mention.nameOf? mention.id).isSome = true := by
  cases mention with
  | own session path => simp [sessionOf?, id] at none
  | dependency source name address => simp [nameOf?, id]

end Mention

/-- The mentions of a session: its own contract, and then its dependencies in the order of their
names. A session whose contract has no address mentions nothing. -/
def mentionsBy (added : Session × Option Path) : List Mention :=
  if (trim added.1.contractAddress).isEmpty then []
  else .own added.1 added.2 :: added.1.externalAddresses.map fun dependency =>
    .dependency added.1.contractAddress dependency.1 dependency.2

/-! ## The graph of a sequence of mentions -/

/-- Where the document of a session is shown to be: at its path, or else in the directory that the
session names. -/
def shownPath (session : Session) (path : Option Path) : String :=
  match path with
  | some path => path.text
  | none => session.networkInfo.dataDirectory

/-- The node of a contract after a sequence of mentions. The zero address has a label of its own and
no document. -/
def describedNode (mentions : List Mention) (id : String) : ContractNode :=
  let isZero := Address.isZeroText id
  match (mentions.filterMap (Mention.sessionOf? id)).getLast? with
  | some (session, path) =>
      { address := id
        label := if isZero then "ZERO_ADDRESS" else session.contractName
        sessionPath := if isZero then "" else shownPath session path
        expressions := expressionsOf session
        analyzed := true }
  | none =>
      { address := id
        label := if isZero then "ZERO_ADDRESS" else
          ((mentions.filterMap (Mention.nameOf? id)).head?).getD ""
        sessionPath := ""
        expressions := []
        analyzed := false }

/-- The graph of a sequence of mentions: every contract and every dependency at the place of its
first mention. -/
def described (mentions : List Mention) : ContractGraph where
  nodes := (mentions.map Mention.id).eraseDups.map (describedNode mentions)
  edges := (mentions.filterMap Mention.edge?).eraseDups

/-- A described node has the address that it describes. -/
@[simp] theorem address_describedNode (mentions : List Mention) (id : String) :
    (describedNode mentions id).address = id := by
  rw [describedNode]
  split <;> rfl

/-- The described graph has the addresses of the mentions in the order in which they first occur. -/
theorem addresses_described (mentions : List Mention) :
    (described mentions).addresses = (mentions.map Mention.id).eraseDups := by
  simp [addresses, described, Function.comp_def]

/-! ## One more mention -/

/-- The graph after one more mention. -/
def enter (graph : ContractGraph) : Mention → ContractGraph
  | .own session path =>
      graph.addSessionNode session.contractAddress session.contractName (shownPath session path)
        (expressionsOf session)
  | .dependency source name address => graph.addDependency source (name, address)

/-- A node takes the place of the one at its address, or stands at the end. -/
theorem setNode_map {ids : List String} (distinct : ids.Nodup) {nodeAt : String → ContractNode}
    (address_nodeAt : ∀ id, (nodeAt id).address = id) (node : ContractNode) :
    setNode node (ids.map nodeAt) = (withAddress ids node.address).map fun id =>
      if id = node.address then node else nodeAt id := by
  induction ids with
  | nil => simp [setNode, withAddress]
  | cons id later inductionHypothesis =>
      obtain ⟨new, distinctLater⟩ := List.nodup_cons.mp distinct
      rw [List.map_cons, setNode, address_nodeAt]
      by_cases same : id = node.address
      · subst same
        have kept : later.map (fun other => if other = node.address then node else nodeAt other) =
            later.map nodeAt :=
          List.map_congr_left fun other member => if_neg (ne_of_mem_of_not_mem member new)
        simp [withAddress, kept]
      · rw [if_neg same, inductionHypothesis distinctLater]
        by_cases known : node.address ∈ later
        · simp [withAddress, known, same]
        · simp [withAddress, known, same, Ne.symm same]

/-- A session replaces what was said about its contract, and nothing else. -/
theorem describedNode_concat_own (mentions : List Mention) (session : Session)
    (path : Option Path) (id : String) :
    describedNode (mentions ++ [.own session path]) id =
      if id = nodeId session.contractAddress then
        sessionNode session.contractAddress session.contractName (shownPath session path)
          (expressionsOf session)
      else describedNode mentions id := by
  by_cases same : id = nodeId session.contractAddress
  · subst same
    rw [if_pos rfl, describedNode, sessionNode]
    simp only [List.filterMap_append, List.filterMap_cons, Mention.sessionOf?, if_true,
      List.filterMap_nil, List.getLast?_concat]
    split <;> simp_all [zeroLabel]
  · have other : ¬ nodeId session.contractAddress = id := Ne.symm same
    rw [if_neg same, describedNode, describedNode]
    simp [Mention.sessionOf?, Mention.nameOf?, other]

/-- A dependency says nothing new about a contract that has been mentioned. -/
theorem describedNode_concat_dependency {mentions : List Mention} {id : String}
    (known : id ∈ mentions.map Mention.id) (source name address : String) :
    describedNode (mentions ++ [.dependency source name address]) id =
      describedNode mentions id := by
  rw [describedNode, describedNode]
  simp only [List.filterMap_append, List.filterMap_cons, Mention.sessionOf?, List.filterMap_nil,
    List.append_nil]
  cases last : (mentions.filterMap (Mention.sessionOf? id)).getLast? with
  | some found => rfl
  | none =>
      -- Whatever mention came first, it was not by a session, so it gave the contract a name.
      obtain ⟨mention, member, rfl⟩ := List.mem_map.mp known
      have noSession : mention.sessionOf? mention.id = none :=
        List.filterMap_eq_nil_iff.mp (List.getLast?_eq_none_iff.mp last) mention member
      obtain ⟨first, named⟩ := Option.isSome_iff_exists.mp (Mention.nameOf?_id noSession)
      have nonempty : mentions.filterMap (Mention.nameOf? mention.id) ≠ [] :=
        List.ne_nil_of_mem (List.mem_filterMap.mpr ⟨mention, member, named⟩)
      rw [List.head?_append_of_ne_nil _ nonempty]

/-- The first mention of a contract by a dependency gives it its name. -/
theorem describedNode_concat_new {mentions : List Mention} {address : String}
    (new : nodeId address ∉ mentions.map Mention.id) (source name : String) :
    describedNode (mentions ++ [.dependency source name address]) (nodeId address) =
      referencedNode address name := by
  have apart : ∀ mention ∈ mentions, mention.id ≠ nodeId address := fun mention member same =>
    new (same ▸ List.mem_map_of_mem member)
  have noSession : mentions.filterMap (Mention.sessionOf? (nodeId address)) = [] := by
    refine List.filterMap_eq_nil_iff.mpr fun mention member => ?_
    cases mention with
    | own session path => exact if_neg (apart _ member)
    | dependency _ _ _ => rfl
  have noName : mentions.filterMap (Mention.nameOf? (nodeId address)) = [] := by
    refine List.filterMap_eq_nil_iff.mpr fun mention member => ?_
    cases mention with
    | own _ _ => rfl
    | dependency _ _ other => exact if_neg (apart _ member)
  rw [describedNode, referencedNode]
  simp [noSession, noName, Mention.sessionOf?, Mention.nameOf?, zeroLabel]

/-- One more mention by a dependency turns the nodes of a sequence into those of the longer one. -/
theorem nodes_addReferencedNode_described (mentions : List Mention) (source name address : String) :
    ((described mentions).addReferencedNode address name).nodes =
      (described (mentions ++ [.dependency source name address])).nodes := by
  have old : (mentions.map Mention.id).eraseDups.map
      (describedNode (mentions ++ [.dependency source name address])) =
        (mentions.map Mention.id).eraseDups.map (describedNode mentions) :=
    List.map_congr_left fun id member =>
      describedNode_concat_dependency (List.mem_eraseDups.mp member) source name address
  have contains_iff : (described mentions).contains address = true ↔
      nodeId address ∈ mentions.map Mention.id := by
    rw [ContractGraph.contains_iff, addresses_described, List.mem_eraseDups]
  have ids : (described (mentions ++ [.dependency source name address])).nodes =
      ((mentions.map Mention.id) ++ [nodeId address]).eraseDups.map
        (describedNode (mentions ++ [.dependency source name address])) := by
    simp [described, Mention.id]
  rw [ids, eraseDups_concat, addReferencedNode]
  by_cases known : nodeId address ∈ mentions.map Mention.id
  · rw [if_pos (contains_iff.mpr known), if_pos known, old]
    rfl
  · rw [if_neg (mt contains_iff.mp known), if_neg known, List.map_append, old, List.map_cons,
      List.map_nil, describedNode_concat_new known]
    rfl

/-- One more mention turns the graph of a sequence into that of the longer one. -/
theorem enter_described (mentions : List Mention) (mention : Mention) :
    enter (described mentions) mention = described (mentions ++ [mention]) := by
  cases mention with
  | own session path =>
      have nodes := setNode_map (nodup_eraseDups (mentions.map Mention.id))
        (address_describedNode mentions) (sessionNode session.contractAddress session.contractName
          (shownPath session path) (expressionsOf session))
      rw [address_sessionNode, withAddress_eraseDups] at nodes
      have sameNodes : (fun id => if id = nodeId session.contractAddress then
            sessionNode session.contractAddress session.contractName (shownPath session path)
              (expressionsOf session)
          else describedNode mentions id) =
          describedNode (mentions ++ [.own session path]) :=
        funext fun id => (describedNode_concat_own mentions session path id).symm
      rw [sameNodes] at nodes
      simp [enter, addSessionNode, described, nodes, Mention.id,
        List.filterMap_cons_none (Mention.edge?.eq_1 session path)]
  | dependency source name address =>
      have nodes := nodes_addReferencedNode_described mentions source name address
      have edges : ((described mentions).addReferencedNode address name).edges =
          (mentions.filterMap Mention.edge?).eraseDups := by
        rw [addReferencedNode]
        split <;> rfl
      have edgesAfter : (((described mentions).addReferencedNode address name).addEdge source
          address).edges = (described (mentions ++ [.dependency source name address])).edges := by
        have last : (described (mentions ++ [.dependency source name address])).edges =
            (mentions.filterMap Mention.edge? ++ [(nodeId source, nodeId address)]).eraseDups := by
          simp [described, Mention.edge?]
        rw [last, eraseDups_concat, addEdge, hasEdge, edges]
        simp only [List.contains_iff_mem, List.mem_eraseDups]
        split
        · exact edges
        · rfl
      exact congrArg₂ ContractGraph.mk ((nodes_addEdge ..).trans nodes) edgesAfter

/-! ## The graph of sessions -/

/-- The graph of sessions comes about mention by mention. -/
theorem ofSessions_eq_foldl_enter (sessions : List (Session × Option Path)) :
    ofSessions sessions = (sessions.flatMap mentionsBy).foldl enter {} := by
  have addSession_eq (graph : ContractGraph) (added : Session × Option Path) :
      graph.addSession added.1 added.2 = (mentionsBy added).foldl enter graph := by
    obtain ⟨session, path⟩ := added
    have shown : (path.map Path.text).getD session.networkInfo.dataDirectory =
        shownPath session path := by
      cases path <;> rfl
    rw [addSession, mentionsBy]
    split
    · rfl
    · simp only [shown, List.foldl_cons, List.foldl_map, enter]
  rw [ofSessions_eq_foldl, List.foldl_flatMap]
  simp only [addSession_eq]

/-- Entering the mentions one by one gives the graph that describes them. -/
theorem foldl_enter_eq_described (mentions : List Mention) :
    mentions.foldl enter {} = described mentions := by
  induction mentions using List.reverseRecOn with
  | nil => rfl
  | append_singleton earlier mention inductionHypothesis =>
      rw [List.foldl_append, inductionHypothesis, List.foldl_cons, List.foldl_nil, enter_described]

/-- The graph of sessions is the one that their mentions describe. -/
theorem ofSessions_eq_mentions (sessions : List (Session × Option Path)) :
    ofSessions sessions = described (sessions.flatMap mentionsBy) :=
  (ofSessions_eq_foldl_enter sessions).trans (foldl_enter_eq_described _)

/-- Mentions that come again describe the same graph. -/
theorem described_append_self (mentions : List Mention) :
    described (mentions ++ mentions) = described mentions := by
  have node : describedNode (mentions ++ mentions) = describedNode mentions := by
    funext id
    rw [describedNode, describedNode]
    simp [List.filterMap_append, List.getLast?_append, List.head?_append]
  rw [described, described, node, List.map_append, eraseDups_append_self, List.filterMap_append,
    eraseDups_append_self]

/-- The graph of sessions is the one that their mentions describe, so adding all of them again
changes nothing. -/
theorem ofSessions_eq_described (sessions : List (Session × Option Path)) :
    ofSessions sessions = described (sessions.flatMap mentionsBy) ∧
      ofSessions (sessions ++ sessions) = ofSessions sessions := by
  refine ⟨ofSessions_eq_mentions sessions, ?_⟩
  rw [ofSessions_eq_mentions, ofSessions_eq_mentions, List.flatMap_append, described_append_self]

end ContractGraph

end ContractAtlas
