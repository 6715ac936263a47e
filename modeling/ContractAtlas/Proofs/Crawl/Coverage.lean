import ContractAtlas.Proofs.Crawl.Closure
import ContractAtlas.Proofs.Graph.Nodes

/-!
# The graph of a crawled store

When the service stores a session for everything that it is asked for, an unbounded crawl leaves no
contract in the graph of its store that has not been analyzed. The invariant `Obeyed` says what such
a service makes of the store; the closure of the crawl and the nodes of the graph do the rest.
-/

namespace ContractAtlas.Crawl

open ContractGraph (ofSessions mem_mentionsOf mem_addresses_ofSessions analyzedAt_ofSessions
  nodup_addresses_ofSessions nodeId_of_parse parse?_nodeId)
open DirectoryView (keyMatch WellKeyed Adds lookup?_isSome_iff_holds)
open SessionStore (Shows Holds)

section

variable {σ : Type} [SessionStore σ]

/-- The node of a session that a store shows is analyzed in the graph of the sessions. -/
theorem analyzedAt_of_holds {store : σ} {listed : List (Path × Session)} {key : SessionKey}
    (listing : SessionStore.sessions store = .ok listed) (held : Holds store key) :
    (ofSessions (listed.map fun found => (found.2, some found.1))).AnalyzedAt
      key.address.checksummed := by
  obtain ⟨session, ⟨same, path, listingToo, member⟩, keyed⟩ := held
  obtain rfl : listed = same := Except.ok.inj (listing.symm.trans listingToo)
  have read := Session.parse?_contractAddress keyed
  have shown : (session, some path) ∈ listed.map fun found => (found.2, some found.1) :=
    List.mem_map.mpr ⟨(path, session), member, rfl⟩
  have analyzed := analyzedAt_ofSessions shown (Address.trim_not_empty read)
  rwa [nodeId_of_parse read] at analyzed

end

variable {σ : Type} [SessionStore σ] [DirectoryView σ]

/-- Whether an exchange added a session with the key that was asked for, and nothing else. -/
def Exchange.Stores (exchange : Exchange σ) : Prop :=
  Adds exchange.request.key exchange.before exchange.after

/-- A service that only adds to the store makes it lose nothing. -/
theorem Exchange.Stores.keeps {exchange : Exchange σ} (stores : exchange.Stores) :
    exchange.Keeps :=
  fun _ found => Adds.lookup?_isSome stores found

/-- What holds after every step when everything that was asked for has been stored. -/
structure Obeyed (events : List (Event σ)) (stage : Stage σ) : Prop where
  exact : keyMatch stage.store = .exact
  wellKeyed : WellKeyed stage.store
  found : ∀ key ∈ sentKeys events, isStored stage.store key.checksummedAddress = true

namespace Obeyed

variable {events : List (Event σ)} {stage next : Stage σ} {event : Event σ}

/-- Nothing has been sent at the start, so all that is needed is a well-keyed store in exact mode.
-/
theorem start (level : Level) (target : Option SessionKey) {store : σ}
    (exact : keyMatch store = .exact) (wellKeyed : WellKeyed store) :
    Obeyed [] (Stage.start level target store) := by
  have store_eq : (Stage.start level target store).store = store := by
    cases target with
    | none => rfl
    | some key =>
        rw [Stage.start]
        split <;> rfl
  constructor
  · rwa [store_eq]
  · rwa [store_eq]
  · simp

/-- A step that adds what was asked for keeps the store well-keyed, and all that was sent is found.
-/
theorem preserved (obeyed : Obeyed events stage) (step : Step stage event next)
    (stores : ∀ exchange, event = .sent exchange → exchange.Stores) :
    Obeyed (events ++ [event]) next := by
  cases step with
  | beginPass _ | classify _ | appear _ =>
      exact ⟨obeyed.exact, obeyed.wellKeyed, fun key sent => obeyed.found key (by simpa using sent)⟩
  | send _ =>
      have adds : Adds _ _ _ := stores _ rfl
      refine ⟨adds.keyMatch_eq.trans obeyed.exact, adds.wellKeyed obeyed.wellKeyed, ?_⟩
      intro key sent
      obtain older | rfl : key ∈ sentKeys events ∨ key = _ := by simpa using sent
      · exact adds.lookup?_isSome (obeyed.found key older)
      · exact adds.lookup?_key_isSome obeyed.exact

/-- The same holds after any steps in which the service stores what it is asked for. -/
theorem of_steps {level : Level} {target : Option SessionKey} {store : σ}
    (steps : Steps (Stage.start level target store) events stage)
    (exact : keyMatch store = .exact) (wellKeyed : WellKeyed store)
    (stores : ∀ exchange ∈ exchangesOf events, exchange.Stores) :
    Obeyed events stage := by
  refine steps.invariant
    (fun earlier stage =>
      (∀ exchange ∈ exchangesOf earlier, exchange.Stores) → Obeyed earlier stage)
    (fun held step stores => ?_) (fun _ => start level target exact wellKeyed) stores
  refine (held fun exchange member => stores exchange ?_).preserved step fun exchange same => ?_
  · simp [member]
  · exact stores exchange (by simp [same])

end Obeyed

/-- Every address that a session of a store gives has a node in the graph of the store. -/
theorem exists_node_of_dependency {σ : Type} [SessionStore σ] {store : σ} {graph : ContractGraph}
    (built : ContractGraph.ofStore store = .ok graph) {listed : List (Path × Session)}
    (listing : SessionStore.sessions store = .ok listed) {session : Session}
    (isListed : session ∈ listed.map Prod.snd) {key : SessionKey} (keyed : session.key = .ok key)
    {name address : String} (lists : (name, address) ∈ session.externalAddresses)
    {parsed : Address} (read : Address.parse? address = some parsed) :
    ∃ node ∈ graph.nodes, node.address = parsed.checksummed := by
  rw [ContractGraph.ofStore, listing] at built
  obtain rfl := Except.ok.inj built
  obtain ⟨document, member, rfl⟩ := List.mem_map.mp isListed
  have named := Address.trim_not_empty (Session.parse?_contractAddress keyed)
  refine List.mem_map.mp (mem_addresses_ofSessions.mpr
    ⟨_, List.mem_map_of_mem member, address, ?_, nodeId_of_parse read⟩)
  exact mem_mentionsOf.mpr ⟨named, .inr ⟨name, lists⟩⟩

section

variable {ε : Type} {dispatch : Dispatcher (StateM ε) σ} {world : ε} {limit : Nat}
  {target : Option String} {store : σ}

/-- Where the service stored whatever it was asked for, every dependency of a session that the last
store lists gives no address, the zero address, or the address of a session that the store holds. -/
theorem held_of_dependency {report : Report} {session : Session} {name address : String}
    {parsed : Address}
    (finished : (recordedCrawl dispatch world limit .unbounded target store).ending =
      .finished report)
    (exact : keyMatch store = .exact) (wellKeyed : WellKeyed store)
    (stores : ∀ exchange ∈ (recordedCrawl dispatch world limit .unbounded target store).history,
      exchange.Stores)
    (shown : Shows (recordedCrawl dispatch world limit .unbounded target store).store session)
    (lists : (name, address) ∈ session.externalAddresses)
    (read : Address.parse? address = some parsed) (nonzero : parsed ≠ Address.zero) :
    ∃ network, Holds (recordedCrawl dispatch world limit .unbounded target store).store
      ⟨network, parsed⟩ := by
  obtain ⟨course⟩ := exists_course dispatch world limit .unbounded target store
  have obeyed := Obeyed.of_steps course.steps exact wellKeyed (by rwa [course.history_eq])
  obtain ⟨exactAfter, wellKeyedAfter, found⟩ := obeyed
  rw [course.store_eq] at exactAfter wellKeyedAfter found
  rw [sentKeys, course.history_eq] at found
  obtain ⟨sessions, known, settled⟩ :=
    settled_of_finished finished fun exchange sent => (stores exchange sent).keeps
  obtain ⟨source, keyed⟩ := wellKeyedAfter.exists_key shown
  have isSettled := settled session ((mem_knownSessions known).mpr (.inl shown))
    ⟨source, name, address⟩ (mem_dependenciesOf.mpr ⟨keyed, lists⟩) parsed read
  refine (lookup?_isSome_iff_holds exactAfter wellKeyedAfter).mp ?_
  obtain zero | stored | sent := isSettled
  · exact absurd (Address.eq_zero_of_lowerAscii read zero) nonzero
  · exact stored
  · exact found _ sent

/-- When an unbounded crawl of a well-keyed store in exact mode returns a report, and the service
stored a session for everything that it was asked for and changed nothing else, every node of the
graph of the store is analyzed unless it stands for the zero address or for no address. -/
theorem graph_analyzed_when_finished {report : Report}
    (finished : (recordedCrawl dispatch world limit .unbounded target store).ending =
      .finished report)
    (exact : keyMatch store = .exact) (wellKeyed : WellKeyed store)
    (stores : ∀ exchange ∈ (recordedCrawl dispatch world limit .unbounded target store).history,
      exchange.Stores) :
    ∃ graph, ContractGraph.ofStore
        (recordedCrawl dispatch world limit .unbounded target store).store = .ok graph ∧
      ∀ node ∈ graph.nodes, ∀ parsed, Address.parse? node.address = some parsed →
        parsed ≠ Address.zero → node.analyzed = true := by
  obtain ⟨sessions, known, _⟩ :=
    settled_of_finished finished fun exchange sent => (stores exchange sent).keeps
  obtain ⟨listed, listing, _⟩ := knownSessions_eq_ok_iff.mp known
  refine ⟨ofSessions (listed.map fun found => (found.2, some found.1)), ?_, ?_⟩
  · simp [ContractGraph.ofStore, listing, bind, Except.bind, pure, Except.pure]
  intro node member parsed read nonzero
  have analyzed : (ofSessions (listed.map fun found => (found.2, some found.1))).AnalyzedAt
      node.address := by
    have present : node.address ∈ (ofSessions _).addresses := List.mem_map_of_mem member
    obtain ⟨added, origin, address, mention, same⟩ := mem_addresses_ofSessions.mp present
    obtain ⟨⟨path, session⟩, isListed, rfl⟩ := List.mem_map.mp origin
    obtain ⟨named, rfl | ⟨name, lists⟩⟩ := mem_mentionsOf.mp mention
    · rw [← same]
      exact analyzedAt_ofSessions origin named
    · rw [← same, parse?_nodeId] at read
      obtain ⟨network, held⟩ := held_of_dependency finished exact wellKeyed stores
        ⟨listed, path, listing, isListed⟩ lists read nonzero
      rw [← same, nodeId_of_parse read]
      exact analyzedAt_of_holds listing held
  exact analyzed.analyzed_eq (nodup_addresses_ofSessions _) member

/-- The service adds a session for every request of a crawl that asks for supported networks only.
-/
theorem stores_of_corpusService (corpus : SessionKey → List (String × String)) (limit : Nat)
    (level : Level) (target : Option String) {store : MemoryStore} (tidy : store.Tidy)
    (supported : ∀ key ∈
      (recordedCrawl (corpusService corpus) () limit level target store).dispatchedKeys,
      Network.isSupported key.network = true) :
    ∀ exchange ∈ (recordedCrawl (corpusService corpus) () limit level target store).history,
      exchange.Stores := by
  intro exchange sent
  have served := adds_of_corpusService corpus limit level target tidy exchange sent
  rwa [if_pos (supported exchange.request.key (List.mem_map_of_mem sent))] at served

/-- A vault is crawled over a store that has its registry, and its token with it. The graph has
nodes for all three, those of the registry and the token because others depend on them, and they
are analyzed. -/
theorem graph_analyzed_after_stored_target :
    let outcome := recordedCrawl (corpusService vaultCorpus) () 2 .unbounded
      (some "mainet:0x1111111111111111111111111111111111111111") registryStore
    registryStore.size = 1 ∧ keyMatch registryStore = .exact ∧ WellKeyed registryStore ∧
      outcome.dispatchedKeys = [vaultKey, tokenKey] ∧
      (∀ exchange ∈ outcome.history, exchange.Stores) ∧
      ∃ graph, ContractGraph.ofStore outcome.store = .ok graph ∧
        ∀ key ∈ [vaultKey, tokenKey, registryKey], ∃ node ∈ graph.nodes,
          node.address = key.checksummedAddress ∧ node.analyzed = true := by
  intro outcome
  obtain ⟨⟨report, finished⟩, sent, listed, listing, listsAll⟩ := crawl_registryStore
  have stores : ∀ exchange ∈ outcome.history, exchange.Stores := by
    refine stores_of_corpusService vaultCorpus 2 .unbounded _ tidy_registryStore fun key asked => ?_
    obtain rfl | rfl : key = vaultKey ∨ key = tokenKey := by simpa [sent] using asked
    · decide
    · decide
  obtain ⟨graph, built, analyzed⟩ :=
    graph_analyzed_when_finished finished rfl wellKeyed_registryStore stores
  -- Each of the three is a dependency of another one.
  have depends : ∀ key ∈ [vaultKey, tokenKey, registryKey], key.address ≠ Address.zero ∧
      ∃ source ∈ [vaultKey, tokenKey, registryKey], ∃ dependency ∈ vaultCorpus source,
        dependency.2 = key.checksummedAddress := by
    decide +kernel
  refine ⟨rfl, rfl, wellKeyed_registryStore, sent, stores, graph, built, fun key isOne => ?_⟩
  obtain ⟨nonzero, source, isSource, dependency, isListed, spelled⟩ := depends key isOne
  obtain ⟨_, session, isShown, keyed, lists⟩ := listsAll source isSource
  have read : Address.parse? dependency.2 = some key.address := by
    rw [spelled]
    exact key.address.parse?_checksummed
  obtain ⟨node, member, same⟩ :=
    exists_node_of_dependency built listing isShown keyed (lists ▸ isListed) read
  refine ⟨node, member, same, analyzed node member key.address ?_ nonzero⟩
  rw [same, key.address.parse?_checksummed]

end

end ContractAtlas.Crawl
