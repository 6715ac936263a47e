import ContractAtlas.Proofs.Crawl.Pass

/-!
# What a crawl hands over

The store may change in any way while a request is answered, so nothing here rests on what a store
holds. The invariant `Orderly` rests on the run alone: a key is handed out before its request
is queued and never again, and a request is queued only for the target or for a dependency of a
session that the current pass knows.
-/

namespace ContractAtlas.Crawl

open SessionStore (Shows)

variable {σ : Type} [SessionStore σ]

/-- A session that the current pass may classify: its store lists it, or it was returned. -/
def InPass (events : List (Event σ)) (session : Session) : Prop :=
  ∃ pass, currentPass? events = some pass ∧
    (Shows pass session ∨ session ∈ returnedSessions (exchangesOf events))

/-- Nothing but a new pass takes a session from the current pass. -/
theorem InPass.append {events : List (Event σ)} {session : Session} {event : Event σ}
    (inPass : InPass events session) (within : ∀ store, event ≠ .begun store) :
    InPass (events ++ [event]) session := by
  obtain ⟨pass, latest, origin⟩ := inPass
  refine ⟨pass, (currentPass?_append within).trans latest, origin.imp_right fun returned => ?_⟩
  simp [returned]

/-- Whether a request asks for the contract that a dependency gives, on the route of a level. -/
structure Follows (level : Level) (dependency : Dependency) (request : Request) : Prop where
  reference_eq : request.reference = some dependency.reference
  network_eq : request.key.network = dependency.source.network
  address_eq : Address.parse? dependency.address = some request.key.address
  onRoute : level.frontierRoute? = some request.route

/-- Whether a request asks for the target, or follows a dependency of a session of the current
pass. -/
def Justified (level : Level) (target : Option SessionKey) (events : List (Event σ))
    (request : Request) : Prop :=
  (∃ key, target = some key ∧ request = .forTarget key) ∨
    ∃ session dependency, InPass events session ∧ dependency ∈ dependenciesOf session ∧
      Follows level dependency request

/-- What justifies a request stays while the pass goes on. -/
theorem Justified.append {level : Level} {target : Option SessionKey} {events : List (Event σ)}
    {request : Request} {event : Event σ} (justified : Justified level target events request)
    (within : ∀ store, event ≠ .begun store) :
    Justified level target (events ++ [event]) request := by
  obtain forTarget | ⟨session, dependency, inPass, listed, follows⟩ := justified
  · exact .inl forTarget
  · exact .inr ⟨session, dependency, inPass.append within, listed, follows⟩

/-- What holds after every step of a crawl of a level with a target. -/
structure Orderly (level : Level) (target : Option SessionKey) (events : List (Event σ))
    (stage : Stage σ) : Prop where
  level_eq : stage.run.report.level = level
  distinct : (sentKeys events ++ stage.queue.map Request.key).Nodup
  handedOut : ∀ key ∈ sentKeys events ++ stage.queue.map Request.key, key ∈ stage.run.inFlight
  dispatched_eq : stage.run.report.dispatched =
    (exchangesOf events).map fun exchange => exchange.request.payload
  returned_eq : stage.run.returned = returnedSessions (exchangesOf events)
  waiting_known : ∀ dependency ∈ stage.waiting, ∃ session, InPass events session ∧
    dependency ∈ dependenciesOf session
  queue_justified : ∀ request ∈ stage.queue, Justified level target events request

namespace Orderly

variable {level : Level} {target : Option SessionKey}

/-- At the start the target is all that can wait, and it justifies itself. -/
theorem start (store : σ) : Orderly level target [] (Stage.start level target store) := by
  cases target with
  | none => constructor <;> simp [Stage.start]
  | some key =>
      rw [Stage.start]
      split
      · constructor <;> simp
      · constructor <;> simp [Request.forTarget, Justified]

variable {events : List (Event σ)} {stage next : Stage σ} {event : Event σ}

/-- A queued request stays justified while the pass goes on. -/
theorem still_justified (orderly : Orderly level target events stage)
    (within : ∀ store, event ≠ .begun store) :
    ∀ request ∈ stage.queue, Justified level target (events ++ [event]) request :=
  fun request queued => (orderly.queue_justified request queued).append within

/-- What waits to be classified stays a dependency of a session of the pass while the pass goes on.
-/
theorem still_known (orderly : Orderly level target events stage)
    (within : ∀ store, event ≠ .begun store) :
    ∀ dependency ∈ stage.waiting, ∃ session, InPass (events ++ [event]) session ∧
      dependency ∈ dependenciesOf session := by
  intro dependency waits
  obtain ⟨session, inPass, listed⟩ := orderly.waiting_known dependency waits
  exact ⟨session, inPass.append within, listed⟩

/-- A new pass waits for the dependencies of the sessions that it knows, with an empty queue. -/
theorem beginPass {run : Run} {store : σ} {sessions : List Session}
    (orderly : Orderly level target events ⟨run, store, [], []⟩)
    (known : knownSessions store run.returned = .ok sessions) :
    Orderly level target (events ++ [.begun store])
      ⟨run.afterBeginning, store, sessions.flatMap dependenciesOf, []⟩ where
  level_eq := orderly.level_eq
  distinct := by simpa using orderly.distinct
  handedOut := by simpa using orderly.handedOut
  dispatched_eq := by simpa using orderly.dispatched_eq
  returned_eq := by simpa using orderly.returned_eq
  waiting_known := by
    intro dependency waits
    obtain ⟨session, member, listed⟩ := List.mem_flatMap.mp waits
    refine ⟨session, ⟨store, currentPass?_begun events store, ?_⟩, listed⟩
    have returned_eq : run.returned = _ := orderly.returned_eq
    simpa [← returned_eq] using ((mem_knownSessions known).mp member).imp_right And.left
  queue_justified := nofun

/-- Classifying a dependency queues nothing, or a request for a key that was not handed out before.
-/
theorem classify {run : Run} {store : σ} {dependency : Dependency} {waiting : List Dependency}
    {queue : List Request} {state : EntryState} {request : Option Request}
    (orderly : Orderly level target events ⟨run, store, dependency :: waiting, queue⟩)
    (outcome : Crawl.classify store run.report.level run.inFlight dependency.source
      dependency.variableName dependency.address = (state, request)) :
    Orderly level target (events ++ [.classified store dependency state request])
      ⟨run.afterClassified dependency state request, store, waiting, queue ++ request.toList⟩ := by
  have within : ∀ begun, Event.classified store dependency state request ≠ .begun begun := nofun
  have waiting_known := orderly.still_known within
  have queue_justified := orderly.still_justified within
  cases request with
  | none =>
      constructor
      · exact orderly.level_eq
      · simpa using orderly.distinct
      · simpa using orderly.handedOut
      · simpa using orderly.dispatched_eq
      · simpa using orderly.returned_eq
      · exact fun other waits => waiting_known other (List.mem_cons_of_mem _ waits)
      · simpa using queue_justified
  | some request =>
      obtain ⟨parsed, read, _, key_eq, reference_eq, onRoute, _, fresh⟩ := classify_eq_some outcome
      have unused := fun member => fresh (orderly.handedOut request.key member)
      constructor
      · exact orderly.level_eq
      · have distinct := List.nodup_append.mpr
          ⟨orderly.distinct, List.nodup_singleton request.key, by grind⟩
        simpa using distinct
      · intro key member
        have member : key ∈ sentKeys events ++ queue.map Request.key ∨ key = request.key := by
          simpa [or_assoc] using member
        rw [Run.afterClassified_inFlight]
        obtain older | rfl := member
        · exact List.mem_append_left _ (orderly.handedOut key older)
        · simp
      · simpa using orderly.dispatched_eq
      · simpa using orderly.returned_eq
      · exact fun other waits => waiting_known other (List.mem_cons_of_mem _ waits)
      · intro queued member
        obtain member | member := List.mem_append.mp member
        · exact queue_justified queued member
        · obtain rfl : queued = request := by simpa using member
          obtain ⟨session, inPass, listed⟩ := waiting_known dependency (List.mem_cons_self ..)
          have level_eq : run.report.level = level := orderly.level_eq
          exact .inr ⟨session, dependency, inPass, listed,
            ⟨reference_eq, by rw [key_eq], by rw [key_eq, read], level_eq ▸ onRoute⟩⟩

/-- Passing a request over takes it from the queue and nothing else. -/
theorem appear {run : Run} {store : σ} {request : Request} {queue : List Request}
    (orderly : Orderly level target events ⟨run, store, [], request :: queue⟩) :
    Orderly level target (events ++ [.appeared request store])
      ⟨run.afterAppeared request, store, [], queue⟩ := by
  have kept : (sentKeys (events ++ [.appeared request store]) ++ queue.map Request.key).Sublist
      (sentKeys events ++ (request :: queue).map Request.key) := by simp
  constructor
  · simpa using orderly.level_eq
  · exact kept.nodup orderly.distinct
  · simpa using fun key member => orderly.handedOut key (kept.subset member)
  · simpa using orderly.dispatched_eq
  · simpa using orderly.returned_eq
  · nofun
  · intro queued member
    exact orderly.still_justified (fun _ same => by cases same) queued
      (List.mem_cons_of_mem _ member)

/-- Sending a request moves its key from the queue to those that were sent. -/
theorem send {run : Run} {store after : σ} {request : Request} {queue : List Request}
    {answer : Except AtlasError (Option Session)}
    (orderly : Orderly level target events ⟨run, store, [], request :: queue⟩) :
    Orderly level target (events ++ [.sent ⟨request, store, answer, after⟩])
      ⟨run.afterAnswer request answer, after, [], queue⟩ where
  level_eq := by simpa using orderly.level_eq
  distinct := by simpa using orderly.distinct
  handedOut := by simpa using orderly.handedOut
  dispatched_eq := by simpa using orderly.dispatched_eq
  returned_eq := by simpa using orderly.returned_eq
  waiting_known := nofun
  queue_justified := fun queued member =>
    orderly.still_justified (fun _ same => by cases same) queued (List.mem_cons_of_mem _ member)

/-- Every step keeps a crawl orderly. -/
theorem preserved (orderly : Orderly level target events stage) (step : Step stage event next) :
    Orderly level target (events ++ [event]) next := by
  cases step with
  | beginPass known => exact orderly.beginPass known
  | classify outcome => exact orderly.classify outcome
  | appear _ => exact orderly.appear
  | send _ => exact orderly.send

/-- A crawl is orderly after any steps, whatever the service does. -/
theorem of_steps {store : σ}
    (steps : Steps (Stage.start level target store) events stage) :
    Orderly level target events stage :=
  steps.invariant (Orderly level target) preserved (Orderly.start store)

/-- A request that is sent was queued for a reason, and the store that it meets does not find its
address. -/
theorem of_sent {store : σ} {earlier later : List (Event σ)} {exchange : Exchange σ}
    (steps : Steps (Stage.start level target store) (earlier ++ .sent exchange :: later) stage) :
    Justified level target earlier exchange.request ∧
      isStored exchange.before exchange.request.key.checksummedAddress = false := by
  obtain ⟨before, after, prior, step, _⟩ := steps.split
  have orderly := of_steps prior
  cases step with
  | send absent => exact ⟨orderly.queue_justified _ (List.mem_cons_self ..), absent⟩

/-- A request with a reference follows the dependency that the reference names. -/
theorem dependency_of_sent {store : σ} {earlier later : List (Event σ)} {exchange : Exchange σ}
    {reference : Reference}
    (steps : Steps (Stage.start level target store) (earlier ++ .sent exchange :: later) stage)
    (named : exchange.request.reference = some reference) :
    ∃ session dependency, InPass earlier session ∧ dependency ∈ dependenciesOf session ∧
      dependency.reference = reference ∧ Follows level dependency exchange.request := by
  obtain ⟨_, _, same⟩ | ⟨session, dependency, inPass, listed, follows⟩ := (of_sent steps).1
  · rw [same] at named
    cases named
  · have same := Option.some.inj (follows.reference_eq.symm.trans named)
    exact ⟨session, dependency, inPass, listed, same, follows⟩

/-- Every exchange in some steps has a request that was justified and that met a store without its
address. -/
theorem of_mem_exchangesOf {store : σ} {exchange : Exchange σ}
    (steps : Steps (Stage.start level target store) events stage)
    (sent : exchange ∈ exchangesOf events) :
    (∃ earlier : List (Event σ), Justified level target earlier exchange.request) ∧
      isStored exchange.before exchange.request.key.checksummedAddress = false := by
  obtain ⟨earlier, later, rfl⟩ := List.append_of_mem (mem_exchangesOf.mp sent)
  obtain ⟨justified, absent⟩ := of_sent steps
  exact ⟨⟨earlier, justified⟩, absent⟩

end Orderly

section

variable {ε : Type} (dispatch : Dispatcher (StateM ε) σ) (world : ε) (limit : Nat) (level : Level)
  (target : Option String) (store : σ)

/-- No key is sent twice. -/
theorem dispatchedKeys_nodup :
    (recordedCrawl dispatch world limit level target store).dispatchedKeys.Nodup := by
  obtain ⟨course⟩ := exists_course dispatch world limit level target store
  have distinct := (List.nodup_append.mp (Orderly.of_steps course.steps).distinct).1
  rwa [sentKeys, course.history_eq] at distinct

/-- The report lists the payloads that were sent, in the order in which they were. -/
theorem dispatched_eq_history {report : Report}
    (finished : (recordedCrawl dispatch world limit level target store).ending =
      .finished report) :
    report.dispatched = (recordedCrawl dispatch world limit level target store).history.map
      fun exchange => exchange.request.payload := by
  obtain ⟨course⟩ := exists_course dispatch world limit level target store
  have dispatched := (Orderly.of_steps course.steps).dispatched_eq
  rwa [course.report_eq report finished, course.history_eq] at dispatched

/-- Every exchange of a crawl has a request that was justified and that met a store without its
address. -/
theorem exchange_of_mem_history {exchange : Exchange σ}
    (sent : exchange ∈ (recordedCrawl dispatch world limit level target store).history) :
    (∃ earlier : List (Event σ), Justified level (targetKey? target) earlier exchange.request) ∧
      isStored exchange.before exchange.request.key.checksummedAddress = false := by
  obtain ⟨course⟩ := exists_course dispatch world limit level target store
  rw [← course.history_eq] at sent
  exact Orderly.of_mem_exchangesOf course.steps sent

/-- The target goes by the full route, and everything else by the route of the level. -/
theorem route_of_mem_history {exchange : Exchange σ}
    (sent : exchange ∈ (recordedCrawl dispatch world limit level target store).history) :
    (exchange.request.reference = none →
      targetKey? target = some exchange.request.key ∧ exchange.request.route = .full) ∧
    (exchange.request.reference ≠ none → level.frontierRoute? = some exchange.request.route) := by
  obtain ⟨⟨_, ⟨key, isTarget, same⟩ | ⟨_, _, _, _, follows⟩⟩, _⟩ :=
    exchange_of_mem_history dispatch world limit level target store sent
  · rw [same]
    exact ⟨fun _ => ⟨isTarget, rfl⟩, fun referenced => absurd rfl referenced⟩
  · rw [follows.reference_eq]
    exact ⟨nofun, fun _ => follows.onRoute⟩

/-- Whatever the service answers and does to the store: a crawl sends no key twice and none that the
store finds, it sends the target on the full route and everything else on the route of its level,
and everything else is named by a session that the pass saw or the service returned before. -/
theorem handover_once_absent_and_justified :
    let outcome := recordedCrawl dispatch world limit level target store
    outcome.dispatchedKeys.Nodup ∧
    (∀ report, outcome.ending = .finished report →
      report.dispatched = outcome.dispatchedKeys.map SessionKey.display ∧
        report.dispatched.Nodup) ∧
    (∀ exchange ∈ outcome.history,
      SessionStore.lookup? exchange.before exchange.request.key.checksummedAddress = none) ∧
    (∀ exchange ∈ outcome.history,
      (exchange.request.reference = none →
        targetKey? target = some exchange.request.key ∧ exchange.request.route = .full) ∧
      (exchange.request.reference ≠ none →
        level.frontierRoute? = some exchange.request.route)) ∧
    (level = .targetOnly → ∀ exchange ∈ outcome.history, exchange.request.reference = none) ∧
    ∃ course : Course (Stage.start level (targetKey? target) store) outcome,
      ∀ earlier exchange later reference,
        course.events = earlier ++ .sent exchange :: later →
        exchange.request.reference = some reference →
        ∃ pass session source address,
          currentPass? earlier = some pass ∧
          (Shows pass session ∨ session ∈ returnedSessions (exchangesOf earlier)) ∧
          session.key = .ok source ∧
          (reference.variableName, address) ∈ session.externalAddresses ∧
          reference.source = source.display ∧
          Address.parse? address = some exchange.request.key.address ∧
          exchange.request.key.network = source.network := by
  intro outcome
  refine ⟨dispatchedKeys_nodup dispatch world limit level target store, ?_, ?_, ?_, ?_, ?_⟩
  · intro report finished
    have dispatched : report.dispatched = outcome.dispatchedKeys.map SessionKey.display := by
      rw [dispatched_eq_history dispatch world limit level target store finished,
        Outcome.dispatchedKeys, List.map_map]
      rfl
    rw [dispatched]
    exact ⟨rfl, (dispatchedKeys_nodup dispatch world limit level target store).map
      SessionKey.display_injective⟩
  · intro exchange sent
    have absent := (exchange_of_mem_history dispatch world limit level target store sent).2
    simpa [isStored] using absent
  · intro exchange sent
    exact route_of_mem_history dispatch world limit level target store sent
  · rintro rfl exchange sent
    by_contra referenced
    have onRoute := (route_of_mem_history dispatch world limit _ target store sent).2 referenced
    cases onRoute
  · obtain ⟨course⟩ := exists_course dispatch world limit level target store
    refine ⟨course, ?_⟩
    intro earlier exchange later reference split named
    have steps := course.steps
    rw [split] at steps
    obtain ⟨session, dependency, ⟨pass, latest, origin⟩, listed, rfl, follows⟩ :=
      Orderly.dependency_of_sent steps named
    obtain ⟨keyed, lists⟩ := mem_dependenciesOf.mp listed
    exact ⟨pass, session, dependency.source, dependency.address, latest, origin, keyed, lists,
      rfl, follows.address_eq, follows.network_eq⟩

end

end ContractAtlas.Crawl
