import ContractAtlas.Proofs.Crawl.Identity

/-!
# A crawl of a closed world ends

Every pass after which a crawl goes on hands out a key that was not handed out before. Where all
sessions are on some networks and give some addresses, these keys are pairs of the two, so there are
only so many such passes, whatever the service answers and stores. `Confined` is what every step
keeps of that.
-/

namespace ContractAtlas

/-- The network of a key is the one that the session names, or the default. -/
theorem Session.network_of_key {session : Session} {key : SessionKey}
    (keyed : session.key = .ok key) : session.effectiveNetwork = key.network := by
  rw [Session.key] at keyed
  split at keyed
  · cases keyed
    rfl
  · cases keyed

/-- Whether a session is on one of some networks and gives none but some addresses. -/
structure Session.Within (networks : Finset String) (addresses : Finset Address)
    (session : Session) : Prop where
  network : session.effectiveNetwork ∈ networks
  dependencies : ∀ name written, (name, written) ∈ session.externalAddresses →
    ∀ address, Address.parse? written = some address → address ∈ addresses

namespace Crawl

open SessionStore (Shows)

variable {σ : Type} [SessionStore σ]

/-- Whether the session that comes with the answer of an exchange, if any, and all sessions that the
store shows afterwards are on some networks and give none but some addresses. -/
structure Exchange.Within (networks : Finset String) (addresses : Finset Address)
    (exchange : Exchange σ) : Prop where
  returned : ∀ session, exchange.session? = some session → session.Within networks addresses
  shown : ∀ session, Shows exchange.after session → session.Within networks addresses

/-- Whether all sessions that a store ever shows and that the service ever returns are on some
networks and give none but some addresses. -/
structure ClosedWorld (networks : Finset String) (addresses : Finset Address) (store : σ)
    (history : List (Exchange σ)) : Prop where
  shown : ∀ session, Shows store session → session.Within networks addresses
  exchanges : ∀ exchange ∈ history, exchange.Within networks addresses

/-- What holds at every stage in a closed world: what is known stays in it, and no key is handed out
twice or from outside of it, except those that were in flight at first. -/
structure Confined (networks : Finset String) (addresses : Finset Address)
    (first : List SessionKey) (stage : Stage σ) : Prop where
  shown : ∀ session, Shows stage.store session → session.Within networks addresses
  returned : ∀ session ∈ stage.run.returned, session.Within networks addresses
  waiting : ∀ dependency ∈ stage.waiting, dependency.source.network ∈ networks ∧
    ∀ address, Address.parse? dependency.address = some address → address ∈ addresses
  distinct : stage.run.inFlight.Nodup
  inFlight : ∀ key ∈ stage.run.inFlight,
    key ∈ first ∨ key.network ∈ networks ∧ key.address ∈ addresses

namespace Confined

variable {networks : Finset String} {addresses : Finset Address} {first : List SessionKey}
  {stage next : Stage σ} {event : Event σ} {events : List (Event σ)}

/-- The dependencies that a pass waits for have their networks and addresses within the world. -/
theorem beginPass {run : Run} {store : σ} {sessions : List Session}
    (confined : Confined networks addresses first ⟨run, store, [], []⟩)
    (known : knownSessions store run.returned = .ok sessions) :
    Confined networks addresses first
      ⟨run.afterBeginning, store, sessions.flatMap dependenciesOf, []⟩ := by
  refine ⟨confined.shown, confined.returned, fun dependency waits => ?_, confined.distinct,
    confined.inFlight⟩
  obtain ⟨session, member, depends⟩ := List.mem_flatMap.mp waits
  obtain ⟨keyed, lists⟩ := mem_dependenciesOf.mp depends
  have within : session.Within networks addresses := by
    obtain shown | ⟨returned, _⟩ := (mem_knownSessions known).mp member
    · exact confined.shown session shown
    · exact confined.returned session returned
  have onNetwork := within.network
  rw [Session.network_of_key keyed] at onNetwork
  exact ⟨onNetwork, within.dependencies _ _ lists⟩

/-- A key that is handed out belongs to a dependency, so it is within the world. -/
theorem classify {run : Run} {store : σ} {dependency : Dependency} {waiting : List Dependency}
    {queue : List Request} {state : EntryState} {request : Option Request}
    (confined : Confined networks addresses first ⟨run, store, dependency :: waiting, queue⟩)
    (outcome : Crawl.classify store run.report.level run.inFlight dependency.source
      dependency.variableName dependency.address = (state, request)) :
    Confined networks addresses first
      ⟨run.afterClassified dependency state request, store, waiting,
        queue ++ request.toList⟩ := by
  obtain ⟨⟨onNetwork, isOneOf⟩, waitingLater⟩ := List.forall_mem_cons.mp confined.waiting
  refine ⟨confined.shown, confined.returned, waitingLater, ?_, ?_⟩
  · rw [Run.afterClassified_inFlight]
    cases request with
    | none => simpa using confined.distinct
    | some request =>
        obtain ⟨_, _, _, _, _, _, _, fresh⟩ := classify_eq_some outcome
        exact List.nodup_append.mpr ⟨confined.distinct, List.nodup_singleton _, by grind⟩
  · rw [Run.afterClassified_inFlight]
    cases request with
    | none => simpa using confined.inFlight
    | some request =>
        obtain ⟨parsed, read, _, key_eq, _⟩ := classify_eq_some outcome
        intro key member
        obtain older | rfl : key ∈ run.inFlight ∨ key = request.key := by simpa using member
        · exact confined.inFlight key older
        · rw [key_eq]
          exact .inr ⟨onNetwork, isOneOf parsed read⟩

/-- Passing a request over hands nothing out. -/
theorem appear {run : Run} {store : σ} {request : Request} {queue : List Request}
    (confined : Confined networks addresses first ⟨run, store, [], request :: queue⟩) :
    Confined networks addresses first ⟨run.afterAppeared request, store, [], queue⟩ where
  shown := confined.shown
  returned := by simpa using confined.returned
  waiting := nofun
  distinct := by simpa using confined.distinct
  inFlight := by simpa using confined.inFlight

/-- The answer and the store after it stay within the world, as the exchange does. -/
theorem send {run : Run} {store after : σ} {request : Request} {queue : List Request}
    {answer : Except AtlasError (Option Session)}
    (confined : Confined networks addresses first ⟨run, store, [], request :: queue⟩)
    (within : Exchange.Within networks addresses ⟨request, store, answer, after⟩) :
    Confined networks addresses first ⟨run.afterAnswer request answer, after, [], queue⟩ where
  shown := within.shown
  returned session member := by
    obtain older | new : session ∈ run.returned ∨ sessionOf? answer = some session := by
      simpa using member
    · exact confined.returned session older
    · exact within.returned session new
  waiting := nofun
  distinct := by simpa using confined.distinct
  inFlight := by simpa using confined.inFlight

/-- A step leaves a closed world closed if its exchange does. -/
theorem preserved (confined : Confined networks addresses first stage)
    (step : Step stage event next)
    (within : ∀ exchange, event = .sent exchange → exchange.Within networks addresses) :
    Confined networks addresses first next := by
  cases step with
  | beginPass known => exact confined.beginPass known
  | classify outcome => exact confined.classify outcome
  | appear _ => exact confined.appear
  | send _ => exact confined.send (within _ rfl)

/-- Steps with exchanges of the world only stay within it. -/
theorem of_steps (confined : Confined networks addresses first stage)
    (steps : Steps stage events next)
    (within : ∀ exchange ∈ exchangesOf events, exchange.Within networks addresses) :
    Confined networks addresses first next := by
  induction steps with
  | none => exact confined
  | more step _ inductionHypothesis =>
      simp only [exchangesOf_cons, List.mem_append, Option.mem_toList] at within
      refine inductionHypothesis (confined.preserved step fun exchange same => ?_)
        fun exchange member => within exchange (.inr member)
      exact within exchange (.inl (by simp [same]))

/-- There are only so many keys to hand out. -/
theorem length_inFlight_le (confined : Confined networks addresses first stage) :
    stage.run.inFlight.length ≤ first.length + networks.card * addresses.card := by
  have subset : stage.run.inFlight ⊆
      first ++ (networks ×ˢ addresses).toList.map fun pair => ⟨pair.1, pair.2⟩ := by
    intro key member
    obtain isFirst | ⟨onNetwork, isOneOf⟩ := confined.inFlight key member
    · exact List.mem_append_left _ isFirst
    · refine List.mem_append_right _ (List.mem_map.mpr ⟨(key.network, key.address), ?_, rfl⟩)
      simp [onNetwork, isOneOf]
  simpa using (List.subperm_of_subset confined.distinct subset).length_le

end Confined

/-! ## Passes -/

section

variable {ε : Type}

/-- Classifying dependencies hands out exactly the keys of the requests that it queues. -/
theorem Frontier.exists_queued (store : σ) (level : Level) (dependencies : List Dependency)
    (frontier : Frontier) :
    let next := dependencies.foldl (visitDependency store level) frontier
    ∃ queued, next.queue = frontier.queue ++ queued ∧
      next.inFlight = frontier.inFlight ++ queued.map Request.key := by
  induction dependencies generalizing frontier with
  | nil => exact ⟨[], by simp⟩
  | cons dependency later inductionHypothesis =>
      obtain ⟨queued, queue_eq, inFlight_eq⟩ :=
        inductionHypothesis (frontier.visitDependency store level dependency)
      refine ⟨(dependency.request? store level frontier.inFlight).toList ++ queued, ?_, ?_⟩
      · rw [List.foldl_cons, queue_eq, ← List.append_assoc]
        rfl
      · rw [List.foldl_cons, inFlight_eq, List.map_append, ← List.append_assoc, ← Option.toList_map]
        rfl

/-- A pass hands out exactly the keys of the requests that it finds. -/
theorem inFlight_of_classifyPass {run next : Run} {store : σ} {queue : List Request}
    (pass : run.classifyPass store = .ok (next, queue)) :
    next.inFlight = run.inFlight ++ queue.map Request.key := by
  obtain ⟨sessions, _, rfl, rfl⟩ := Run.classifyPass_eq_ok_iff.mp pass
  obtain ⟨queued, queue_eq, inFlight_eq⟩ := Frontier.exists_queued store run.report.level
    (sessions.flatMap dependenciesOf) ⟨run.report.entries, run.inFlight, []⟩
  rw [Run.frontierAfter, queue_eq]
  exact inFlight_eq

variable {dispatch : Dispatcher (StateM ε) σ} {before after pause : Pause ε σ} {limit : Nat}
  {outcome : Outcome σ}

/-- A turn hands out a key. -/
theorem Turn.length_inFlight_lt (turn : Turn dispatch before after) :
    before.run.inFlight.length < after.run.inFlight.length := by
  obtain ⟨next, request, later, pass, result⟩ := turn
  obtain ⟨_, _, drained⟩ :=
    steps_drain dispatch (request :: later) next before.store before.history before.world
  have handedOut := congrArg List.length (inFlight_of_classifyPass pass)
  have kept := congrArg List.length drained.inFlight_eq
  simp only [result, List.length_append, List.length_map, List.length_cons] at handedOut kept
  omega

/-- A turn counts as one pass. -/
theorem Turn.passes_eq (turn : Turn dispatch before after) :
    after.run.report.passes = before.run.report.passes + 1 := by
  obtain ⟨next, request, later, pass, result⟩ := turn
  have kept :=
    passes_drain dispatch (request :: later) next before.store before.history before.world
  rw [result] at kept
  rw [← (report_of_classifyPass pass).1, ← kept]

namespace Passes

/-- Passes over a closed world end before the limit if there are more of them than keys that can
still be handed out: a pass after which another one follows has handed out a new key. -/
theorem ends_of_confined {networks : Finset String} {addresses : Finset Address}
    {first : List SessionKey} (passes : Passes dispatch limit pause outcome)
    (confined : Confined networks addresses first ⟨pause.run, pause.store, [], []⟩)
    (within : ∀ exchange ∈ outcome.history, exchange.Within networks addresses)
    (room : first.length + networks.card * addresses.card < pause.run.inFlight.length + limit) :
    outcome.ending ≠ .passLimitReached := by
  induction passes with
  | limitReached =>
      have bounded := confined.length_inFlight_le
      simp only at bounded
      omega
  | failed _ => simp
  | idle _ => simp
  | last _ _ => simp
  | more turn _ rest inductionHypothesis =>
      obtain ⟨events, sent, steps⟩ := turn.steps
      obtain ⟨_, _, kept, _⟩ := rest.steps
      have grown := turn.length_inFlight_lt
      refine inductionHypothesis (confined.of_steps steps fun exchange member => ?_) within
        (by omega)
      refine within exchange ?_
      rw [kept, sent]
      exact List.mem_append_left _ (List.mem_append_right _ member)

/-- Passes that end before a limit end in the same way under any higher one. -/
theorem add (passes : Passes dispatch limit pause outcome)
    (ends : outcome.ending ≠ .passLimitReached) (extra : Nat) :
    Passes dispatch (limit + extra) pause outcome := by
  induction passes with
  | limitReached => exact absurd rfl ends
  | failed unlisted => rw [Nat.add_right_comm]; exact .failed unlisted
  | idle nothing => rw [Nat.add_right_comm]; exact .idle nothing
  | last turn bounded => rw [Nat.add_right_comm]; exact .last turn bounded
  | more turn unbounded _ inductionHypothesis =>
      rw [Nat.add_right_comm]
      exact .more turn unbounded (inductionHypothesis ends)

/-- The report of some passes counts no more of them than the limit allows. -/
theorem passes_le (passes : Passes dispatch limit pause outcome) {report : Report}
    (finished : outcome.ending = .finished report) :
    report.passes ≤ pause.run.report.passes + limit := by
  induction passes with
  | limitReached => cases finished
  | failed _ => cases finished
  | idle nothing =>
      cases finished
      have counted := (report_of_classifyPass nothing).1
      omega
  | last turn _ =>
      cases finished
      have counted := turn.passes_eq
      omega
  | more turn _ _ inductionHypothesis =>
      have counted := turn.passes_eq
      have later := inductionHypothesis finished
      omega

end Passes

end

/-! ## Crawls -/

section

variable {ε : Type} (dispatch : Dispatcher (StateM ε) σ) (world : ε) (level : Level)
  (target : Option String) (store : σ)

/-- At the start nothing has been handed out but the target. -/
theorem Confined.start {networks : Finset String} {addresses : Finset Address}
    (level : Level) (target : Option SessionKey) {store : σ}
    (shown : ∀ session, Shows store session → session.Within networks addresses) :
    Confined networks addresses (Stage.start level target store).run.inFlight
      (Stage.start level target store) := by
  cases target with
  | none => refine ⟨shown, ?_, ?_, List.nodup_nil, ?_⟩ <;> simp [Stage.start]
  | some key =>
      rw [Stage.start]
      split
      · refine ⟨shown, ?_, ?_, List.nodup_nil, ?_⟩ <;> simp
      · refine ⟨shown, ?_, ?_, List.nodup_singleton key, ?_⟩ <;> simp

/-- Nothing but the target is handed out at the start. -/
theorem length_inFlight_start_le (level : Level) (target : Option SessionKey) (store : σ) :
    (Stage.start level target store).run.inFlight.length ≤ 1 := by
  cases target with
  | none => simp [Stage.start]
  | some key =>
      rw [Stage.start]
      split <;> simp

/-- A crawl of a closed world sends no more requests than it has keys, and one for the target. -/
theorem length_history_le {networks : Finset String} {addresses : Finset Address} (limit : Nat)
    (closed : ClosedWorld networks addresses store
      (recordedCrawl dispatch world limit level target store).history) :
    (recordedCrawl dispatch world limit level target store).history.length ≤
      networks.card * addresses.card + 1 := by
  obtain ⟨course⟩ := exists_course dispatch world limit level target store
  have orderly := Orderly.of_steps course.steps
  have confined := (Confined.start level (targetKey? target) closed.shown).of_steps course.steps
    (by rw [course.history_eq]; exact closed.exchanges)
  have distinct := (List.nodup_append.mp orderly.distinct).1
  have handedOut : sentKeys course.events ⊆ course.stage.run.inFlight :=
    fun key sent => orderly.handedOut key (List.mem_append_left _ sent)
  calc (recordedCrawl dispatch world limit level target store).history.length
      = (sentKeys course.events).length := by rw [sentKeys, course.history_eq, List.length_map]
    _ ≤ course.stage.run.inFlight.length := (List.subperm_of_subset distinct handedOut).length_le
    _ ≤ (Stage.start level (targetKey? target) store).run.inFlight.length +
          networks.card * addresses.card := confined.length_inFlight_le
    _ ≤ networks.card * addresses.card + 1 := by
      have started := length_inFlight_start_le level (targetKey? target) store
      omega

/-- A crawl of a closed world ends by itself, whatever the service does: with one pass more than
there are pairs of a network and an address it does not reach its limit, so it comes to the same
with any higher limit. It sends no more requests than that either. -/
theorem crawl_ends_in_closed_world (networks : Finset String) (addresses : Finset Address) :
    let bound := networks.card * addresses.card + 1
    let outcome := recordedCrawl dispatch world bound level target store
    ClosedWorld networks addresses store outcome.history →
      outcome.ending ≠ .passLimitReached ∧
      (∀ limit ≥ bound, recordedCrawl dispatch world limit level target store = outcome) ∧
      (∀ report, outcome.ending = .finished report → report.passes ≤ bound) ∧
      outcome.history.length ≤ bound := by
  intro bound outcome closed
  obtain ⟨_, invalid, failed⟩ | ⟨sendings, pause, sent, started, unpassed, passes⟩ :=
    recordedCrawl_cases dispatch world level target store
  · have outcome_eq : outcome = _ := failed bound
    rw [outcome_eq]
    exact ⟨nofun, fun limit _ => failed limit, nofun, Nat.zero_le _⟩
  have confined : Confined networks addresses
      (Stage.start level (targetKey? target) store).run.inFlight
      ⟨pause.run, pause.store, [], []⟩ := by
    obtain ⟨events, _, kept, _⟩ := (passes bound).steps
    refine (Confined.start level (targetKey? target) closed.shown).of_steps started
      fun exchange member => closed.exchanges exchange ?_
    rw [show outcome.history = _ from kept, sent]
    exact List.mem_append_left _ member
  have ends : outcome.ending ≠ .passLimitReached := by
    refine (passes bound).ends_of_confined confined closed.exchanges ?_
    have kept := congrArg List.length started.inFlight_eq
    simp only [List.length_append] at kept
    omega
  refine ⟨ends, fun limit enough => ?_, fun report finished => ?_,
    length_history_le dispatch world level target store bound closed⟩
  · obtain ⟨extra, rfl⟩ := Nat.exists_eq_add_of_le enough
    exact (passes _).outcome_eq.trans ((passes bound).add ends extra).outcome_eq.symm
  · have counted := (passes bound).passes_le finished
    omega

end

/-! ## A service that stores nothing -/

/-- A world is closed if the service keeps the stores to some that show, and returns, only sessions
of it. -/
theorem ClosedWorld.of_answers {ε : Type} {networks : Finset String} {addresses : Finset Address}
    (kept : σ → Prop) {dispatch : Dispatcher (StateM ε) σ} {store : σ}
    (shown : ∀ store, kept store → ∀ session, Shows store session →
      session.Within networks addresses)
    (answers : ∀ request store world, kept store →
      (∀ session, sessionOf? ((dispatch request store).run world).1.1 = some session →
        session.Within networks addresses) ∧
      kept ((dispatch request store).run world).1.2)
    (initial : kept store) (world : ε) (limit : Nat) (level : Level) (target : Option String) :
    ClosedWorld networks addresses store
      (recordedCrawl dispatch world limit level target store).history where
  shown := shown store initial
  exchanges :=
    forall_history_recordedCrawl dispatch (fun request store world holds =>
      ⟨⟨(answers request store world holds).1, shown _ (answers request store world holds).2⟩,
        (answers request store world holds).2⟩)
      world limit level target store initial

/-- A service that stores nothing and returns the same session for every request. -/
def repeatingService (session : Session) : Dispatcher (StateM Unit) MemoryStore :=
  fun _ store => return (.ok (some session), store)

/-- The session of a contract that depends on itself. -/
def selfReferring (key : SessionKey) : Session :=
  listingSession key [("self", key.checksummedAddress)]

/-- The session names its own network and address, and no others. -/
theorem within_selfReferring {key : SessionKey} (named : key.network ≠ "") :
    (selfReferring key).Within {key.network} {key.address} := by
  constructor
  · simp [selfReferring, listingSession, bareSession, Session.effectiveNetwork, Session.network,
      named]
  · simp [selfReferring, listingSession, Session.externalAddresses, SessionKey.checksummedAddress,
      eq_comm]

/-- The service returns one session that depends on itself, over and over, and stores nothing. -/
theorem crawl_ends_with_repeatingService :
    let key : SessionKey := ⟨"mainet", ⟨List.replicate 40 1, rfl⟩⟩
    let store := MemoryStore.mk .exact []
    let outcome := recordedCrawl (repeatingService (selfReferring key)) () 2 .unbounded
      (some "mainet:0x2222222222222222222222222222222222222222") store
    ClosedWorld {key.network} {key.address} store outcome.history ∧
      outcome.ending ≠ .passLimitReached ∧ outcome.history.length ≤ 2 := by
  intro key store outcome
  have within : (selfReferring key).Within {key.network} {key.address} :=
    within_selfReferring (by decide)
  have closed : ClosedWorld {key.network} {key.address} store outcome.history := by
    refine .of_answers (· = store) ?_ ?_ rfl () 2 .unbounded _
    · rintro _ rfl session shown
      obtain ⟨_, _, complete, _⟩ := DirectoryView.shows_iff.mp shown
      exact absurd complete MemoryStore.not_complete_empty
    · rintro request _ _ rfl
      exact ⟨by rintro _ ⟨⟩; exact within, rfl⟩
  obtain ⟨ends, _, _, few⟩ := crawl_ends_in_closed_world (repeatingService (selfReferring key)) ()
    .unbounded (some "mainet:0x2222222222222222222222222222222222222222") store {key.network}
    {key.address} closed
  exact ⟨closed, ends, few⟩

end Crawl

end ContractAtlas
