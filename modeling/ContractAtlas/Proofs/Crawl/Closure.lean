import ContractAtlas.Proofs.Crawl.Handover
import ContractAtlas.Proofs.Crawl.StoringService

/-!
# What an unbounded crawl leaves behind

An unbounded crawl ends with a pass that finds nothing to send. Keys that were handed out count as
analyzed in that pass, so the pass alone does not say that the store has everything: the invariant
`Accounted` says what became of those keys. From both follows that every dependency of every known
session is stored, was sent, or is no contract, and that a second crawl has nothing to do unless
something that was sent is missing.
-/

namespace ContractAtlas.Crawl

variable {σ : Type} [SessionStore σ]

/-! ## What became of the keys that were handed out -/

/-- Whether the store lost no session in an exchange: whatever address found a document before finds
one afterwards. That a lookup finds a document is all that a crawl goes by when it takes a contract
for stored, and it does not look into the document, so the document need not be readable for its
loss to count. -/
def Exchange.Keeps (exchange : Exchange σ) : Prop :=
  ∀ address : Address, isStored exchange.before address.checksummed = true →
    isStored exchange.after address.checksummed = true

/-- Every key that was handed out was sent, waits to be sent, or is found by the store. -/
def Accounted (events : List (Event σ)) (stage : Stage σ) : Prop :=
  ∀ key ∈ stage.run.inFlight, key ∈ sentKeys events ∨ key ∈ stage.queue.map Request.key ∨
    isStored stage.store key.checksummedAddress = true

namespace Accounted

/-- At the start only the target is handed out, and it waits. -/
theorem start (level : Level) (target : Option SessionKey) (store : σ) :
    Accounted [] (Stage.start level target store) := by
  cases target with
  | none => simp [Accounted, Stage.start]
  | some key =>
      rw [Stage.start]
      split <;> simp [Accounted, Request.forTarget]

variable {events : List (Event σ)} {stage next : Stage σ} {event : Event σ}

/-- A key was sent before, is that of the first request or of a later one, or is stored. -/
theorem of_first {run : Run} {store : σ} {request : Request} {queue : List Request}
    (accounted : Accounted events ⟨run, store, [], request :: queue⟩) {key : SessionKey}
    (handedOut : key ∈ run.inFlight) :
    key ∈ sentKeys events ∨ (key = request.key ∨ key ∈ queue.map Request.key) ∨
      isStored store key.checksummedAddress = true := by
  simpa using accounted key handedOut

/-- A step keeps the account if the store keeps what it finds. -/
theorem preserved (accounted : Accounted events stage) (step : Step stage event next)
    (keeps : ∀ exchange, event = .sent exchange → exchange.Keeps) :
    Accounted (events ++ [event]) next := by
  intro key handedOut
  cases step with
  | beginPass _ => simpa using accounted key (by simpa using handedOut)
  | @classify _ _ _ _ queue _ request _ =>
      obtain older | ⟨new, isNew, rfl⟩ : key ∈ _ ∨ ∃ new, request = some new ∧ new.key = key := by
        simpa using handedOut
      · refine (accounted key older).imp (by simp) (Or.imp_left fun queued => ?_)
        rw [List.map_append]
        exact List.mem_append_left _ queued
      · simp [isNew]
  | @appear _ store request queue stored =>
      obtain sent | (rfl | queued) | found := accounted.of_first (by simpa using handedOut)
      · exact .inl (by simp [sent])
      · exact .inr (.inr stored)
      · exact .inr (.inl queued)
      · exact .inr (.inr found)
  | @send _ store request queue _ after _ =>
      obtain sent | (rfl | queued) | found := accounted.of_first (by simpa using handedOut)
      · exact .inl (by simp [sent])
      · exact .inl (by simp)
      · exact .inr (.inl queued)
      · exact .inr (.inr (keeps _ rfl key.address found))

/-- Every handed out key is accounted for after any steps in which the store loses nothing. -/
theorem of_steps {level : Level} {target : Option SessionKey} {store : σ}
    (steps : Steps (Stage.start level target store) events stage)
    (keeps : ∀ exchange ∈ exchangesOf events, exchange.Keeps) :
    Accounted events stage := by
  refine steps.invariant
    (fun earlier stage =>
      (∀ exchange ∈ exchangesOf earlier, exchange.Keeps) → Accounted earlier stage)
    (fun held step keeps => ?_) (fun _ => start level target store) keeps
  refine (held fun exchange member => keeps exchange ?_).preserved step fun exchange same => ?_
  · simp [member]
  · exact keeps exchange (by simp [same])

end Accounted

/-! ## Closure -/

/-- Whether a dependency needs no further work: it gives no address, the zero address, a contract
that the store finds, or one whose key was sent. -/
def Dependency.Settled (store : σ) (sent : List SessionKey) (dependency : Dependency) : Prop :=
  ∀ parsed, Address.parse? dependency.address = some parsed →
    Text.lowerAscii dependency.address = Address.zero.lowerText ∨
      isStored store parsed.checksummed = true ∨ ⟨dependency.source.network, parsed⟩ ∈ sent

/-- Where all that was sent is stored, a settled dependency leads to no request in a new crawl. -/
theorem Dependency.Settled.request?_eq_none {store : σ} {sent : List SessionKey}
    {dependency : Dependency} (settled : dependency.Settled store sent)
    (stored : ∀ key ∈ sent, isStored store key.checksummedAddress = true) (level : Level) :
    dependency.request? store level [] = none := by
  rw [Dependency.request?, classify_eq_none_iff]
  intro parsed read
  obtain zero | found | wasSent := settled parsed read
  · exact .inr (.inr (.inl zero))
  · exact .inl found
  · exact .inl (stored _ wasSent)

section

variable {ε : Type} {dispatch : Dispatcher (StateM ε) σ} {world : ε} {limit : Nat}
  {target : Option String} {store : σ}

/-- At the end of an unbounded crawl every dependency of every known session is settled. -/
theorem settled_of_finished {report : Report}
    (finished : (recordedCrawl dispatch world limit .unbounded target store).ending =
      .finished report)
    (keeps : ∀ exchange ∈ (recordedCrawl dispatch world limit .unbounded target store).history,
      exchange.Keeps) :
    let outcome := recordedCrawl dispatch world limit .unbounded target store
    ∃ sessions, knownSessions outcome.store (returnedSessions outcome.history) = .ok sessions ∧
      ∀ session ∈ sessions, ∀ dependency ∈ dependenciesOf session,
        dependency.Settled outcome.store outcome.dispatchedKeys := by
  intro outcome
  obtain ⟨events, last, next, history_eq, steps, pass, _⟩ :=
    exists_closingPass dispatch world limit target store finished
  have orderly := Orderly.of_steps steps
  have accounted := Accounted.of_steps steps (by rwa [history_eq])
  obtain ⟨sessions, known, nothing⟩ := classifyPass_queue_nil_iff.mp ⟨next, pass⟩
  have level_eq : last.report.level = .unbounded := orderly.level_eq
  have returned_eq : last.returned = returnedSessions (exchangesOf events) := orderly.returned_eq
  rw [returned_eq, history_eq] at known
  refine ⟨sessions, known, fun session member dependency listed parsed read => ?_⟩
  have dismissed := nothing session member dependency listed
  rw [Dependency.request?, classify_eq_none_iff, level_eq] at dismissed
  obtain found | handedOut | zero | noRoute := dismissed parsed read
  · exact .inr (.inl found)
  · obtain sent | queued | found := accounted _ handedOut
    · rw [sentKeys, history_eq] at sent
      exact .inr (.inr sent)
    · exact absurd queued List.not_mem_nil
    · exact .inr (.inl found)
  · exact .inl zero
  · cases noRoute

/-- A crawl without a target over settled dependencies takes one pass and sends nothing. -/
theorem crawl_of_settled {m : Type → Type} [Monad m] (dispatch : Dispatcher m σ) (limit : Nat)
    (level : Level) {store : σ} {listed : List (Path × Session)} {sent : List SessionKey}
    (listing : SessionStore.sessions store = .ok listed)
    (settled : ∀ session ∈ listed.map Prod.snd, ∀ dependency ∈ dependenciesOf session,
      dependency.Settled store sent)
    (stored : ∀ key ∈ sent, isStored store key.checksummedAddress = true) :
    ∃ report, crawl dispatch (limit + 1) level none store = pure (.finished report, store) ∧
      report.passes = 1 ∧ report.dispatched = [] := by
  obtain ⟨next, pass⟩ :
      ∃ next, Run.classifyPass { report := { level } } store = .ok (next, []) := by
    refine classifyPass_queue_nil_iff.mpr ⟨listed.map Prod.snd, ?_, ?_⟩
    · exact knownSessions_eq_ok_iff.mpr ⟨listed, listing, by simp⟩
    · exact fun session member dependency depends =>
        (settled session member dependency depends).request?_eq_none stored level
  obtain ⟨passes, dispatched⟩ := report_of_classifyPass pass
  exact ⟨next.report, by simp only [crawl, runPasses, pass], passes, dispatched⟩

/-- When an unbounded crawl over a store that loses no session (`Exchange.Keeps`: what an address
found is still found) returns a report, every dependency of a session that the store lists, or that
was returned and is not found, is no address, the zero address, found, or sent in this crawl, as the
target is unless it is found. If everything that was sent is found too, a second crawl sends nothing
in its only pass. -/
theorem closed_when_finished {report : Report}
    (finished : (recordedCrawl dispatch world limit .unbounded target store).ending =
      .finished report)
    (keeps : ∀ exchange ∈ (recordedCrawl dispatch world limit .unbounded target store).history,
      exchange.Keeps) :
    let outcome := recordedCrawl dispatch world limit .unbounded target store
    (∃ listed, SessionStore.sessions outcome.store = .ok listed ∧
      ∀ session, (session ∈ listed.map Prod.snd ∨ session ∈ returnedSessions outcome.history ∧
          SessionStore.lookup? outcome.store session.contractAddress = none) →
        ∀ source, session.key = .ok source →
          ∀ name address, (name, address) ∈ session.externalAddresses →
            ∀ parsed, Address.parse? address = some parsed →
              parsed = Address.zero ∨
              (SessionStore.lookup? outcome.store parsed.checksummed).isSome ∨
              ⟨source.network, parsed⟩ ∈ outcome.dispatchedKeys) ∧
    ((∀ key ∈ outcome.dispatchedKeys,
        (SessionStore.lookup? outcome.store key.checksummedAddress).isSome) →
      ∀ {m : Type → Type} [Monad m] (again : Dispatcher m σ) (limit : Nat) (level : Level),
        ∃ second, crawl again (limit + 1) level none outcome.store =
            pure (.finished second, outcome.store) ∧
          second.passes = 1 ∧ second.dispatched = []) := by
  intro outcome
  obtain ⟨sessions, known, settled⟩ := settled_of_finished finished keeps
  obtain ⟨listed, listing, rfl⟩ := knownSessions_eq_ok_iff.mp known
  refine ⟨⟨listed, listing, ?_⟩, ?_⟩
  · intro session member source keyed name address lists parsed read
    have isKnown : session ∈ listed.map Prod.snd ++ (returnedSessions outcome.history).filter
        fun session => !isStored outcome.store session.contractAddress := by
      simpa [isStored] using member
    have depends : ⟨source, name, address⟩ ∈ dependenciesOf session :=
      mem_dependenciesOf.mpr ⟨keyed, lists⟩
    exact (settled session isKnown _ depends parsed read).imp_left fun zero =>
      Address.eq_zero_of_lowerAscii read zero
  · intro stored m _ again limit level
    refine crawl_of_settled again limit level listing ?_ stored
    exact fun session member => settled session (List.mem_append_left _ member)

/-- A service that only adds sessions makes a store lose none. -/
theorem keeps_of_corpusService (corpus : SessionKey → List (String × String)) (limit : Nat)
    (level : Level) (target : Option String) {store : MemoryStore} (tidy : store.Tidy) :
    ∀ exchange ∈ (recordedCrawl (corpusService corpus) () limit level target store).history,
      exchange.Keeps := by
  intro exchange sent address found
  have served := adds_of_corpusService corpus limit level target tidy exchange sent
  split at served
  · exact served.lookup?_isSome found
  · rwa [served]

/-- A vault is crawled over a store that has its registry. The registry is still found, the vault
and the token have been sent, so what the vault lists is settled, and as both are found now, a
second crawl sends nothing. -/
theorem closed_after_stored_target :
    let outcome := recordedCrawl (corpusService vaultCorpus) () 2 .unbounded
      (some "mainet:0x1111111111111111111111111111111111111111") registryStore
    isStored registryStore registryKey.checksummedAddress = true ∧
      (∀ exchange ∈ outcome.history, exchange.Keeps) ∧
      outcome.dispatchedKeys = [vaultKey, tokenKey] ∧
      (∃ listed session, SessionStore.sessions outcome.store = .ok listed ∧
        session ∈ listed.map Prod.snd ∧ session.key = .ok vaultKey ∧
        session.externalAddresses = vaultCorpus vaultKey ∧
        ∀ dependency ∈ [registryKey, tokenKey], dependency.address = Address.zero ∨
          (SessionStore.lookup? outcome.store dependency.checksummedAddress).isSome ∨
          ⟨vaultKey.network, dependency.address⟩ ∈ outcome.dispatchedKeys) ∧
      (∀ key ∈ outcome.dispatchedKeys,
        (SessionStore.lookup? outcome.store key.checksummedAddress).isSome) ∧
      ∃ second, crawl storingService 1 .singleHop none outcome.store =
          pure (.finished second, outcome.store) ∧
        second.passes = 1 ∧ second.dispatched = [] := by
  intro outcome
  obtain ⟨⟨report, finished⟩, sent, documents, known, listsAll⟩ := crawl_registryStore
  have keeps := keeps_of_corpusService vaultCorpus 2 .unbounded
    (some "mainet:0x1111111111111111111111111111111111111111") tidy_registryStore
  obtain ⟨⟨listed, listing, closed⟩, again⟩ := closed_when_finished finished keeps
  obtain rfl := Except.ok.inj (known.symm.trans listing)
  have stored : ∀ key ∈ outcome.dispatchedKeys,
      (SessionStore.lookup? outcome.store key.checksummedAddress).isSome = true := by
    intro key asked
    rw [show outcome.dispatchedKeys = [vaultKey, tokenKey] from sent] at asked
    obtain rfl | rfl : key = vaultKey ∨ key = tokenKey := by simpa using asked
    · exact (listsAll vaultKey (by simp)).1
    · exact (listsAll tokenKey (by simp)).1
  obtain ⟨_, session, isListed, keyed, lists⟩ := listsAll vaultKey (by simp)
  refine ⟨by decide, keeps, sent, ⟨_, session, listing, isListed, keyed, lists, ?_⟩,
    stored, again stored storingService 0 .singleHop⟩
  have settled := closed session (.inl isListed) vaultKey keyed
  rw [lists] at settled
  intro dependency isDependency
  obtain rfl | rfl : dependency = registryKey ∨ dependency = tokenKey := by
    simpa using isDependency
  · exact settled "registry" "0x3333333333333333333333333333333333333333" (by decide)
      registryKey.address (by decide)
  · exact settled "token" "0x2222222222222222222222222222222222222222" (by decide)
      tokenKey.address (by decide)

end

end ContractAtlas.Crawl
