import ContractAtlas.Proofs.Crawl.Handover
import ContractAtlas.Proofs.Crawl.StoringService

/-!
# Which contract counts as analyzed

The keys that were handed out have a network; the query that a crawl puts to the store has none. So
a session at the same address on another network makes a contract count as analyzed, and keeps a
target from being sent. The laws here say exactly when the network is respected all the same.
-/

namespace ContractAtlas.Crawl

open SessionStore (Holds)
open DirectoryView (keyMatch WellKeyed lookup?_isSome_iff_holds)

variable {σ : Type} [SessionStore σ]

/-- The keys of the requests that classifications put into the queue. -/
def queuedKeys (events : List (Event σ)) : List SessionKey :=
  (events.filterMap Event.request?).map Request.key

/-- The keys that were handed out by the end of some steps from the start of a crawl. -/
def handedOut (level : Level) (target : Option SessionKey) (store : σ)
    (events : List (Event σ)) : List SessionKey :=
  (Stage.start level target store).run.inFlight ++ queuedKeys events

/-- A step hands out the key that it queues, if it queues one. -/
theorem Step.inFlight_eq {stage next : Stage σ} {event : Event σ} (step : Step stage event next) :
    next.run.inFlight = stage.run.inFlight ++ queuedKeys [event] := by
  cases step with
  | @classify _ _ _ _ _ _ request _ => cases request <;> simp [queuedKeys]
  | _ => simp [queuedKeys]

/-- The keys that have been handed out are those from the start and those that were queued since. -/
theorem Steps.inFlight_eq {stage finish : Stage σ} {events : List (Event σ)}
    (steps : Steps stage events finish) :
    finish.run.inFlight = stage.run.inFlight ++ queuedKeys events := by
  induction steps with
  | none => simp [queuedKeys]
  | @more _ event _ events _ first _ inductionHypothesis =>
      rw [inductionHypothesis, first.inFlight_eq, List.append_assoc]
      simp only [queuedKeys, ← List.map_append, ← List.filterMap_append, List.singleton_append]

section

variable {level : Level} {target : Option SessionKey} {store : σ} {earlier later : List (Event σ)}
  {stage : Stage σ}

/-- A dependency counts as analyzed exactly if the store holds a session at its address, on any
network, or its key was handed out before. -/
theorem classified_analyzed_iff [DirectoryView σ] {current : σ} {dependency : Dependency}
    {state : EntryState} {request : Option Request} {parsed : Address}
    (steps : Steps (Stage.start level target store)
      (earlier ++ .classified current dependency state request :: later) stage)
    (exact : keyMatch current = .exact) (wellKeyed : WellKeyed current)
    (read : Address.parse? dependency.address = some parsed) :
    state = .analyzed ↔ (∃ network, Holds current ⟨network, parsed⟩) ∨
      ⟨dependency.source.network, parsed⟩ ∈ handedOut level target store earlier := by
  obtain ⟨before, after, prior, step, _⟩ := steps.split
  have inFlight_eq := prior.inFlight_eq
  cases step with
  | classify outcome =>
      have state_eq := congrArg Prod.fst outcome
      rw [← show _ = state from state_eq, classify_analyzed_iff, handedOut, ← inFlight_eq]
      simp only [read, Option.some.injEq, exists_eq_left', isStored,
        lookup?_isSome_iff_holds exact wellKeyed]

/-- A request that appears in the store before it is sent was handed out all the same. -/
theorem appeared_handedOut {request : Request} {current : σ}
    (steps : Steps (Stage.start level target store)
      (earlier ++ .appeared request current :: later) stage) :
    request.key ∈ handedOut level target store earlier := by
  obtain ⟨before, after, prior, step, _⟩ := steps.split
  have inFlight_eq := prior.inFlight_eq
  have orderly := Orderly.of_steps prior
  rw [handedOut, ← inFlight_eq]
  cases step with
  | appear _ => exact orderly.handedOut _ (by simp)

end

section

variable {ε : Type} (dispatch : Dispatcher (StateM ε) σ) (world : ε) (limit : Nat) (level : Level)

/-- A target that the store finds at the start is not sent. -/
theorem target_not_sent {target : Option String} {key : SessionKey} {store : σ}
    (isTarget : targetKey? target = some key)
    (stored : isStored store key.checksummedAddress = true) {exchange : Exchange σ}
    (sent : exchange ∈ (recordedCrawl dispatch world limit level target store).history) :
    exchange.request ≠ .forTarget key := by
  intro isForTarget
  have untargeted : Stage.start level (targetKey? target) store = Stage.start level none store := by
    simp [isTarget, Stage.start, stored]
  have courses := exists_course dispatch world limit level target store
  rw [untargeted] at courses
  obtain ⟨course⟩ := courses
  rw [← course.history_eq] at sent
  obtain ⟨⟨_, ⟨_, nothing, _⟩ | ⟨_, _, _, _, follows⟩⟩, _⟩ :=
    Orderly.of_mem_exchangesOf course.steps sent
  · cases nothing
  · rw [isForTarget] at follows
    cases follows.reference_eq

/-- A target that the store does not find at the start is sent. -/
theorem target_sent {target : Option String} {key : SessionKey} {store : σ}
    (isTarget : targetKey? target = some key)
    (absent : isStored store key.checksummedAddress = false) :
    ∃ exchange ∈ (recordedCrawl dispatch world limit level target store).history,
      exchange.request = .forTarget key := by
  obtain ⟨noTarget, _⟩ | ⟨events, ⟨_, _, _, _⟩, sent, steps, _, passes⟩ :=
    recordedCrawl_cases dispatch world level target store
  · rw [isTarget] at noTarget
    cases noTarget
  obtain ⟨more, _, kept, _⟩ := (passes limit).steps
  have history_eq : (recordedCrawl dispatch world limit level target store).history =
      exchangesOf events ++ exchangesOf more := by
    rw [kept, sent]
  rw [isTarget, Stage.start] at steps
  simp only [absent, Bool.false_eq_true, if_false] at steps
  -- The request for the target is all that waits at the start, so it is what the first step sends.
  cases steps with
  | more first _ =>
      cases first with
      | appear stored => exact absurd (absent.symm.trans stored) Bool.false_ne_true
      | @send _ _ _ _ answer after _ =>
          refine ⟨⟨.forTarget key, store, answer, after⟩, ?_, rfl⟩
          rw [history_eq]
          simp

/-- A target is sent exactly if the store does not find its address at the start. -/
theorem target_sent_iff {target : Option String} {key : SessionKey}
    (isTarget : targetKey? target = some key) (store : σ) :
    (∃ exchange ∈ (recordedCrawl dispatch world limit level target store).history,
        exchange.request = .forTarget key) ↔
      isStored store key.checksummedAddress = false := by
  constructor
  · rintro ⟨exchange, sent, isForTarget⟩
    by_contra found
    exact target_not_sent dispatch world limit level isTarget (by simpa using found) sent
      isForTarget
  · exact target_sent dispatch world limit level isTarget

/-- A target is held or sent, and a dependency counts as analyzed only if its key is held or was
handed out, exactly where no session at the address stands in for one of the key: either there is
none on any network, or the key itself is held, or for a dependency handed out. A request that
appears in the store before it is sent was handed out in any case. -/
theorem network_respected_iff [DirectoryView σ] (target : Option String) (store : σ) :
    let outcome := recordedCrawl dispatch world limit level target store
    (∀ key, targetKey? target = some key → keyMatch store = .exact → WellKeyed store →
      ((Holds store key ∨ ∃ exchange ∈ outcome.history, exchange.request = .forTarget key) ↔
        ((∃ network, Holds store ⟨network, key.address⟩) → Holds store key))) ∧
    ∃ course : Course (Stage.start level (targetKey? target) store) outcome,
      (∀ earlier current dependency state request later parsed,
        course.events = earlier ++ .classified current dependency state request :: later →
        keyMatch current = .exact → WellKeyed current →
        Address.parse? dependency.address = some parsed →
        let key := ⟨dependency.source.network, parsed⟩
        let known := Holds current key ∨
          key ∈ handedOut level (targetKey? target) store earlier
        ((state = .analyzed → known) ↔
          ((∃ network, Holds current ⟨network, parsed⟩) → known))) ∧
      ∀ earlier request current later,
        course.events = earlier ++ .appeared request current :: later →
        request.key ∈ handedOut level (targetKey? target) store earlier := by
  intro outcome
  refine ⟨?_, ?_⟩
  · intro key isTarget exact wellKeyed
    have found : isStored store key.checksummedAddress = true ↔
        ∃ network, Holds store ⟨network, key.address⟩ := lookup?_isSome_iff_holds exact wellKeyed
    rw [target_sent_iff dispatch world limit level isTarget store, ← found]
    cases isStored store key.checksummedAddress with
    | true => simp
    | false => simp
  · obtain ⟨course⟩ := exists_course dispatch world limit level target store
    refine ⟨course, ?_, ?_⟩
    · intro earlier current dependency state request later parsed split exact wellKeyed read key
        known
      have steps := course.steps
      rw [split] at steps
      rw [classified_analyzed_iff steps exact wellKeyed read]
      exact ⟨fun promise held => promise (.inl held),
        fun promise analyzed => analyzed.elim promise .inr⟩
    · intro earlier request current later split
      have steps := course.steps
      rw [split] at steps
      exact appeared_handedOut steps

/-- The target is on one network, the only session of the store is at the same address on another:
the crawl sends nothing for the target. -/
theorem target_hidden_by_other_network :
    let address : Address := ⟨List.replicate 40 1, rfl⟩
    let store := MemoryStore.single .exact ⟨"mainet", address⟩
    let outcome := recordedCrawl storingService () 1 .targetOnly
      (some "bsc:0x1111111111111111111111111111111111111111") store
    targetKey? (some "bsc:0x1111111111111111111111111111111111111111") = some ⟨"bsc", address⟩ ∧
      keyMatch store = .exact ∧ WellKeyed store ∧ ¬ Holds store ⟨"bsc", address⟩ ∧
      ¬ ∃ exchange ∈ outcome.history, exchange.request = .forTarget ⟨"bsc", address⟩ := by
  intro address store outcome
  have isTarget : targetKey? (some "bsc:0x1111111111111111111111111111111111111111") =
      some ⟨"bsc", address⟩ := by decide
  have wellKeyed : WellKeyed store := MemoryStore.wellKeyed_single (by decide) (by decide)
  have held : Holds store ⟨"mainet", address⟩ :=
    ⟨_, MemoryStore.shows_single_iff.mpr rfl, key_bareSession (by decide)⟩
  have missing : ¬ Holds store ⟨"bsc", address⟩ := by
    rintro ⟨session, shown, keyed⟩
    rw [MemoryStore.shows_single_iff.mp shown, key_bareSession (by decide)] at keyed
    simp at keyed
  refine ⟨isTarget, rfl, wellKeyed, missing, ?_⟩
  rw [target_sent_iff storingService () 1 .targetOnly isTarget store]
  have found : isStored store address.checksummed = true :=
    (lookup?_isSome_iff_holds rfl wellKeyed).mpr ⟨"mainet", held⟩
  exact Bool.eq_false_iff.not_left.mpr found

end

end ContractAtlas.Crawl
