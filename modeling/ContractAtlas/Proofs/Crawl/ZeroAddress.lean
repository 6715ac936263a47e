import ContractAtlas.Proofs.Crawl.Identity
import ContractAtlas.Proofs.Store.Naming

/-!
# References to the zero address

The zero address stands for "no contract", so a reference to it leads to no request. A reference is
read with the blanks around its text left out, but compared with the zero address as it stands: a
text with blanks around it denotes the zero address and is followed all the same. `classify_zero`
says what becomes of every reference to the zero address, and `explained` ties the entries of a
report to the classifications that made them.
-/

namespace ContractAtlas

open Text

/-- A text of an address has the form of the digits, letter case aside, exactly if there are no
blanks around it. -/
theorem Address.lowerAscii_eq_lowerText_iff {text : String} {address : Address}
    (read : parse? text = some address) :
    lowerAscii text = address.lowerText ↔ trim text = text := by
  have form := lowerAscii_trim_of_parse? read
  constructor
  · intro plain
    have sizes : (trimChars text.toList).length = text.toList.length := by
      have same := congrArg (fun text => text.toList.length) (form.trans plain.symm)
      simpa using same
    rw [← String.toList_inj, toList_trim]
    exact (infix_trimChars text.toList).eq_of_length sizes
  · intro unpadded
    rwa [unpadded] at form

namespace Crawl

variable {σ : Type} [SessionStore σ]

/-! ## Classification -/

/-- What becomes of a reference to the zero address. It counts as analyzed if the store finds it or
its key was handed out. Otherwise it is skipped if there are no blanks around its text, and else
treated like any other. -/
theorem classify_zero {store : σ} {level : Level} {inFlight : List SessionKey} {source : SessionKey}
    {name address : String} {state : EntryState} {request : Option Request}
    (read : Address.parse? address = some .zero)
    (outcome : classify store level inFlight source name address = (state, request)) :
    let unpadded := trim address = address
    let known := isStored store Address.zero.checksummed = true ∨ ⟨source.network, .zero⟩ ∈ inFlight
    (state = .skipped .zeroAddress ∨ state = .analyzed ↔ unpadded ∨ known) ∧
      (state = .analyzed → known) ∧
      (request = none ↔ unpadded ∨ known ∨ level = .targetOnly) := by
  intro unpadded known
  have plain_iff : lowerAscii address = Address.zero.lowerText ↔ unpadded :=
    Address.lowerAscii_eq_lowerText_iff read
  have known_iff : (isStored store (SessionKey.mk source.network .zero).checksummedAddress ||
      inFlight.contains ⟨source.network, .zero⟩) = true ↔ known := by
    simp [known, SessionKey.checksummedAddress]
  clear_value unpadded known
  simp only [classify, read] at outcome
  by_cases isKnown : known
  · rw [if_pos (known_iff.mpr isKnown)] at outcome
    cases outcome
    simp [isKnown]
  rw [if_neg (mt known_iff.mp isKnown)] at outcome
  by_cases plain : unpadded
  · rw [if_pos (plain_iff.mpr plain)] at outcome
    cases outcome
    simp [plain]
  · rw [if_neg (mt plain_iff.mp plain)] at outcome
    cases level with
    | targetOnly => cases outcome; simp [isKnown, plain]
    | singleHop | unbounded => cases outcome; simp [isKnown, plain]

section

variable {level : Level} {target : Option SessionKey} {store : σ} {earlier later : List (Event σ)}
  {stage : Stage σ}

/-- What was classified in a run was classified with the keys that were handed out before. -/
theorem classify_of_classified {current : σ} {dependency : Dependency} {state : EntryState}
    {request : Option Request}
    (steps : Steps (Stage.start level target store)
      (earlier ++ .classified current dependency state request :: later) stage) :
    classify current level (handedOut level target store earlier) dependency.source
      dependency.variableName dependency.address = (state, request) := by
  obtain ⟨before, after, prior, step, _⟩ := steps.split
  have inFlight_eq := prior.inFlight_eq
  have level_eq : before.run.report.level = level :=
    prior.level_eq.trans (Stage.start_level level target store)
  cases step with
  | classify outcome => rwa [handedOut, ← inFlight_eq, ← level_eq]

/-! ## Requests -/

/-- Whether a request is for the target or came out of a classification. -/
def Arisen (events : List (Event σ)) (request : Request) : Prop :=
  request.reference = none ∨
    ∃ current dependency state, .classified current dependency state (some request) ∈ events

omit [SessionStore σ] in
/-- Where a request has come from does not change later. -/
theorem Arisen.append {events : List (Event σ)} {request : Request}
    (arisen : Arisen events request) (event : Event σ) : Arisen (events ++ [event]) request := by
  obtain notReferenced | ⟨current, dependency, state, member⟩ := arisen
  · exact .inl notReferenced
  · exact .inr ⟨current, dependency, state, List.mem_append_left _ member⟩

/-- A step queues a request only when it classifies a dependency that gives it. -/
theorem Step.arisen {events : List (Event σ)} {stage next : Stage σ} {event : Event σ}
    (step : Step stage event next) (queued : ∀ request ∈ stage.queue, Arisen events request) :
    ∀ request ∈ next.queue, Arisen (events ++ [event]) request := by
  have still request member := (queued request member).append event
  cases step with
  | beginPass _ => nofun
  | @classify _ store dependency _ queue state request _ =>
      intro other member
      obtain member | new := List.mem_append.mp member
      · exact still other member
      · obtain rfl : request = some other := by simpa using new
        exact .inr ⟨store, dependency, state, by simp⟩
  | appear _ => exact fun other member => still other (List.mem_cons_of_mem _ member)
  | send _ => exact fun other member => still other (List.mem_cons_of_mem _ member)

/-- Every queued request has come from the target or from a dependency that was classified. -/
theorem Steps.arisen {events : List (Event σ)}
    (steps : Steps (Stage.start level target store) events stage) :
    ∀ request ∈ stage.queue, Arisen events request := by
  have initial : ∀ request ∈ (Stage.start level target store).queue, Arisen ([] : List (Event σ))
      request := by
    cases target with
    | none => exact List.forall_mem_nil _
    | some key =>
        rw [Stage.start]
        split
        · exact List.forall_mem_nil _
        · simp [Arisen, Request.forTarget]
  exact steps.invariant (fun events stage => ∀ request ∈ stage.queue, Arisen events request)
    (fun queued step => step.arisen queued) initial

/-- A request for the zero address that is sent, but not as the target, came out of a text with
blanks around it. -/
theorem padded_of_sent {exchange : Exchange σ}
    (steps : Steps (Stage.start level target store) (earlier ++ .sent exchange :: later) stage)
    (referenced : exchange.request.reference ≠ none)
    (isZero : exchange.request.key.address = .zero) :
    ∃ current dependency state,
      .classified current dependency state (some exchange.request) ∈ earlier ∧
      exchange.request.reference = some dependency.reference ∧
      Address.parse? dependency.address = some .zero ∧
      trim dependency.address ≠ dependency.address := by
  obtain ⟨before, after, prior, step, _⟩ := steps.split
  cases step with
  | send _ =>
      obtain notReferenced | ⟨current, dependency, state, member⟩ :=
        prior.arisen _ (List.mem_cons_self ..)
      · exact absurd notReferenced referenced
      obtain ⟨sooner, between, split⟩ := List.append_of_mem member
      rw [split] at prior
      obtain ⟨parsed, read, notPlain, key_eq, reference_eq, _⟩ :=
        classify_eq_some (classify_of_classified prior)
      obtain rfl : parsed = .zero := by rwa [key_eq] at isZero
      exact ⟨current, dependency, state, member, reference_eq, read,
        mt (Address.lowerAscii_eq_lowerText_iff read).mpr notPlain⟩

/-! ## Entries -/

/-- Why an entry is as it is: its reference was classified so, and nothing has changed its state but
that a request with the reference appeared in the store. -/
def Explained (events : List (Event σ)) (entry : Entry) : Prop :=
  ∃ (earlier later : List (Event σ)) (current : σ) (dependency : Dependency) (state : EntryState)
      (request : Option Request),
    events = earlier ++ .classified current dependency state request :: later ∧
    dependency.reference = entry.reference ∧ dependency.address = entry.address ∧
    (entry.state = state ∨ entry.state = .analyzed ∧
      ∃ (found : Request) (store : σ), .appeared found store ∈ later ∧
        found.reference = some entry.reference)

omit [SessionStore σ] in
/-- What explains an entry does not change later. -/
theorem Explained.append {events : List (Event σ)} {entry : Entry}
    (explained : Explained events entry) (event : Event σ) :
    Explained (events ++ [event]) entry := by
  obtain ⟨earlier, later, current, dependency, state, request, rfl, reference, address, judged⟩ :=
    explained
  refine ⟨earlier, later ++ [event], current, dependency, state, request, by simp, reference,
    address, ?_⟩
  obtain judged | ⟨analyzed, found, store, member, named⟩ := judged
  · exact .inl judged
  · exact .inr ⟨analyzed, found, store, List.mem_append_left _ member, named⟩

/-- An entry after recording is the new one or an older one. -/
theorem mem_record {reference : Reference} {address : String} {state : EntryState}
    {entries : List Entry} {entry : Entry}
    (member : entry ∈ record reference address state entries) :
    entry = ⟨reference, address, state⟩ ∨ entry ∈ entries := by
  induction entries with
  | nil => exact .inl (List.mem_singleton.mp member)
  | cons first others inductionHypothesis =>
      rw [record] at member
      split at member
      · exact (List.mem_cons.mp member).imp_right (List.mem_cons_of_mem _)
      · obtain rfl | member := List.mem_cons.mp member
        · exact .inr (List.mem_cons_self ..)
        · exact (inductionHypothesis member).imp_right (List.mem_cons_of_mem _)

/-- An entry after settling is an older one, or an older one of the reference with the new state. -/
theorem mem_settle {reference : Reference} {state : EntryState} {entries : List Entry}
    {entry : Entry} (member : entry ∈ settle reference state entries) :
    entry ∈ entries ∨ ∃ old ∈ entries, old.reference = reference ∧ entry = { old with state } := by
  induction entries with
  | nil => cases member
  | cons first others inductionHypothesis =>
      rw [settle] at member
      split at member
      · rename_i same
        obtain rfl | member := List.mem_cons.mp member
        · exact .inr ⟨first, List.mem_cons_self .., same, rfl⟩
        · exact .inl (List.mem_cons_of_mem _ member)
      · obtain rfl | member := List.mem_cons.mp member
        · exact .inl (List.mem_cons_self ..)
        · obtain member | ⟨old, isOld, same, changed⟩ := inductionHypothesis member
          · exact .inl (List.mem_cons_of_mem _ member)
          · exact .inr ⟨old, List.mem_cons_of_mem _ isOld, same, changed⟩

/-- A step leaves every entry explained: it comes from a dependency that was classified, and its
state is what was made of it. -/
theorem Step.explained {events : List (Event σ)} {stage next : Stage σ} {event : Event σ}
    (step : Step stage event next)
    (explained : ∀ entry ∈ stage.run.report.entries, Explained events entry) :
    ∀ entry ∈ next.run.report.entries, Explained (events ++ [event]) entry := by
  have still entry member := (explained entry member).append event
  cases step with
  | beginPass _ => exact still
  | @classify _ _ dependency _ _ state request _ =>
      intro entry member
      obtain rfl | member := mem_record member
      · exact ⟨events, [], _, dependency, state, request, rfl, rfl, rfl, .inl rfl⟩
      · exact still entry member
  | @appear _ store request _ _ =>
      intro entry member
      rw [Run.afterAppeared] at member
      split at member
      · rename_i reference named
        obtain member | ⟨old, isOld, same, rfl⟩ := mem_settle member
        · exact still entry member
        · obtain ⟨earlier, later, current, dependency, state, queued, rfl, named', address, _⟩ :=
            explained old isOld
          refine ⟨earlier, later ++ [.appeared request store], current, dependency, state, queued,
            by simp, named', address, .inr ⟨rfl, request, store, by simp, ?_⟩⟩
          rw [named, same]
      · exact still entry member
  | @send run _ request _ answer _ _ =>
      have entries_eq : (run.afterAnswer request answer).report.entries = run.report.entries := by
        unfold Run.afterAnswer
        split <;> rfl
      rw [entries_eq]
      exact still

/-- Every entry of a report is explained by what happened. -/
theorem Steps.explained {events : List (Event σ)}
    (steps : Steps (Stage.start level target store) events stage) :
    ∀ entry ∈ stage.run.report.entries, Explained events entry := by
  have initial : (Stage.start level target store).run.report.entries = [] := by
    cases target with
    | none => rfl
    | some key =>
        rw [Stage.start]
        split <;> rfl
  have none : ∀ entry ∈ (Stage.start level target store).run.report.entries,
      Explained ([] : List (Event σ)) entry := by
    rw [initial]
    exact List.forall_mem_nil _
  exact steps.invariant (fun events stage => ∀ entry ∈ stage.run.report.entries,
    Explained events entry) (fun explained step => step.explained explained) none

end

section

variable {ε : Type} (dispatch : Dispatcher (StateM ε) σ) (world : ε) (limit : Nat) (level : Level)
  (target : Option String) (store : σ)

/-- A reference to the zero address is skipped as such or counts as analyzed exactly if its text has
no blanks around it, or the store finds the zero address or its key was handed out; the latter are
also what makes it count as analyzed. Only a text with blanks ever leads to a request for the zero
address that is not the target. In a report, every reference by a text without blanks is skipped or
counts as analyzed. -/
theorem zero_passed_over_iff_unpadded :
    let outcome := recordedCrawl dispatch world limit level target store
    ∃ course : Course (Stage.start level (targetKey? target) store) outcome,
      (∀ (earlier later : List (Event σ)) (current : σ) (dependency : Dependency)
          (state : EntryState) (request : Option Request),
        course.events = earlier ++ .classified current dependency state request :: later →
        Address.parse? dependency.address = some .zero →
        let unpadded := trim dependency.address = dependency.address
        let known := isStored current Address.zero.checksummed = true ∨
          ⟨dependency.source.network, .zero⟩ ∈ handedOut level (targetKey? target) store earlier
        (state = .skipped .zeroAddress ∨ state = .analyzed ↔ unpadded ∨ known) ∧
          (state = .analyzed → known) ∧
          (request = none ↔ unpadded ∨ known ∨ level = .targetOnly)) ∧
      (∀ (earlier later : List (Event σ)) (exchange : Exchange σ),
        course.events = earlier ++ .sent exchange :: later →
        exchange.request.reference ≠ none → exchange.request.key.address = .zero →
        ∃ (current : σ) (dependency : Dependency) (state : EntryState),
          .classified current dependency state (some exchange.request) ∈ earlier ∧
          exchange.request.reference = some dependency.reference ∧
          Address.parse? dependency.address = some .zero ∧
          trim dependency.address ≠ dependency.address) ∧
      (∀ report, outcome.ending = .finished report → ∀ entry ∈ report.entries,
        Address.parse? entry.address = some .zero → trim entry.address = entry.address →
        entry.state = .skipped .zeroAddress ∨ entry.state = .analyzed ∧
          ((∃ (earlier later : List (Event σ)) (current : σ) (dependency : Dependency)
              (request : Option Request),
            course.events = earlier ++ .classified current dependency .analyzed request :: later ∧
            dependency.reference = entry.reference ∧ dependency.address = entry.address ∧
            (isStored current Address.zero.checksummed = true ∨
              ⟨dependency.source.network, .zero⟩ ∈
                handedOut level (targetKey? target) store earlier)) ∨
          ∃ (request : Request) (current : σ), .appeared request current ∈ course.events ∧
            request.reference = some entry.reference)) := by
  intro outcome
  obtain ⟨course⟩ := exists_course dispatch world limit level target store
  have steps := course.steps
  refine ⟨course, ?_, ?_, ?_⟩
  · intro earlier later current dependency state request split read unpadded known
    rw [split] at steps
    exact classify_zero read (classify_of_classified steps)
  · intro earlier later exchange split referenced isZero
    rw [split] at steps
    exact padded_of_sent steps referenced isZero
  · intro report finished entry member read unpadded
    rw [← course.report_eq report finished] at member
    obtain ⟨earlier, later, current, dependency, state, request, split, reference, address,
      judged⟩ := steps.explained entry member
    rw [split] at steps
    rw [← address] at read unpadded
    obtain ⟨state_iff, known_of_analyzed, _⟩ :=
      classify_zero read (classify_of_classified steps)
    obtain rfl | ⟨analyzed, found, current, appeared, named⟩ := judged
    · refine (state_iff.mpr (.inl unpadded)).imp_right fun analyzed => ⟨analyzed, .inl ?_⟩
      rw [analyzed] at split
      exact ⟨earlier, later, current, dependency, request, split, reference, address,
        known_of_analyzed analyzed⟩
    · exact .inr ⟨analyzed, .inr ⟨found, current, by simp [split, appeared], named⟩⟩

end

/-- A session that lists the zero address with a blank in front of it. -/
def burningSession : Session where
  networkInfo :=
    { contractAddress := "0x1111111111111111111111111111111111111111", contractNetwork := "mainet" }
  contractData :=
    { externalAddresses := some [("burn", " 0x0000000000000000000000000000000000000000")] }

/-- The zero address is sent to the service for the variable of a session that lists it with a blank
in front. -/
theorem padded_zero_is_sent :
    let store : MemoryStore :=
      ⟨.exact, [("mainet:0x1111111111111111111111111111111111111111", some burningSession)]⟩
    let dispatch : Dispatcher (StateM Unit) MemoryStore := fun _ store => pure (.ok none, store)
    let outcome := recordedCrawl dispatch () 1 .singleHop none store
    Address.parse? " 0x0000000000000000000000000000000000000000" = some .zero ∧
      ∃ exchange ∈ outcome.history, exchange.request.reference ≠ none ∧
        exchange.request.key.address = .zero := by
  decide +kernel

end Crawl

end ContractAtlas
