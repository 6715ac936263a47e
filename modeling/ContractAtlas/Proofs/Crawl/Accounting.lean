import ContractAtlas.Proofs.Crawl.Entries
import ContractAtlas.Proofs.Crawl.FailureIsolation
import ContractAtlas.Proofs.Crawl.Termination
import ContractAtlas.Proofs.Session.Reading

/-!
# A report accounts for what was sent

A bounded crawl makes one pass, and its requests leave traces in two places: the payloads that were
sent and the entries that say that a request waits or was sent. The two are changed at different
moments, and a request that appears in the store before its turn leaves the second without ever
entering the first. `Tallied` says how they stand to each other at every stage of the pass, provided
that no two dependencies share a reference: the queued entries are, in order, those of the requests
that were sent and of the requests that still wait.
-/

namespace ContractAtlas.Session

open Json

/-- Whether the dependencies of a session are a table, in which no variable has two addresses. -/
def HasTable (session : Session) : Prop :=
  (SortedFields.names session.externalAddresses).Nodup

/-- Every session that is read has a table. -/
theorem hasTable_of_read? {text : String} {session : Session} (read : read? text = some session) :
    session.HasTable := by
  have sorted := (asRead_of_read? read).contractData.sorted
  rw [HasTable, externalAddresses]
  cases present : session.contractData.externalAddresses with
  | none => exact List.nodup_nil
  | some addresses => exact (sorted addresses present).nodup

end ContractAtlas.Session

namespace ContractAtlas.Crawl

/-- Whether a request asks for the contract that an entry gives, on the route of a level. -/
def Entry.LeadsTo (level : Level) (entry : Entry) (request : Request) : Prop :=
  ∃ dependency : Dependency, dependency.reference = entry.reference ∧
    dependency.address = entry.address ∧ Follows level dependency request

/-- Whether a text is what is sent for an entry: the network of its source and the checksummed
address. -/
def Entry.HasPayload (entry : Entry) (payload : String) : Prop :=
  ∃ (source : SessionKey) (address : Address), entry.reference.source = source.display ∧
    Address.parse? entry.address = some address ∧
    payload = (SessionKey.mk source.network address).display

namespace Entry.LeadsTo

variable {level : Level} {entry : Entry} {request : Request}

/-- An entry leads to a request for the same reference. -/
theorem reference_eq (leads : entry.LeadsTo level request) :
    request.reference = some entry.reference := by
  obtain ⟨dependency, same, _, follows⟩ := leads
  rw [follows.reference_eq, same]

/-- An entry leads to a request with the payload that the entry stands for. -/
theorem hasPayload (leads : entry.LeadsTo level request) : entry.HasPayload request.payload := by
  obtain ⟨dependency, reference_eq, address_eq, follows⟩ := leads
  refine ⟨dependency.source, request.key.address, ?_, ?_, ?_⟩
  · rw [← reference_eq, Dependency.reference]
  · rw [← address_eq, follows.address_eq]
  · rw [Request.payload, ← follows.network_eq]

end Entry.LeadsTo

/-- The requests that were sent, in order. -/
def sentRequests {σ : Type} (events : List (Event σ)) : List Request :=
  (exchangesOf events).map Exchange.request

@[simp] theorem sentRequests_append {σ : Type} (first second : List (Event σ)) :
    sentRequests (first ++ second) = sentRequests first ++ sentRequests second := by
  simp [sentRequests]

@[simp] theorem sentRequests_nil {σ : Type} : sentRequests ([] : List (Event σ)) = [] := rfl

@[simp] theorem sentRequests_singleton {σ : Type} (event : Event σ) :
    sentRequests [event] = (event.exchange?.map Exchange.request).toList := by
  cases event <;> rfl

variable {σ : Type} [SessionStore σ]

/-- The partner of a request in the middle of a matched list stands in the middle, too. -/
theorem exists_matched {α β : Type} {related : α → β → Prop} {items : List α} {first later : List β}
    {item : β} (matched : List.Forall₂ related items (first ++ item :: later)) :
    ∃ before partner after, items = before ++ partner :: after ∧
      List.Forall₂ related before first ∧ related partner item ∧
      List.Forall₂ related after later := by
  obtain ⟨partner, after, same, following, split⟩ :=
    List.forall₂_cons_right_iff.mp (List.forall₂_drop_append items first (item :: later) matched)
  refine ⟨items.take first.length, partner, after, ?_,
    List.forall₂_take_append items first _ matched, same, following⟩
  rw [← split, List.take_append_drop]

/-- Leaving out one of some entries by its reference leaves the others. -/
theorem filter_ne_middle {before after : List Entry} {entry : Entry}
    (distinct : (references (before ++ entry :: after)).Nodup) :
    (before ++ entry :: after).filter (fun other => other.reference ≠ entry.reference) =
      before ++ after := by
  rw [references_append, List.nodup_append] at distinct
  obtain ⟨_, distinctAfter, apart⟩ := distinct
  have notAfter : entry.reference ∉ references after := (List.nodup_cons.mp distinctAfter).1
  have keptBefore : ∀ other ∈ before, decide (other.reference ≠ entry.reference) = true :=
    fun other member => decide_eq_true
      (apart _ (reference_mem_references member) _ (List.mem_cons_self ..))
  have keptAfter : ∀ other ∈ after, decide (other.reference ≠ entry.reference) = true :=
    fun other member => decide_eq_true
      fun same => notAfter (same ▸ reference_mem_references member)
  rw [List.filter_append, List.filter_cons_of_neg (by simp), List.filter_eq_self.mpr keptBefore,
    List.filter_eq_self.mpr keptAfter]

/-- Whether a request has not been lost: it was sent, it waits, or it appeared in the store. -/
def Kept (events : List (Event σ)) (queue : List Request) (request : Request) : Prop :=
  request ∈ sentRequests events ++ queue ∨ ∃ current, .appeared request current ∈ events

omit [SessionStore σ] in
/-- A request that was sent or waits is still so after one more event. -/
theorem Kept.append {events : List (Event σ)} {queue : List Request} {request : Request}
    (kept : Kept events queue request) (event : Event σ) (added : List Request) :
    Kept (events ++ [event]) (queue ++ added) request := by
  obtain sentOrWaiting | ⟨current, appeared⟩ := kept
  · obtain sent | waits := List.mem_append.mp sentOrWaiting
    · exact .inl (by simp [sent])
    · exact .inl (by simp [waits])
  · exact .inr ⟨current, List.mem_append_left _ appeared⟩

omit [SessionStore σ] in
/-- What was kept is kept behind a classification, and so is the request that it brings. -/
theorem Kept.classified {events : List (Event σ)} {queue : List Request}
    (kept : ∀ current other judged found,
      .classified current other judged (some found) ∈ events → Kept events queue found)
    (store : σ) (dependency : Dependency) (state : EntryState) (request : Option Request) :
    ∀ current other judged found, .classified current other judged (some found) ∈
        events ++ [.classified store dependency state request] →
      Kept (events ++ [.classified store dependency state request]) (queue ++ request.toList)
        found := by
  intro current other judged found member
  obtain member | same : .classified current other judged (some found) ∈ events ∨
      some found = request := by
    simp only [List.mem_append, List.mem_singleton, Event.classified.injEq] at member
    exact member.imp_right fun same => same.2.2.2
  · exact (kept current other judged found member).append _ _
  · exact .inl (by simp [← same])

/-- The entry of a classified dependency says queued exactly if a request comes with it. It leads to
that request, whose contract the store lacks. -/
theorem leadsTo_of_classify {store : σ} {level : Level} {inFlight : List SessionKey}
    {dependency : Dependency} {state : EntryState} {request : Option Request}
    (outcome : classify store level inFlight dependency.source dependency.variableName
      dependency.address = (state, request)) :
    List.Forall₂ (Entry.LeadsTo level)
        ([⟨dependency.reference, dependency.address, state⟩].filter fun entry =>
          entry.state = .queued) request.toList ∧
      ∀ sent ∈ request.toList, isStored store sent.key.checksummedAddress = false := by
  have queued_iff := classify_queued_iff store level inFlight dependency.source
    dependency.variableName dependency.address
  rw [outcome] at queued_iff
  cases request with
  | none =>
      have notQueued : state ≠ .queued := fun queued => queued_iff.mp queued rfl
      rw [List.filter_cons_of_neg (by simpa using notQueued)]
      exact ⟨.nil, List.forall_mem_nil _⟩
  | some request =>
      obtain ⟨parsed, read, _, key_eq, reference_eq, onRoute, unstored, _⟩ :=
        classify_eq_some outcome
      have isQueued : state = .queued := queued_iff.mpr (Option.some_ne_none request)
      have leads : Entry.LeadsTo level ⟨dependency.reference, dependency.address, state⟩ request :=
        ⟨dependency, rfl, rfl, reference_eq, by rw [key_eq], by rw [key_eq, read], onRoute⟩
      rw [List.filter_cons_of_pos (by simpa using isQueued)]
      exact ⟨.cons leads .nil, by simpa using unstored⟩

/-- What holds at every stage of a pass in which no reference is met twice, where `events` is what
has happened since the pass began with the store `pass`. -/
structure Tallied (level : Level) (pass : σ) (events : List (Event σ)) (stage : Stage σ) :
    Prop where
  level_eq : stage.run.report.level = level
  distinct :
    (references stage.run.report.entries ++ stage.waiting.map Dependency.reference).Nodup
  store_eq : stage.waiting ≠ [] → stage.store = pass
  matched : List.Forall₂ (Entry.LeadsTo level)
    (stage.run.report.entries.filter fun entry => entry.state = .queued)
    (sentRequests events ++ stage.queue)
  absent : ∀ request ∈ sentRequests events ++ stage.queue,
    isStored pass request.key.checksummedAddress = false
  kept : ∀ current dependency state request,
    .classified current dependency state (some request) ∈ events →
      Kept events stage.queue request
  appeared : ∀ request current, .appeared request current ∈ events →
    isStored current request.key.checksummedAddress = true ∧
      ∃ entry ∈ stage.run.report.entries, entry.LeadsTo level request ∧ entry.state = .analyzed

namespace Tallied

variable {level : Level} {pass : σ} {events : List (Event σ)} {stage next : Stage σ}
  {event : Event σ}

/-- A classified dependency gets an entry of its own, and a request exactly if the entry says that
one waits. -/
theorem classify {run : Run} {store : σ} {dependency : Dependency} {waiting : List Dependency}
    {queue : List Request} {state : EntryState} {request : Option Request}
    (tallied : Tallied level pass events ⟨run, store, dependency :: waiting, queue⟩)
    (outcome : Crawl.classify store run.report.level run.inFlight dependency.source
      dependency.variableName dependency.address = (state, request)) :
    Tallied level pass (events ++ [.classified store dependency state request])
      ⟨run.afterClassified dependency state request, store, waiting,
        queue ++ request.toList⟩ := by
  obtain ⟨rfl, distinct, store_eq, matched, absent, kept, appeared⟩ := tallied
  obtain rfl : store = pass := store_eq (List.cons_ne_nil _ _)
  obtain ⟨leads, unstored⟩ := leadsTo_of_classify outcome
  have isNew : dependency.reference ∉ references run.report.entries := fun known =>
    (List.nodup_append.mp distinct).2.2 _ known _ (List.mem_cons_self ..) rfl
  have entries_eq : (run.afterClassified dependency state request).report.entries =
      run.report.entries ++ [⟨dependency.reference, dependency.address, state⟩] :=
    record_of_new isNew
  have sent_eq : sentRequests (events ++ [.classified store dependency state request]) =
      sentRequests events := by
    simp
  refine ⟨rfl, ?_, fun _ => rfl, ?_, ?_, Kept.classified kept store dependency state request, ?_⟩
  · rw [entries_eq]
    simpa [references] using distinct
  · rw [entries_eq, List.filter_append, sent_eq, ← List.append_assoc]
    exact List.rel_append matched leads
  · intro sent member
    rw [sent_eq, ← List.append_assoc, List.mem_append] at member
    exact member.elim (absent sent) (unstored sent)
  · intro found current member
    obtain ⟨stored, entry, present, settled⟩ := appeared found current (by simpa using member)
    exact ⟨stored, entry, entries_eq ▸ List.mem_append_left _ present, settled⟩

/-- A request that appears in the store takes its entry from those that wait. -/
theorem appear {run : Run} {store : σ} {request : Request} {queue : List Request}
    (tallied : Tallied level pass events ⟨run, store, [], request :: queue⟩)
    (stored : isStored store request.key.checksummedAddress = true) :
    Tallied level pass (events ++ [.appeared request store])
      ⟨run.afterAppeared request, store, [], queue⟩ := by
  obtain ⟨rfl, distinct, _, matched, absent, kept, appeared⟩ := tallied
  simp only [List.map_nil, List.append_nil] at distinct
  obtain ⟨before, entry, after, split, sent, leads, waiting⟩ := exists_matched matched
  have entries_eq := run.afterAppeared_entries request leads.reference_eq
  have present : entry ∈ run.report.entries :=
    List.mem_of_mem_filter (split ▸ List.mem_append_right _ (List.mem_cons_self ..))
  refine ⟨by simp, ?_, by simp, ?_, ?_, ?_, ?_⟩
  · simpa [entries_eq] using distinct
  · have distinctQueued : ((before ++ entry :: after).map Entry.reference).Nodup :=
      split ▸ distinct.sublist (List.filter_sublist.map Entry.reference)
    rw [entries_eq, queued_settle_analyzed distinct, split, filter_ne_middle distinctQueued]
    simpa using List.rel_append sent waiting
  · exact fun other member => absent other (by simp at member; grind)
  · intro current other judged found member
    obtain sentOrWaiting | ⟨current, turned⟩ :=
      kept current other judged found (by simpa using member)
    · obtain rfl | sentOrWaiting : found = request ∨ found ∈ sentRequests events ++ queue := by
        grind
      · exact .inr ⟨store, by simp⟩
      · exact .inl (by simpa using sentOrWaiting)
    · exact .inr ⟨current, List.mem_append_left _ turned⟩
  · intro found current member
    rw [entries_eq]
    obtain member | ⟨rfl, rfl⟩ : .appeared found current ∈ events ∨ found = request ∧
        current = store := by
      simpa using member
    · obtain ⟨stored, other, present, leads, settled⟩ := appeared found current member
      exact ⟨stored, other, mem_settle_of_mem present settled, leads, settled⟩
    · exact ⟨stored, _, settled_mem distinct present, leads, rfl⟩

/-- An answer leaves the entries as they are: the entry of the request says queued before and
after. -/
theorem send {run : Run} {store after : σ} {request : Request} {queue : List Request}
    {answer : Except AtlasError (Option Session)}
    (tallied : Tallied level pass events ⟨run, store, [], request :: queue⟩) :
    Tallied level pass (events ++ [.sent ⟨request, store, answer, after⟩])
      ⟨run.afterAnswer request answer, after, [], queue⟩ where
  level_eq := by simpa using tallied.level_eq
  distinct := by simpa using tallied.distinct
  store_eq := by simp
  matched := by simpa using tallied.matched
  absent := by simpa using tallied.absent
  kept := by simpa [Kept] using tallied.kept
  appeared := by simpa using tallied.appeared

/-- Every step of a pass keeps the tally, up to the next pass. -/
theorem preserved (tallied : Tallied level pass events stage) (step : Step stage event next)
    (within : ∀ begun, event ≠ .begun begun) : Tallied level pass (events ++ [event]) next := by
  cases step with
  | beginPass _ => exact absurd rfl (within _)
  | classify outcome => exact tallied.classify outcome
  | appear stored => exact tallied.appear stored
  | send _ => exact tallied.send

/-- The tally of a pass is kept up to its end, as long as no other pass begins. -/
theorem of_steps {later : List (Event σ)} (tallied : Tallied level pass events stage)
    (steps : Steps stage later next) (within : ∀ begun, .begun begun ∉ later) :
    Tallied level pass (events ++ later) next := by
  induction steps generalizing events with
  | none => simpa using tallied
  | more step _ inductionHypothesis =>
      have preserved := tallied.preserved step fun begun same =>
        within begun (same ▸ List.mem_cons_self ..)
      have finished := inductionHypothesis preserved fun begun member =>
        within begun (List.mem_cons_of_mem _ member)
      rwa [List.append_assoc, List.singleton_append] at finished

/-- A pass starts with a tally if there are no entries yet. -/
theorem start {run : Run} {dependencies : List Dependency} (noEntries : run.report.entries = [])
    (distinct : (dependencies.map Dependency.reference).Nodup) :
    Tallied run.report.level pass [] ⟨run.afterBeginning, pass, dependencies, []⟩ := by
  have stillNone : run.afterBeginning.report.entries = [] := noEntries
  constructor <;> simp [stillNone, references, distinct]

end Tallied

/-! ## The only pass of a bounded crawl -/

/-- Whether a pass begins. -/
@[simp] def Event.isBegun : Event σ → Bool
  | .begun _ => true
  | _ => false

/-- A step counts as a pass exactly if it begins one. -/
theorem Step.passes_eq {stage next : Stage σ} {event : Event σ} (step : Step stage event next) :
    next.run.report.passes = stage.run.report.passes + [event].countP Event.isBegun := by
  cases step with
  | beginPass _ => rfl
  | classify _ => rfl
  | appear _ => simp
  | send _ => simp

/-- A crawl counts its passes. -/
theorem Steps.passes_eq {stage finish : Stage σ} {events : List (Event σ)}
    (steps : Steps stage events finish) :
    finish.run.report.passes = stage.run.report.passes + events.countP Event.isBegun := by
  induction steps with
  | none => rfl
  | @more _ event _ events _ first _ inductionHypothesis =>
      rw [inductionHypothesis, first.passes_eq, List.countP_cons, List.countP_cons,
        List.countP_nil]
      omega

omit [SessionStore σ] in
/-- Where no event begins a pass, no store is that of a beginning pass. -/
theorem not_begun_of_countP_eq_zero {events : List (Event σ)}
    (none : events.countP Event.isBegun = 0) (begun : σ) : .begun begun ∉ events :=
  fun member => List.countP_eq_zero.mp none _ member rfl

/-- Nothing but a new pass follows when there is nothing to classify or to send. -/
theorem Steps.eq_of_idle {run : Run} {store : σ} {finish : Stage σ} {events : List (Event σ)}
    (steps : Steps ⟨run, store, [], []⟩ events finish) (within : ∀ begun, .begun begun ∉ events) :
    events = [] ∧ finish = ⟨run, store, [], []⟩ := by
  cases steps with
  | none => exact ⟨rfl, rfl⟩
  | more first _ =>
      cases first with
      | beginPass _ => exact absurd (List.mem_cons_self ..) (within store)

/-- Until the first pass begins there is no entry, nothing happens but that the target is sent, and
it is sent unless the store that the pass begins with has it. -/
theorem Steps.beforeFirstPass {level : Level} {target : Option SessionKey} {store pass : σ}
    {earlier : List (Event σ)} {run : Run}
    (steps : Steps (Stage.start level target store) earlier ⟨run, pass, [], []⟩)
    (within : ∀ begun, .begun begun ∉ earlier) :
    run.report.entries = [] ∧
      (∀ event ∈ earlier, ∃ exchange, event = .sent exchange ∧ target = some exchange.request.key) ∧
      ∀ key, target = some key →
        isStored pass key.checksummedAddress = true ∨ key ∈ sentKeys earlier := by
  cases target with
  | none =>
      obtain ⟨rfl, same⟩ := steps.eq_of_idle within
      cases same
      exact ⟨rfl, List.forall_mem_nil _, by simp⟩
  | some key =>
      cases stored : isStored store key.checksummedAddress with
      | true =>
          simp only [Stage.start, stored, if_true] at steps
          obtain ⟨rfl, same⟩ := steps.eq_of_idle within
          cases same
          exact ⟨rfl, List.forall_mem_nil _, fun _ isTarget =>
            .inl (Option.some.inj isTarget ▸ stored)⟩
      | false =>
          simp only [Stage.start, stored, Bool.false_eq_true, if_false] at steps
          -- The request for the target is all that waits, so one step is all that happens.
          cases steps with
          | more first rest =>
              cases first with
              | appear found => exact absurd (stored.symm.trans found) Bool.false_ne_true
              | send _ =>
                  obtain ⟨rfl, same⟩ := rest.eq_of_idle fun begun member =>
                    within begun (List.mem_cons_of_mem _ member)
                  cases same
                  exact ⟨by simp, by simp [Request.forTarget], by simp [Request.forTarget]⟩

/-- The references of some sessions are distinct if no two sessions have the same key. -/
theorem nodup_reference_of_sessions {sessions : List Session}
    (keys : (sessions.filterMap fun session => session.key.toOption).Nodup)
    (tables : ∀ session ∈ sessions, session.HasTable) :
    ((sessions.flatMap dependenciesOf).map Dependency.reference).Nodup := by
  rw [List.map_flatMap, List.nodup_flatMap]
  constructor
  · intro session member
    rw [dependenciesOf]
    cases session.key with
    | error _ => exact List.nodup_nil
    | ok source =>
        have named := (tables session member).map
          (f := Reference.mk source.display) fun _ _ same => (Reference.mk.inj same).2
        simpa [Dependency.reference, Json.SortedFields.names, Function.comp_def] using named
  · rw [List.Nodup, List.pairwise_filterMap] at keys
    refine keys.imp fun {session other} different reference member otherMember => ?_
    obtain ⟨dependency, listed, rfl⟩ := List.mem_map.mp member
    obtain ⟨otherDependency, otherListed, same⟩ := List.mem_map.mp otherMember
    have keyed := (mem_dependenciesOf.mp listed).1
    have otherKeyed := (mem_dependenciesOf.mp otherListed).1
    refine different dependency.source ?_ otherDependency.source ?_ ?_
    · simp [keyed, Except.toOption]
    · simp [otherKeyed, Except.toOption]
    · exact SessionKey.display_injective (Reference.mk.inj same).1.symm

/-- What becomes of a queued request in a pass: it appears in the store before its turn, and its
entry says analyzed, or it is sent, and its entry says queued. -/
def Settled (level : Level) (events : List (Event σ)) (entries : List Entry) (request : Request) :
    Prop :=
  (∃ current, .appeared request current ∈ events ∧
      isStored current request.key.checksummedAddress = true ∧
      ∃ entry ∈ entries, entry.LeadsTo level request ∧ entry.state = .analyzed) ∨
    ∃ exchange, .sent exchange ∈ events ∧ exchange.request = request ∧
      isStored exchange.before request.key.checksummedAddress = false ∧
      ∃ entry ∈ entries, entry.LeadsTo level request ∧ entry.state = .queued

/-- What was sent besides the target is what was sent in the pass, if the target was sent before the
pass or its store has it. -/
theorem dispatched_besides_target {level : Level} {target : Option SessionKey} {store pass : σ}
    {earlier later : List (Event σ)} {stage : Stage σ}
    (steps : Steps (Stage.start level target store) (earlier ++ .begun pass :: later) stage)
    (onlyTarget : ∀ event ∈ earlier, ∃ exchange, event = .sent exchange ∧
      target = some exchange.request.key)
    (targetDone : ∀ key, target = some key →
      isStored pass key.checksummedAddress = true ∨ key ∈ sentKeys earlier)
    (absent : ∀ request ∈ sentRequests later,
      isStored pass request.key.checksummedAddress = false) :
    (stage.run.report.dispatched.filter fun payload =>
        target.map SessionKey.display ≠ some payload) =
      (sentRequests later).map Request.payload := by
  have orderly := Orderly.of_steps steps
  have sent_eq : stage.run.report.dispatched =
      (sentRequests earlier).map Request.payload ++ (sentRequests later).map Request.payload := by
    rw [orderly.dispatched_eq]
    simp [sentRequests, Function.comp_def]
  have removed : ∀ payload ∈ (sentRequests earlier).map Request.payload,
      ¬ decide (target.map SessionKey.display ≠ some payload) = true := by
    intro payload member
    obtain ⟨request, sent, rfl⟩ := List.mem_map.mp member
    obtain ⟨exchange, exchanged, rfl⟩ := List.mem_map.mp sent
    obtain ⟨_, same, isTarget⟩ := onlyTarget _ (mem_exchangesOf.mp exchanged)
    cases same
    simp [isTarget, Request.payload]
  have kept : ∀ payload ∈ (sentRequests later).map Request.payload,
      decide (target.map SessionKey.display ≠ some payload) = true := by
    intro payload member
    obtain ⟨request, sent, rfl⟩ := List.mem_map.mp member
    refine decide_eq_true fun same => ?_
    obtain ⟨key, isTarget, same⟩ := Option.map_eq_some_iff.mp same
    obtain rfl := SessionKey.display_injective same
    obtain stored | before := targetDone _ isTarget
    · exact Bool.false_ne_true ((absent request sent).symm.trans stored)
    · have distinct := (List.nodup_append.mp orderly.distinct).1
      obtain ⟨exchange, exchanged, rfl⟩ := List.mem_map.mp sent
      have after : exchange.request.key ∈ sentKeys later :=
        List.mem_map.mpr ⟨exchange, exchanged, rfl⟩
      rw [sentKeys_append, List.nodup_append] at distinct
      exact distinct.2.2 _ before _ (by simpa [sentKeys] using after) rfl
  rw [sent_eq, List.filter_append, List.filter_eq_nil_iff.mpr removed,
    List.filter_eq_self.mpr kept, List.nil_append]

/-- A classified request has appeared in the store or was sent, once no request waits any more. -/
theorem Tallied.settled {level : Level} {target : Option SessionKey} {store pass : σ}
    {earlier later : List (Event σ)} {stage : Stage σ} (tallied : Tallied level pass later stage)
    (steps : Steps (Stage.start level target store) (earlier ++ .begun pass :: later) stage)
    (noneQueued : stage.queue = []) {current : σ} {dependency : Dependency} {state : EntryState}
    {request : Request} (classified : .classified current dependency state (some request) ∈ later) :
    Settled level (earlier ++ .begun pass :: later) stage.run.report.entries request := by
  obtain ⟨-, -, -, matched, -, kept, appeared⟩ := tallied
  rw [noneQueued, List.append_nil] at matched
  simp only [noneQueued, Kept, List.append_nil] at kept
  obtain sent | ⟨found, turned⟩ := kept current dependency state request classified
  · obtain ⟨exchange, exchanged, rfl⟩ := List.mem_map.mp sent
    have isSent : exchange ∈ exchangesOf (earlier ++ .begun pass :: later) := by
      simp [exchanged]
    obtain ⟨before, after, split⟩ := List.append_of_mem sent
    obtain ⟨_, entry, _, entries_eq, _, leads, _⟩ := exists_matched (split ▸ matched)
    have isQueued : entry ∈ stage.run.report.entries.filter fun entry => entry.state = .queued :=
      entries_eq ▸ List.mem_append_right _ (List.mem_cons_self ..)
    obtain ⟨present, queued⟩ : entry ∈ stage.run.report.entries ∧ entry.state = .queued := by
      simpa using isQueued
    exact .inr ⟨exchange, mem_exchangesOf.mp isSent, rfl,
      (Orderly.of_mem_exchangesOf steps isSent).2, entry, present, leads, queued⟩
  · obtain ⟨stored, entry, present, leads, settled⟩ := appeared request found turned
    exact .inl ⟨found, by simp [turned], stored, entry, present, leads, settled⟩

/-- Every request of the only pass is settled, and what was sent besides the target are the payloads
of the queued entries. -/
theorem tally_of_only_pass {level : Level} {target : Option SessionKey} {store pass : σ}
    {earlier later : List (Event σ)} {run : Run} {stage : Stage σ} {sessions : List Session}
    (prior : Steps (Stage.start level target store) earlier ⟨run, pass, [], []⟩)
    (following : Steps ⟨run.afterBeginning, pass, sessions.flatMap dependenciesOf, []⟩ later stage)
    (known : knownSessions pass run.returned = .ok sessions)
    (once : ∀ begun, .begun begun ∉ earlier ++ later)
    (keys : (sessions.filterMap fun session => session.key.toOption).Nodup)
    (tables : ∀ session ∈ sessions, session.HasTable)
    (noneQueued : stage.queue = []) :
    List.Forall₂ Entry.HasPayload
      (stage.run.report.entries.filter fun entry => entry.state = .queued)
      (stage.run.report.dispatched.filter fun payload =>
        target.map SessionKey.display ≠ some payload) ∧
    ∀ current dependency state request,
      .classified current dependency state (some request) ∈ earlier ++ .begun pass :: later →
        Settled level (earlier ++ .begun pass :: later) stage.run.report.entries request := by
  have notEarlier : ∀ begun, .begun begun ∉ earlier :=
    fun begun member => once begun (List.mem_append_left _ member)
  have notLater : ∀ begun, .begun begun ∉ later :=
    fun begun member => once begun (List.mem_append_right _ member)
  obtain ⟨noEntries, onlyTarget, targetDone⟩ := prior.beforeFirstPass notEarlier
  have steps := prior.append (.more (.beginPass known) following)
  have level_eq : run.report.level = level := prior.level_eq.trans (Stage.start_level level _ store)
  have tallied := (Tallied.start noEntries (nodup_reference_of_sessions keys tables)).of_steps
    following notLater
  rw [List.nil_append, level_eq] at tallied
  constructor
  · have matched := tallied.matched
    have absent := tallied.absent
    rw [noneQueued, List.append_nil] at matched absent
    rw [dispatched_besides_target steps onlyTarget targetDone absent, List.forall₂_map_right_iff]
    exact matched.imp fun _ _ leads => leads.hasPayload
  · intro current dependency state request member
    obtain before | during := List.mem_append.mp member
    · obtain ⟨_, same, _⟩ := onlyTarget _ before
      cases same
    · have inPass : .classified current dependency state (some request) ∈ later := by
        simpa using during
      exact tallied.settled steps noneQueued inPass

section

variable {ε : Type} (dispatch : Dispatcher (StateM ε) σ) (world : ε)

variable (limit : Nat) (level : Level) (target : Option String) (store : σ)

/-- A crawl that returns a report comes to what its passes come to once the target has had its
turn. -/
theorem passes_of_finished {report : Report}
    (finished : (recordedCrawl dispatch world limit level target store).ending =
      .finished report) :
    Passes dispatch limit (.beforeFirst dispatch world level (targetKey? target) store)
      (recordedCrawl dispatch world limit level target store) := by
  obtain ⟨text, invalid, rfl, rejected⟩ | valid := invalid_or_valid target
  · rw [recordedCrawl_of_invalid dispatch world limit level store rejected] at finished
    cases finished
  · rw [recordedCrawl_of_valid dispatch world limit level store valid]
    exact Pause.passes_outcome dispatch limit _

/-- No pass begins before the first one. -/
theorem Pause.steps_beforeFirstPass (level : Level) (target : Option SessionKey) (store : σ) :
    let pause := beforeFirst dispatch world level target store
    ∃ events, pause.history = exchangesOf events ∧
      Steps (Stage.start level target store) events ⟨pause.run, pause.store, [], []⟩ ∧
      ∀ begun, .begun begun ∉ events := by
  obtain ⟨events, sent, steps⟩ := steps_beforeFirst dispatch world level target store
  have counted := steps.passes_eq
  rw [passes_beforeFirst, Stage.start_report, Nat.zero_add] at counted
  exact ⟨events, sent, steps, not_begun_of_countP_eq_zero counted.symm⟩

/-- Bounded passes are one pass. -/
theorem Passes.passes_of_bounded {dispatch : Dispatcher (StateM ε) σ} {limit : Nat}
    {pause : Pause ε σ} {outcome : Outcome σ} (passes : Passes dispatch limit pause outcome)
    (bounded : pause.run.report.level ≠ .unbounded) {report : Report}
    (finished : outcome.ending = .finished report) :
    report.passes = pause.run.report.passes + 1 := by
  cases passes with
  | limitReached => cases finished
  | failed _ => cases finished
  | idle nothing =>
      cases finished
      exact (report_of_classifyPass nothing).1
  | last turn _ =>
      cases finished
      exact turn.passes_eq
  | more turn unbounded _ =>
      obtain ⟨_, _, steps⟩ := turn.steps
      exact absurd (steps.level_eq.symm.trans unbounded) bounded

/-- Bounded passes begin once, with the sessions that are known at the pause. -/
theorem Passes.steps_of_bounded {dispatch : Dispatcher (StateM ε) σ} {limit : Nat}
    {pause : Pause ε σ} {outcome : Outcome σ} (passes : Passes dispatch limit pause outcome)
    (bounded : pause.run.report.level ≠ .unbounded) {report : Report}
    (finished : outcome.ending = .finished report) :
    ∃ sessions later run, knownSessions pause.store pause.run.returned = .ok sessions ∧
      outcome.history = pause.history ++ exchangesOf later ∧
      Steps ⟨pause.run.afterBeginning, pause.store, sessions.flatMap dependenciesOf, []⟩ later
        ⟨run, outcome.store, [], []⟩ ∧
      run.report = report ∧ ∀ begun, .begun begun ∉ later := by
  obtain ⟨events, run, kept, steps, sameReport⟩ := passes.steps
  have counted := steps.passes_eq
  rw [sameReport report finished, passes.passes_of_bounded bounded finished,
    Nat.add_left_cancel_iff] at counted
  cases events with
  | nil => cases counted
  | cons event later =>
      cases steps with
      | more first rest =>
          cases first with
          | beginPass known =>
              rw [List.countP_cons_of_pos rfl] at counted
              exact ⟨_, later, run, known, by simpa using kept, rest, sameReport report finished,
                not_begun_of_countP_eq_zero (by omega)⟩

/-- Whatever the service answers and does to the store, a report has no two entries for a reference,
leaves no reference open, and lists what was sent and which of it failed. If the sessions that a
single hop classifies have distinct keys (and each has a table, as sessions that are read have),
what was sent besides the target are the payloads of the queued entries, in their order; the entry
of a request that appeared in the store before its turn says analyzed instead. -/
theorem report_accounts_for_dispatches {report : Report}
    (finished : (recordedCrawl dispatch world limit level target store).ending =
      .finished report) :
    let outcome := recordedCrawl dispatch world limit level target store
    (report.entries.map Entry.reference).Nodup ∧
    (∀ entry ∈ report.entries, entry.state ≠ .pending) ∧
    report.dispatched = outcome.history.map (fun exchange => exchange.request.payload) ∧
    report.failures = outcome.history.filterMap Exchange.failure? ∧
    (level = .singleHop →
      let pause := Pause.beforeFirst dispatch world level (targetKey? target) store
      ∃ sessions, knownSessions pause.store pause.run.returned = .ok sessions ∧
        ((sessions.filterMap fun session => session.key.toOption).Nodup →
          (∀ session ∈ sessions, session.HasTable) →
          List.Forall₂ Entry.HasPayload
            (report.entries.filter fun entry => entry.state = .queued)
            (report.dispatched.filter fun payload =>
              (targetKey? target).map SessionKey.display ≠ some payload) ∧
          ∃ course : Course (Stage.start level (targetKey? target) store) outcome,
            ∀ current dependency state request,
              .classified current dependency state (some request) ∈ course.events →
                Settled level course.events report.entries request)) := by
  intro outcome
  obtain ⟨course⟩ := exists_course dispatch world limit level target store
  obtain ⟨distinct, classified, failures_eq⟩ := Reported.of_steps course.steps
  rw [course.report_eq report finished] at distinct classified failures_eq
  rw [course.history_eq] at failures_eq
  refine ⟨distinct, classified, dispatched_eq_history dispatch world limit level target store
    finished, failures_eq, ?_⟩
  intro isSingleHop pause
  obtain ⟨earlier, sent, prior, notEarlier⟩ :=
    Pause.steps_beforeFirstPass dispatch world level (targetKey? target) store
  have bounded : pause.run.report.level ≠ .unbounded := by
    have level_eq : pause.run.report.level = level :=
      prior.level_eq.trans (Stage.start_level level _ store)
    simp [level_eq, isSingleHop]
  obtain ⟨sessions, later, run, known, kept, following, rfl, notLater⟩ :=
    (passes_of_finished dispatch world limit level target store finished).steps_of_bounded bounded
      finished
  have once : ∀ begun, .begun begun ∉ earlier ++ later := fun begun member =>
    (List.mem_append.mp member).elim (notEarlier begun) (notLater begun)
  refine ⟨sessions, known, fun keys tables => ?_⟩
  obtain ⟨payloads, settled⟩ := tally_of_only_pass prior following known once keys tables rfl
  exact ⟨payloads, ⟨⟨earlier ++ .begun pause.store :: later, _,
    prior.append (.more (.beginPass known) following), by simp [kept, sent, outcome], rfl,
    by simp [finished, outcome]⟩, settled⟩⟩

end

/-- A service that fails every request, while the store becomes another one. -/
def forestallingService (after : MemoryStore) : Dispatcher (StateM Unit) MemoryStore :=
  fun request _ => return (.error (.dispatch request.payload "HTTP 504 Gateway Timeout: "), after)

/-- A session has two dependencies. The request for the first one fails, but the second one appears
in the store meanwhile. -/
theorem report_accounts_for_dispatches_forestalled :
    let depending := ("mainet:0x1111111111111111111111111111111111111111", some dependingSession)
    let appearing :=
      ("mainet:0x3333333333333333333333333333333333333333",
        some (bareSession ⟨"mainet", ⟨List.replicate 40 3, rfl⟩⟩))
    let service := forestallingService ⟨.exact, [depending, appearing]⟩
    let outcome := recordedCrawl service () 1 .singleHop none (MemoryStore.mk .exact [depending])
    ∃ report, outcome.ending = .finished report ∧
      report.entries.map Entry.state = [.queued, .analyzed] ∧
      report.dispatched = ["mainet:0x2222222222222222222222222222222222222222"] ∧
      report.failures = outcome.history.filterMap Exchange.failure? ∧
      List.Forall₂ Entry.HasPayload
        (report.entries.filter fun entry => entry.state = .queued) report.dispatched := by
  intro depending appearing service outcome
  have computed : outcome.ending.report?.map
      (fun report => (report.entries.map Entry.state, report.dispatched)) =
      some ([.queued, .analyzed], ["mainet:0x2222222222222222222222222222222222222222"]) := by
    decide +kernel
  obtain ⟨report, ended, same⟩ := Option.map_eq_some_iff.mp computed
  obtain ⟨states, dispatched⟩ := Prod.mk.inj same
  have finished := Ending.report?_eq_some_iff.mp ended
  obtain ⟨_, _, _, failures_eq, singleHop⟩ := report_accounts_for_dispatches service () 1 .singleHop
    none (MemoryStore.mk .exact [depending]) finished
  obtain ⟨sessions, known, tallied⟩ := singleHop rfl
  have sessions_eq : sessions = [dependingSession] := by
    have plain : Path.EndsPlainly "mainet:0x1111111111111111111111111111111111111111" :=
      ⟨'1', "mainet:0x111111111111111111111111111111111111111".toList.reverse, by decide,
        by decide, by decide⟩
    have loads : SessionStore.load (MemoryStore.mk .exact [depending])
        (MemoryStore.documentPath depending.1) = .ok dependingSession :=
      MemoryStore.load_documentPath plain rfl
    have listed :
        knownSessions (MemoryStore.mk .exact [depending]) [] = .ok [dependingSession] := by
      simp [knownSessions, SessionStore.sessions, SessionStore.loadable, SessionStore.documents,
        MemoryStore.document?, depending, loads]
    exact Except.ok.inj (known.symm.trans listed)
  subst sessions_eq
  have tables : ∀ session ∈ [dependingSession], session.HasTable :=
    List.forall_mem_singleton.mpr (by unfold Session.HasTable; decide)
  obtain ⟨payloads, _⟩ := tallied (by decide) tables
  exact ⟨report, finished, states, dispatched, failures_eq, by simpa [targetKey?] using payloads⟩

end ContractAtlas.Crawl
