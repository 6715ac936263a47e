import ContractAtlas.Proofs.Crawl.Course
import ContractAtlas.Store.Memory

/-!
# Failures are isolated

A service that returns no session and leaves the store alone can still choose, for every request,
whether it answers that it is done or that it failed. The choice shows in the failures of the report
and nowhere else: a request that failed is not sent again, its key stays handed out, and the queue
goes on behind it. The proof runs two crawls side by side. `Pause.Alike` says that they stand at the
same place up to their failures, and every turn of a request keeps it.
-/

namespace ContractAtlas.Crawl

/-- The report without its failures. -/
def Report.withoutFailures (report : Report) : Report :=
  { report with failures := [] }

/-- The end of a crawl, the failures of the report aside. -/
def Ending.withoutFailures : Ending → Ending
  | .finished report => .finished report.withoutFailures
  | .failed fault => .failed fault
  | .passLimitReached => .passLimitReached

/-- The run, the failures of the report aside. -/
def Run.withoutFailures (run : Run) : Run :=
  { run with report := run.report.withoutFailures }

/-- Whether a service that meets a store returns no session and leaves the store alone, whatever
else it answers. -/
def Dispatcher.IsQuiet {ε σ : Type} (dispatch : Dispatcher (StateM ε) σ) (store : σ) : Prop :=
  ∀ request world, ∃ answer later,
    (dispatch request store).run world = ((answer, store), later) ∧ sessionOf? answer = none

namespace Run

/-- A contract that has appeared leaves the failures alone. -/
theorem withoutFailures_afterAppeared (run : Run) (request : Request) :
    (run.afterAppeared request).withoutFailures = run.withoutFailures.afterAppeared request := by
  unfold afterAppeared
  split <;> rfl

/-- An answer without a session, good or bad, acts on the run like one that says no more than that
the request is done. -/
theorem withoutFailures_afterAnswer (run : Run) (request : Request)
    {answer : Except AtlasError (Option Session)} (nothing : sessionOf? answer = none) :
    (run.afterAnswer request answer).withoutFailures =
      run.withoutFailures.afterAnswer request (.ok none) := by
  cases answer with
  | error fault => rfl
  | ok session =>
      obtain rfl : session = none := nothing
      rfl

variable {σ : Type} [SessionStore σ]

/-- A pass does not look at the failures. -/
theorem classifyPass_withoutFailures (run : Run) (store : σ) :
    run.withoutFailures.classifyPass store =
      (run.classifyPass store).map fun pass => (pass.1.withoutFailures, pass.2) := by
  rw [classifyPass, classifyPass]
  change (knownSessions store run.returned >>= _) = _
  cases knownSessions store run.returned with
  | error fault => rfl
  | ok sessions => rfl

/-- Runs that differ in their failures alone queue the same requests, or fail in the same way. -/
theorem classifyPass_cases {first second : Run}
    (same : first.withoutFailures = second.withoutFailures) (store : σ) :
    (∃ fault, first.classifyPass store = .error fault ∧
      second.classifyPass store = .error fault) ∨
    ∃ next other queue, first.classifyPass store = .ok (next, queue) ∧
      second.classifyPass store = .ok (other, queue) ∧
      next.withoutFailures = other.withoutFailures := by
  have agree := first.classifyPass_withoutFailures store
  rw [same, classifyPass_withoutFailures] at agree
  cases one : first.classifyPass store with
  | error fault =>
      cases two : second.classifyPass store with
      | error other =>
          rw [one, two] at agree
          exact .inl ⟨fault, rfl, agree⟩
      | ok pass =>
          rw [one, two] at agree
          cases agree
  | ok pass =>
      cases two : second.classifyPass store with
      | error fault =>
          rw [one, two] at agree
          cases agree
      | ok other =>
          rw [one, two] at agree
          obtain ⟨run_eq, queue_eq⟩ := Prod.mk.inj (Except.ok.inj agree)
          exact .inr ⟨pass.1, other.1, pass.2, rfl, by rw [← queue_eq], run_eq.symm⟩

end Run

section

variable {ε₁ ε₂ σ : Type} [SessionStore σ]

/-- Whether two crawls over a store stand at the same place between two passes, their failures and
what they know of the world aside, and have sent the same requests. -/
structure Pause.Alike (store : σ) (first : Pause ε₁ σ) (second : Pause ε₂ σ) : Prop where
  run_eq : first.run.withoutFailures = second.run.withoutFailures
  store_eq : first.store = store
  other_store_eq : second.store = store
  requests_eq : first.history.map Exchange.request = second.history.map Exchange.request

/-- Whether two crawls come to the same, their failures aside, with the same requests. -/
structure Outcome.Alike (first second : Outcome σ) : Prop where
  ending_eq : first.ending.withoutFailures = second.ending.withoutFailures
  requests_eq : first.history.map Exchange.request = second.history.map Exchange.request

/-- Where a crawl stands after the requests of a queue have had their turns. -/
def Pause.afterQueue {ε : Type} (pause : Pause ε σ) (dispatch : Dispatcher (StateM ε) σ)
    (queue : List Request) : Pause ε σ :=
  let result := perform (drain dispatch.recorded queue pause.run pause.store) pause.history
    pause.world
  ⟨result.1.1.1, result.1.1.2, result.1.2, result.2⟩

variable {store : σ} {first : Pause ε₁ σ} {second : Pause ε₂ σ}
  {dispatch : Dispatcher (StateM ε₁) σ} {other : Dispatcher (StateM ε₂) σ}

namespace Pause

/-- A request whose contract is stored by now is passed over, and the service is not asked. -/
theorem afterQueue_of_stored {request : Request} {later : List Request}
    (stored : isStored first.store request.key.checksummedAddress = true) :
    first.afterQueue dispatch (request :: later) =
      afterQueue { first with run := first.run.afterAppeared request } dispatch later := by
  simp [afterQueue, drain, handOver, stored]

/-- Any other request is answered, and the rest of the queue follows. -/
theorem afterQueue_of_absent {request : Request} {later : List Request}
    (absent : isStored first.store request.key.checksummedAddress = false)
    {answer : Except AtlasError (Option Session)} {after : σ} {world : ε₁}
    (served : (dispatch request first.store).run first.world = ((answer, after), world)) :
    first.afterQueue dispatch (request :: later) =
      afterQueue ⟨first.run.afterAnswer request answer, after,
        first.history ++ [⟨request, first.store, answer, after⟩], world⟩ dispatch later := by
  simp [afterQueue, drain, handOver, absent, served]

/-- Quiet services keep crawls alike over a whole queue: each request is answered by the store or
not in both of them, and if it is sent, no answer shows but in the failures. -/
theorem Alike.afterQueue (quiet : dispatch.IsQuiet store) (otherQuiet : other.IsQuiet store)
    (alike : Alike store first second) (queue : List Request) :
    Alike store (first.afterQueue dispatch queue) (second.afterQueue other queue) := by
  induction queue generalizing first second with
  | nil => exact alike
  | cons request later inductionHypothesis =>
      cases stored : isStored store request.key.checksummedAddress with
      | true =>
          rw [afterQueue_of_stored (by rwa [alike.store_eq]),
            afterQueue_of_stored (by rwa [alike.other_store_eq])]
          refine inductionHypothesis ⟨?_, alike.store_eq, alike.other_store_eq, alike.requests_eq⟩
          rw [Run.withoutFailures_afterAppeared, Run.withoutFailures_afterAppeared, alike.run_eq]
      | false =>
          obtain ⟨answer, world, served, nothing⟩ := quiet request first.world
          obtain ⟨otherAnswer, otherWorld, otherServed, otherNothing⟩ :=
            otherQuiet request second.world
          rw [← alike.store_eq] at served
          rw [← alike.other_store_eq] at otherServed
          rw [afterQueue_of_absent (by rwa [alike.store_eq]) served,
            afterQueue_of_absent (by rwa [alike.other_store_eq]) otherServed]
          refine inductionHypothesis ⟨?_, alike.store_eq, alike.other_store_eq, ?_⟩
          · rw [Run.withoutFailures_afterAnswer _ _ nothing,
              Run.withoutFailures_afterAnswer _ _ otherNothing, alike.run_eq]
          · simp [alike.requests_eq]

end Pause

/-- Two quiet services take the same turn from pauses that are alike. -/
theorem Turn.alike (quiet : dispatch.IsQuiet store) (otherQuiet : other.IsQuiet store)
    {after : Pause ε₁ σ} (turn : Turn dispatch first after) (alike : first.Alike store second) :
    ∃ otherAfter, Turn other second otherAfter ∧ after.Alike store otherAfter := by
  obtain ⟨next, request, later, pass, result⟩ := turn
  obtain ⟨_, failed, _⟩ | ⟨_, otherNext, _, passed, otherPass, same⟩ :=
    Run.classifyPass_cases alike.run_eq store
  · rw [alike.store_eq, failed] at pass
    cases pass
  rw [alike.store_eq, passed] at pass
  cases pass
  have queued : Pause.Alike store { first with run := next } { second with run := otherNext } :=
    ⟨same, alike.store_eq, alike.other_store_eq, alike.requests_eq⟩
  have sent := queued.afterQueue quiet otherQuiet (request :: later)
  refine ⟨Pause.afterQueue { second with run := otherNext } other (request :: later),
    ⟨otherNext, request, later, by rwa [alike.other_store_eq], rfl⟩, ?_⟩
  rwa [show Pause.afterQueue { first with run := next } dispatch (request :: later) = after by
    simp [Pause.afterQueue, result]] at sent

/-- What passes come to with one quiet service, they come to with another, failures aside. -/
theorem Passes.alike (quiet : dispatch.IsQuiet store) (otherQuiet : other.IsQuiet store)
    {limit : Nat} {outcome : Outcome σ} (passes : Passes dispatch limit first outcome)
    (alike : first.Alike store second) :
    ∃ otherOutcome, Passes other limit second otherOutcome ∧ outcome.Alike otherOutcome := by
  induction passes generalizing second with
  | limitReached => exact ⟨_, .limitReached, rfl, alike.requests_eq⟩
  | failed unlisted =>
      obtain ⟨_, failed, otherFailed⟩ | ⟨_, _, _, passed, _⟩ :=
        Run.classifyPass_cases alike.run_eq store
      · rw [alike.store_eq, failed] at unlisted
        cases unlisted
        exact ⟨_, .failed (by rwa [alike.other_store_eq]), rfl, alike.requests_eq⟩
      · rw [alike.store_eq, passed] at unlisted
        cases unlisted
  | idle nothing =>
      obtain ⟨_, failed, _⟩ | ⟨_, _, _, passed, otherPassed, same⟩ :=
        Run.classifyPass_cases alike.run_eq store
      · rw [alike.store_eq, failed] at nothing
        cases nothing
      · rw [alike.store_eq, passed] at nothing
        cases nothing
        exact ⟨_, .idle (by rwa [alike.other_store_eq]),
          congrArg (fun run : Run => Ending.finished run.report) same, alike.requests_eq⟩
  | last turn bounded =>
      obtain ⟨otherAfter, otherTurn, later⟩ := turn.alike quiet otherQuiet alike
      have level_eq := congrArg (fun run : Run => run.report.level) later.run_eq
      exact ⟨_, .last otherTurn fun unbounded => bounded (level_eq.trans unbounded),
        congrArg (fun run : Run => Ending.finished run.report) later.run_eq, later.requests_eq⟩
  | more turn unbounded _ inductionHypothesis =>
      obtain ⟨otherAfter, otherTurn, later⟩ := turn.alike quiet otherQuiet alike
      have level_eq := congrArg (fun run : Run => run.report.level) later.run_eq
      obtain ⟨otherOutcome, rest, same⟩ := inductionHypothesis later
      exact ⟨otherOutcome, .more otherTurn (level_eq.symm.trans unbounded) rest, same⟩

/-- What comes of two pauses that are alike is alike. -/
theorem Pause.Alike.outcome (quiet : dispatch.IsQuiet store) (otherQuiet : other.IsQuiet store)
    (alike : first.Alike store second) (limit : Nat) :
    (first.outcome dispatch limit).Alike (second.outcome other limit) := by
  obtain ⟨_, passes, same⟩ := (first.passes_outcome dispatch limit).alike quiet otherQuiet alike
  rwa [passes.outcome_eq] at same

/-- The target has its turn as the only request of a queue, unless the store has it. -/
theorem Pause.beforeFirst_of_target (dispatch : Dispatcher (StateM ε₁) σ) (world : ε₁)
    (level : Level) (key : SessionKey) (store : σ) :
    beforeFirst dispatch world level (some key) store =
      if isStored store key.checksummedAddress then ⟨{ report := { level } }, store, [], world⟩
      else afterQueue ⟨{ report := { level }, inFlight := [key] }, store, [], world⟩ dispatch
        [.forTarget key] := by
  simp only [beforeFirst, sendTarget]
  split <;> rfl

/-- Before the first pass two crawls of one target are alike, the answer for the target aside. -/
theorem Pause.Alike.beforeFirst (quiet : dispatch.IsQuiet store) (otherQuiet : other.IsQuiet store)
    (world : ε₁) (otherWorld : ε₂) (level : Level) (target : Option SessionKey) :
    Pause.Alike store (.beforeFirst dispatch world level target store)
      (.beforeFirst other otherWorld level target store) := by
  have begun (run : Run) :
      Pause.Alike store ⟨run, store, [], world⟩ ⟨run, store, [], otherWorld⟩ :=
    ⟨rfl, rfl, rfl, rfl⟩
  cases target with
  | none => exact begun _
  | some key =>
      rw [Pause.beforeFirst_of_target, Pause.beforeFirst_of_target]
      split
      · exact begun _
      · exact (begun _).afterQueue quiet otherQuiet _

/-- Two services that return no session and leave the store alone, and answer in whatever way they
like that a request is done or failed, are sent the same requests in the same order, and the crawls
end in the same way: with reports that have everything in common but the failures, if with
reports. -/
theorem same_but_for_failures (quiet : dispatch.IsQuiet store) (otherQuiet : other.IsQuiet store)
    (world : ε₁) (otherWorld : ε₂) (limit : Nat) (level : Level) (target : Option String) :
    let outcome := recordedCrawl dispatch world limit level target store
    let otherOutcome := recordedCrawl other otherWorld limit level target store
    outcome.history.map Exchange.request = otherOutcome.history.map Exchange.request ∧
      outcome.ending.withoutFailures = otherOutcome.ending.withoutFailures := by
  have alike : (recordedCrawl dispatch world limit level target store).Alike
      (recordedCrawl other otherWorld limit level target store) := by
    obtain ⟨text, invalid, rfl, rejected⟩ | valid := invalid_or_valid target
    · rw [recordedCrawl_of_invalid dispatch world limit level store rejected,
        recordedCrawl_of_invalid other otherWorld limit level store rejected]
      exact ⟨rfl, rfl⟩
    · rw [recordedCrawl_of_valid dispatch world limit level store valid,
        recordedCrawl_of_valid other otherWorld limit level store valid]
      exact (Pause.Alike.beforeFirst quiet otherQuiet world otherWorld level _).outcome quiet
        otherQuiet limit
  exact ⟨alike.requests_eq, alike.ending_eq⟩

end

/-! ## Two services -/

/-- A service that fails every request. -/
def failingService : Dispatcher (StateM Unit) MemoryStore := fun request store =>
  return (.error (.dispatch request.payload "HTTP 500 Internal Server Error: "), store)

/-- A service that fails every second request. -/
def unreliableService : Dispatcher (StateM Bool) MemoryStore := fun request store => do
  let works <- get
  set !works
  let answer := if works then .ok none else .error (.dispatch request.payload "HTTP 429: ")
  return (answer, store)

/-- The service that always fails changes no store and returns no session. -/
theorem isQuiet_failingService (store : MemoryStore) : failingService.IsQuiet store :=
  fun _ _ => ⟨_, _, rfl, rfl⟩

/-- So does the one that fails now and then. -/
theorem isQuiet_unreliableService (store : MemoryStore) : unreliableService.IsQuiet store := by
  intro request works
  refine ⟨_, _, rfl, ?_⟩
  cases works <;> rfl

/-- A session that depends on two contracts. -/
def dependingSession : Session where
  networkInfo :=
    { contractAddress := "0x1111111111111111111111111111111111111111", contractNetwork := "mainet" }
  contractData :=
    { externalAddresses := some
        [("feed", "0x2222222222222222222222222222222222222222"),
         ("token", "0x3333333333333333333333333333333333333333")] }

/-- One service fails the second dependency of a session, the other both of them. -/
theorem same_but_for_failures_twoDependencies :
    let store : MemoryStore :=
      ⟨.exact, [("mainet:0x1111111111111111111111111111111111111111", some dependingSession)]⟩
    let unreliable := recordedCrawl unreliableService true 1 .singleHop none store
    let failing := recordedCrawl failingService () 1 .singleHop none store
    unreliableService.IsQuiet store ∧ failingService.IsQuiet store ∧
      unreliable.history.map (fun exchange => exchange.answer.isOk) = [true, false] ∧
      unreliable.history.map Exchange.request = failing.history.map Exchange.request ∧
      unreliable.ending.withoutFailures = failing.ending.withoutFailures := by
  intro store unreliable failing
  have quiet := isQuiet_unreliableService store
  have otherQuiet := isQuiet_failingService store
  exact ⟨quiet, otherQuiet, by decide +kernel,
    same_but_for_failures quiet otherQuiet true () 1 .singleHop none⟩

end ContractAtlas.Crawl
