import ContractAtlas.Proofs.Crawl.Steps

/-!
# The course of a crawl

A dispatcher is any function of a world that it may read and change, so it stands for every
behaviour of a service. `recordedCrawl` runs a crawl with such a dispatcher and writes down every
exchange; `crawl_eq_recordedCrawl` says that writing down changes nothing. `exists_course` ties the
crawl to the steps: its exchanges, its last store and its report are those of a sequence of steps.
-/

namespace ContractAtlas.Crawl

/-- A dispatcher that also writes down every exchange. -/
def Dispatcher.recorded {m : Type → Type} [Monad m] {σ : Type} (dispatch : Dispatcher m σ) :
    Dispatcher (StateT (List (Exchange σ)) m) σ :=
  fun request store history => do
    let (answer, after) <- dispatch request store
    return ((answer, after), history ++ [⟨request, store, answer, after⟩])

/-- What a crawl comes to: how it ends, the store at the end, and all exchanges in order. -/
structure Outcome (σ : Type) where
  ending : Ending
  store : σ
  history : List (Exchange σ)

/-- The report that a crawl ends with, if it ends with one. -/
def Ending.report? : Ending → Option Report
  | .finished report => some report
  | _ => none

/-- A crawl has a report exactly if it has finished with it. -/
theorem Ending.report?_eq_some_iff {ending : Ending} {report : Report} :
    ending.report? = some report ↔ ending = .finished report := by
  cases ending <;> simp [report?]

/-- The keys of the requests that were sent. -/
def Outcome.dispatchedKeys {σ : Type} (outcome : Outcome σ) : List SessionKey :=
  outcome.history.map fun exchange => exchange.request.key

/-- The outcome in the result of a crawl. -/
def Outcome.ofResult {ε σ : Type} (result : ((Ending × σ) × List (Exchange σ)) × ε) : Outcome σ :=
  ⟨result.1.1.1, result.1.1.2, result.1.2⟩

/-- The result of an action from the exchanges so far and a world, with both afterwards. -/
def perform {ε σ α : Type} (action : StateT (List (Exchange σ)) (StateM ε) α)
    (history : List (Exchange σ)) (world : ε) : (α × List (Exchange σ)) × ε :=
  (action.run history).run world

section

variable {ε σ α β : Type}

@[simp] theorem perform_pure (value : α) (history : List (Exchange σ)) (world : ε) :
    perform (pure value) history world = ((value, history), world) := rfl

@[simp] theorem perform_bind (action : StateT (List (Exchange σ)) (StateM ε) α)
    (next : α → StateT (List (Exchange σ)) (StateM ε) β) (history : List (Exchange σ))
    (world : ε) :
    perform (action >>= next) history world =
      perform (next (perform action history world).1.1) (perform action history world).1.2
        (perform action history world).2 := rfl

@[simp] theorem perform_recorded (dispatch : Dispatcher (StateM ε) σ) (request : Request)
    (store : σ) (history : List (Exchange σ)) (world : ε) :
    perform (dispatch.recorded request store) history world =
      let answered := (dispatch request store).run world
      ((answered.1, history ++ [⟨request, store, answered.1.1, answered.1.2⟩]), answered.2) := rfl

end

section

variable {ε σ : Type} [SessionStore σ]

/-- A crawl with all its exchanges written down. -/
def recordedCrawl (dispatch : Dispatcher (StateM ε) σ) (world : ε) (passLimit : Nat)
    (level : Level) (target : Option String) (store : σ) : Outcome σ :=
  .ofResult (perform (crawl dispatch.recorded passLimit level target store) [] world)

/-- The key of the target of a crawl, if there is a target and it has one. -/
def targetKey? (target : Option String) : Option SessionKey :=
  target.bind fun text => (SessionKey.parse text).toOption

/-- Where a crawl starts: with a request for the target in the queue, unless there is none or the
store has it. -/
def Stage.start (level : Level) (target : Option SessionKey) (store : σ) : Stage σ :=
  match target with
  | none => ⟨{ report := { level } }, store, [], []⟩
  | some key =>
      if isStored store key.checksummedAddress then ⟨{ report := { level } }, store, [], []⟩
      else ⟨{ report := { level }, inFlight := [key] }, store, [], [.forTarget key]⟩

/-- A crawl starts with an empty report. -/
theorem Stage.start_report (level : Level) (target : Option SessionKey) (store : σ) :
    (Stage.start level target store).run.report = { level } := by
  cases target with
  | none => rfl
  | some key =>
      simp only [Stage.start]
      split <;> rfl

/-- A crawl starts at the level that it is given. -/
theorem Stage.start_level (level : Level) (target : Option SessionKey) (store : σ) :
    (Stage.start level target store).run.report.level = level := by
  rw [start_report]

/-- A crawl starts over the store that it is given, target or not. -/
theorem Stage.start_store (level : Level) (target : Option SessionKey) (store : σ) :
    (Stage.start level target store).store = store := by
  cases target with
  | none => rfl
  | some key =>
      simp only [Stage.start]
      split <;> rfl

/-! ## A pass is a sequence of steps -/

/-- The frontier after one dependency. -/
def Frontier.visitDependency (store : σ) (level : Level) (frontier : Frontier)
    (dependency : Dependency) : Frontier :=
  frontier.visit store level dependency.source (dependency.variableName, dependency.address)

/-- Visiting a session is visiting its dependencies one by one. -/
theorem Frontier.visitSession_eq (store : σ) (level : Level) (frontier : Frontier)
    (session : Session) :
    frontier.visitSession store level session =
      (dependenciesOf session).foldl (visitDependency store level) frontier := by
  rw [visitSession, dependenciesOf]
  cases session.key with
  | error _ => rfl
  | ok source => simp only [List.foldl_map]; rfl

/-- Visiting sessions is visiting all their dependencies, in order. -/
theorem Frontier.foldl_visitSession (store : σ) (level : Level) (frontier : Frontier)
    (sessions : List Session) :
    sessions.foldl (visitSession store level) frontier =
      (sessions.flatMap dependenciesOf).foldl (visitDependency store level) frontier := by
  rw [List.foldl_flatMap]
  congr 1
  funext frontier session
  exact frontier.visitSession_eq store level session

/-- The run that a classification in progress belongs to. -/
def Run.withFrontier (run : Run) (frontier : Frontier) : Run :=
  { run with
    report := { run.report with entries := frontier.entries }
    inFlight := frontier.inFlight }

/-- Classifying dependencies one by one is a sequence of steps in which nothing is sent. -/
theorem steps_classify (store : σ) (dependencies : List Dependency) (run : Run)
    (queue : List Request) :
    let frontier := dependencies.foldl (Frontier.visitDependency store run.report.level)
      ⟨run.report.entries, run.inFlight, queue⟩
    ∃ events, exchangesOf events = [] ∧
      Steps ⟨run, store, dependencies, queue⟩ events
        ⟨run.withFrontier frontier, store, [], frontier.queue⟩ := by
  induction dependencies generalizing run queue with
  | nil => exact ⟨[], rfl, .none⟩
  | cons dependency later inductionHypothesis =>
      rcases outcome : classify store run.report.level run.inFlight dependency.source
        dependency.variableName dependency.address with ⟨state, request⟩
      obtain ⟨events, silent, steps⟩ := inductionHypothesis
        (run.afterClassified dependency state request) (queue ++ request.toList)
      refine ⟨.classified store dependency state request :: events, ?_,
        .more (.classify outcome) ?_⟩
      · simpa using silent
      · simpa [Frontier.visitDependency, Frontier.visit, outcome, Run.afterClassified,
          Run.withFrontier, Dependency.reference] using steps

/-- The frontier after the dependencies of some sessions. -/
def Run.frontierAfter (run : Run) (store : σ) (sessions : List Session) : Frontier :=
  (sessions.flatMap dependenciesOf).foldl (Frontier.visitDependency store run.report.level)
    ⟨run.report.entries, run.inFlight, []⟩

/-- A pass lists its sessions, counts itself, and classifies the dependencies one by one. -/
theorem Run.classifyPass_eq_ok_iff {run next : Run} {store : σ} {queue : List Request} :
    run.classifyPass store = .ok (next, queue) ↔
      ∃ sessions, knownSessions store run.returned = .ok sessions ∧
        next = run.afterBeginning.withFrontier (run.frontierAfter store sessions) ∧
        queue = (run.frontierAfter store sessions).queue := by
  simp only [Run.classifyPass, Frontier.foldl_visitSession]
  cases knownSessions store run.returned with
  | error fault => simp [bind, Except.bind]
  | ok sessions =>
      simp only [bind, Except.bind, pure, Except.pure, Except.ok.injEq, Prod.mk.injEq,
        exists_eq_left', @eq_comm _ next, @eq_comm _ queue]
      rfl

/-- A pass that classifies is a sequence of steps without an exchange, from one empty queue to the
queue that it leaves. -/
theorem steps_classifyPass {run next : Run} {store : σ} {queue : List Request}
    (pass : run.classifyPass store = .ok (next, queue)) :
    ∃ events, exchangesOf events = [] ∧
      Steps ⟨run, store, [], []⟩ events ⟨next, store, [], queue⟩ := by
  obtain ⟨sessions, known, rfl, rfl⟩ := Run.classifyPass_eq_ok_iff.mp pass
  obtain ⟨events, silent, steps⟩ :=
    steps_classify store (sessions.flatMap dependenciesOf) run.afterBeginning []
  exact ⟨.begun store :: events, silent, .more (.beginPass known) steps⟩

/-! ## Sending is a sequence of steps -/

/-- Draining a queue is a sequence of steps, with the exchanges that are written down meanwhile. -/
theorem steps_drain (dispatch : Dispatcher (StateM ε) σ) (queue : List Request) (run : Run)
    (store : σ) (history : List (Exchange σ)) (world : ε) :
    let result := perform (drain dispatch.recorded queue run store) history world
    ∃ events, result.1.2 = history ++ exchangesOf events ∧
      Steps ⟨run, store, [], queue⟩ events ⟨result.1.1.1, result.1.1.2, [], []⟩ := by
  induction queue generalizing run store history world with
  | nil => exact ⟨[], by simp [drain], .none⟩
  | cons request later inductionHypothesis =>
      cases stored : isStored store request.key.checksummedAddress with
      | true =>
          obtain ⟨events, sent, steps⟩ := inductionHypothesis (run.afterAppeared request) store
            history world
          refine ⟨.appeared request store :: events, ?_, .more (.appear stored) ?_⟩
          · simpa [drain, handOver, stored] using sent
          · simpa [drain, handOver, stored] using steps
      | false =>
          rcases answered : (dispatch request store).run world with ⟨⟨answer, after⟩, worldAfter⟩
          obtain ⟨events, sent, steps⟩ := inductionHypothesis (run.afterAnswer request answer) after
            (history ++ [⟨request, store, answer, after⟩]) worldAfter
          refine ⟨.sent ⟨request, store, answer, after⟩ :: events, ?_, .more (.send stored) ?_⟩
          · simpa [drain, handOver, stored, answered] using sent
          · simpa [drain, handOver, stored, answered] using steps

/-- Sending begins no pass. -/
theorem passes_drain (dispatch : Dispatcher (StateM ε) σ) (queue : List Request) (run : Run)
    (store : σ) (history : List (Exchange σ)) (world : ε) :
    (perform (drain dispatch.recorded queue run store) history world).1.1.1.report.passes =
      run.report.passes := by
  induction queue generalizing run store history world with
  | nil => rfl
  | cons request later inductionHypothesis =>
      cases stored : isStored store request.key.checksummedAddress with
      | true => simp [drain, handOver, stored, inductionHypothesis]
      | false => simp [drain, handOver, stored, inductionHypothesis]

/-! ## The level of a crawl -/

/-- The level of a crawl never changes. -/
theorem Step.level_eq {stage next : Stage σ} {event : Event σ} (step : Step stage event next) :
    next.run.report.level = stage.run.report.level := by
  cases step <;> simp

/-- No step changes the level. -/
theorem Steps.level_eq {stage finish : Stage σ} {events : List (Event σ)}
    (steps : Steps stage events finish) :
    finish.run.report.level = stage.run.report.level := by
  induction steps with
  | none => rfl
  | more first _ inductionHypothesis => rw [inductionHypothesis, first.level_eq]

/-! ## Passes

`Passes` follows the recursion of `runPasses`: one case for every way in which it ends, and one for
a turn after which it goes on. What holds of all passes is an induction over it. -/

/-- Where a crawl stands between two passes. -/
structure Pause (ε σ : Type) where
  run : Run
  store : σ
  history : List (Exchange σ)
  world : ε

/-- The outcome of at most so many passes. -/
def Pause.outcome (pause : Pause ε σ) (dispatch : Dispatcher (StateM ε) σ) (limit : Nat) :
    Outcome σ :=
  .ofResult (perform (runPasses dispatch.recorded limit pause.run pause.store) pause.history
    pause.world)

/-- A pass finds something to send, and it is sent. -/
def Turn (dispatch : Dispatcher (StateM ε) σ) (before after : Pause ε σ) : Prop :=
  ∃ next request later, before.run.classifyPass before.store = .ok (next, request :: later) ∧
    perform (drain dispatch.recorded (request :: later) next before.store) before.history
      before.world = (((after.run, after.store), after.history), after.world)

/-- What at most so many passes come to. -/
inductive Passes (dispatch : Dispatcher (StateM ε) σ) : Nat → Pause ε σ → Outcome σ → Prop where
  | limitReached {pause} :
      Passes dispatch 0 pause ⟨.passLimitReached, pause.store, pause.history⟩
  | failed {limit pause fault} (unlisted : pause.run.classifyPass pause.store = .error fault) :
      Passes dispatch (limit + 1) pause ⟨.failed (.store fault), pause.store, pause.history⟩
  | idle {limit pause next} (nothing : pause.run.classifyPass pause.store = .ok (next, [])) :
      Passes dispatch (limit + 1) pause ⟨.finished next.report, pause.store, pause.history⟩
  | last {limit pause after} (turn : Turn dispatch pause after)
      (bounded : after.run.report.level ≠ .unbounded) :
      Passes dispatch (limit + 1) pause ⟨.finished after.run.report, after.store, after.history⟩
  | more {limit pause after outcome} (turn : Turn dispatch pause after)
      (unbounded : after.run.report.level = .unbounded)
      (rest : Passes dispatch limit after outcome) :
      Passes dispatch (limit + 1) pause outcome

/-- What comes of a pause comes of passes, and so it can be reasoned about by induction over them.
-/
theorem Pause.passes_outcome (dispatch : Dispatcher (StateM ε) σ) (limit : Nat)
    (pause : Pause ε σ) : Passes dispatch limit pause (pause.outcome dispatch limit) := by
  induction limit generalizing pause with
  | zero => exact .limitReached
  | succ limit inductionHypothesis =>
      rcases pass : pause.run.classifyPass pause.store with fault | ⟨next, _ | ⟨request, later⟩⟩
      · simpa [outcome, runPasses, pass, Outcome.ofResult] using Passes.failed pass
      · simpa [outcome, runPasses, pass, Outcome.ofResult] using Passes.idle pass
      · rcases sent : perform (drain dispatch.recorded (request :: later) next pause.store)
          pause.history pause.world with ⟨⟨⟨after, storeAfter⟩, historyAfter⟩, worldAfter⟩
        have turn : Turn dispatch pause ⟨after, storeAfter, historyAfter, worldAfter⟩ :=
          ⟨next, request, later, pass, sent⟩
        by_cases unbounded : after.report.level = .unbounded
        · simpa [outcome, runPasses, pass, sent, unbounded] using
            Passes.more turn unbounded (inductionHypothesis _)
        · simpa [outcome, runPasses, pass, sent, unbounded, Outcome.ofResult] using
            Passes.last turn unbounded

/-- A turn is a sequence of steps. -/
theorem Turn.steps {dispatch : Dispatcher (StateM ε) σ} {before after : Pause ε σ}
    (turn : Turn dispatch before after) :
    ∃ events, after.history = before.history ++ exchangesOf events ∧
      Steps ⟨before.run, before.store, [], []⟩ events ⟨after.run, after.store, [], []⟩ := by
  obtain ⟨next, request, later, pass, result⟩ := turn
  obtain ⟨begun, silent, classified⟩ := steps_classifyPass pass
  obtain ⟨sendings, sent, drained⟩ :=
    steps_drain dispatch (request :: later) next before.store before.history before.world
  rw [result] at sent drained
  exact ⟨begun ++ sendings, by rw [exchangesOf_append, silent, List.nil_append]; exact sent,
    classified.append drained⟩

namespace Passes

variable {dispatch : Dispatcher (StateM ε) σ} {limit : Nat} {pause : Pause ε σ}
  {outcome : Outcome σ}

/-- Passes come to one outcome. -/
theorem outcome_eq (passes : Passes dispatch limit pause outcome) :
    outcome = pause.outcome dispatch limit := by
  induction passes with
  | limitReached => rfl
  | failed unlisted => simp [Pause.outcome, runPasses, unlisted, Outcome.ofResult]
  | idle nothing => simp [Pause.outcome, runPasses, nothing, Outcome.ofResult]
  | last turn bounded =>
      obtain ⟨_, _, _, pass, sent⟩ := turn
      simp [Pause.outcome, runPasses, pass, sent, bounded, Outcome.ofResult]
  | more turn unbounded _ inductionHypothesis =>
      obtain ⟨_, _, _, pass, sent⟩ := turn
      rw [inductionHypothesis]
      simp [Pause.outcome, runPasses, pass, sent, unbounded]

/-- Passes are a sequence of steps that leaves nothing to classify or to send. -/
theorem steps (passes : Passes dispatch limit pause outcome) :
    ∃ events run, outcome.history = pause.history ++ exchangesOf events ∧
      Steps ⟨pause.run, pause.store, [], []⟩ events ⟨run, outcome.store, [], []⟩ ∧
      ∀ report, outcome.ending = .finished report → run.report = report := by
  induction passes with
  | limitReached => exact ⟨[], _, by simp, .none, by simp⟩
  | failed _ => exact ⟨[], _, by simp, .none, by simp⟩
  | idle nothing =>
      obtain ⟨begun, silent, classified⟩ := steps_classifyPass nothing
      exact ⟨begun, _, by simp [silent], classified, by simp⟩
  | last turn _ =>
      obtain ⟨events, sent, steps⟩ := turn.steps
      exact ⟨events, _, sent, steps, by simp⟩
  | more turn _ _ inductionHypothesis =>
      obtain ⟨events, sent, steps⟩ := turn.steps
      obtain ⟨later, run, kept, further, sameReport⟩ := inductionHypothesis
      exact ⟨events ++ later, run, by simp [kept, sent], steps.append further, sameReport⟩

/-- Unbounded passes end with one over the last store that finds nothing to send. -/
theorem closingPass (passes : Passes dispatch limit pause outcome)
    (unbounded : pause.run.report.level = .unbounded) {report : Report}
    (finished : outcome.ending = .finished report) :
    ∃ events last next, outcome.history = pause.history ++ exchangesOf events ∧
      Steps ⟨pause.run, pause.store, [], []⟩ events ⟨last, outcome.store, [], []⟩ ∧
      last.classifyPass outcome.store = .ok (next, []) ∧ next.report = report := by
  induction passes with
  | limitReached => cases finished
  | failed _ => cases finished
  | idle nothing => exact ⟨[], _, _, by simp, .none, nothing, by simpa using finished⟩
  | last turn bounded =>
      obtain ⟨events, _, steps⟩ := turn.steps
      exact absurd (steps.level_eq.trans unbounded) bounded
  | more turn stillUnbounded _ inductionHypothesis =>
      obtain ⟨events, sent, steps⟩ := turn.steps
      obtain ⟨later, last, next, kept, further, nothing, reported⟩ :=
        inductionHypothesis stillUnbounded finished
      exact ⟨events ++ later, last, next, by simp [kept, sent], steps.append further, nothing,
        reported⟩

end Passes

/-! ## A crawl is a sequence of steps -/

/-- The steps that lead a crawl to its outcome. -/
structure Course (start : Stage σ) (outcome : Outcome σ) where
  events : List (Event σ)
  stage : Stage σ
  steps : Steps start events stage
  history_eq : exchangesOf events = outcome.history
  store_eq : stage.store = outcome.store
  report_eq : ∀ report, outcome.ending = .finished report → stage.run.report = report

/-- Where a crawl stands before its first pass: the target, if there is one, has had its turn. -/
def Pause.beforeFirst (dispatch : Dispatcher (StateM ε) σ) (world : ε) (level : Level)
    (target : Option SessionKey) (store : σ) : Pause ε σ :=
  match target with
  | none => ⟨{ report := { level } }, store, [], world⟩
  | some key =>
      let sent := perform (sendTarget dispatch.recorded key { report := { level } } store) [] world
      ⟨sent.1.1.1, sent.1.1.2, sent.1.2, sent.2⟩

/-- The target of a crawl is sent in the steps from the start, or not at all. -/
theorem Pause.steps_beforeFirst (dispatch : Dispatcher (StateM ε) σ) (world : ε) (level : Level)
    (target : Option SessionKey) (store : σ) :
    let pause := beforeFirst dispatch world level target store
    ∃ events, pause.history = exchangesOf events ∧
      Steps (Stage.start level target store) events ⟨pause.run, pause.store, [], []⟩ := by
  cases target with
  | none => exact ⟨[], rfl, .none⟩
  | some key =>
      cases stored : isStored store key.checksummedAddress with
      | true =>
          refine ⟨[], by simp [beforeFirst, sendTarget, stored], ?_⟩
          simp [beforeFirst, sendTarget, stored, Stage.start, Steps.none]
      | false =>
          obtain ⟨events, sent, steps⟩ := steps_drain dispatch [.forTarget key]
            { report := { level }, inFlight := [key] } store [] world
          refine ⟨events, by simpa [beforeFirst, sendTarget, stored] using sent, ?_⟩
          simpa [beforeFirst, sendTarget, stored, Stage.start] using steps

/-- No pass has been counted when the target has had its turn. -/
theorem Pause.passes_beforeFirst (dispatch : Dispatcher (StateM ε) σ) (world : ε) (level : Level)
    (target : Option SessionKey) (store : σ) :
    (beforeFirst dispatch world level target store).run.report.passes = 0 := by
  cases target with
  | none => rfl
  | some key =>
      rw [beforeFirst, sendTarget]
      split
      · rfl
      · exact passes_drain ..

/-- A crawl of an invalid target does nothing, whatever its limit. -/
theorem recordedCrawl_of_invalid (dispatch : Dispatcher (StateM ε) σ) (world : ε) (limit : Nat)
    (level : Level) (store : σ) {text : String} {invalid : InvalidTarget}
    (rejected : SessionKey.parse text = .error invalid) :
    recordedCrawl dispatch world limit level (some text) store =
      ⟨.failed (.store (.invalidTarget invalid)), store, []⟩ := by
  simp [recordedCrawl, crawl, rejected, Outcome.ofResult]

/-- Any other crawl comes to what its passes come to, once the target has had its turn. -/
theorem recordedCrawl_of_valid (dispatch : Dispatcher (StateM ε) σ) (world : ε) (limit : Nat)
    (level : Level) (store : σ) {target : Option String}
    (valid : ∀ text ∈ target, ∃ key, SessionKey.parse text = .ok key) :
    recordedCrawl dispatch world limit level target store =
      (Pause.beforeFirst dispatch world level (targetKey? target) store).outcome dispatch
        limit := by
  cases target with
  | none => rfl
  | some text =>
      obtain ⟨key, parsed⟩ := valid text rfl
      simp [recordedCrawl, crawl, parsed, targetKey?, Except.toOption, Pause.beforeFirst,
        Pause.outcome]

/-- A target is either invalid, or there is none or a key in it. -/
theorem invalid_or_valid (target : Option String) :
    (∃ text invalid, target = some text ∧ SessionKey.parse text = .error invalid) ∨
      ∀ text ∈ target, ∃ key, SessionKey.parse text = .ok key := by
  cases target with
  | none => exact .inr nofun
  | some text =>
      cases parsed : SessionKey.parse text with
      | error invalid => exact .inl ⟨text, invalid, rfl, parsed⟩
      | ok key =>
          refine .inr ?_
          rintro _ ⟨⟩
          exact ⟨key, parsed⟩

/-- A crawl of an invalid target does nothing, whatever its limit. Any other comes to what its
passes come to after the steps that may send the target, which do not depend on the limit. -/
theorem recordedCrawl_cases (dispatch : Dispatcher (StateM ε) σ) (world : ε) (level : Level)
    (target : Option String) (store : σ) :
    (targetKey? target = none ∧ ∃ invalid, ∀ limit,
      recordedCrawl dispatch world limit level target store =
        ⟨.failed (.store (.invalidTarget invalid)), store, []⟩) ∨
    ∃ events pause, pause.history = exchangesOf events ∧
      Steps (Stage.start level (targetKey? target) store) events
        ⟨pause.run, pause.store, [], []⟩ ∧
      pause.run.report.passes = 0 ∧
      ∀ limit, Passes dispatch limit pause
        (recordedCrawl dispatch world limit level target store) := by
  obtain ⟨text, invalid, rfl, rejected⟩ | valid := invalid_or_valid target
  · exact .inl ⟨by simp [targetKey?, rejected, Except.toOption], invalid, fun limit =>
      recordedCrawl_of_invalid dispatch world limit level store rejected⟩
  · obtain ⟨events, sent, steps⟩ :=
      Pause.steps_beforeFirst dispatch world level (targetKey? target) store
    refine .inr ⟨events, _, sent, steps, Pause.passes_beforeFirst .., fun limit => ?_⟩
    rw [recordedCrawl_of_valid dispatch world limit level store valid]
    exact Pause.passes_outcome dispatch limit _

/-- Every crawl is a sequence of steps from its start, whatever the service does. -/
theorem exists_course (dispatch : Dispatcher (StateM ε) σ) (world : ε) (limit : Nat)
    (level : Level) (target : Option String) (store : σ) :
    Nonempty (Course (Stage.start level (targetKey? target) store)
      (recordedCrawl dispatch world limit level target store)) := by
  obtain ⟨noTarget, invalid, failed⟩ | ⟨sendings, pause, sent, started, _, passes⟩ :=
    recordedCrawl_cases dispatch world level target store
  · rw [failed, noTarget]
    exact ⟨⟨[], _, .none, rfl, rfl, nofun⟩⟩
  · obtain ⟨events, run, kept, steps, sameReport⟩ := (passes limit).steps
    exact ⟨⟨sendings ++ events, _, started.append steps,
      by rw [exchangesOf_append, kept, sent], rfl, sameReport⟩⟩

/-- An unbounded crawl that returns a report ends with a pass over the last store that finds nothing
to send. -/
theorem exists_closingPass (dispatch : Dispatcher (StateM ε) σ) (world : ε) (limit : Nat)
    (target : Option String) (store : σ) {report : Report} :
    let outcome := recordedCrawl dispatch world limit .unbounded target store
    outcome.ending = .finished report →
      ∃ events last next, exchangesOf events = outcome.history ∧
        Steps (Stage.start .unbounded (targetKey? target) store) events
          ⟨last, outcome.store, [], []⟩ ∧
        last.classifyPass outcome.store = .ok (next, []) ∧ next.report = report := by
  intro outcome finished
  obtain ⟨_, invalid, failed⟩ | ⟨sendings, pause, sent, started, _, passes⟩ :=
    recordedCrawl_cases dispatch world .unbounded target store
  · rw [show outcome = _ from failed limit] at finished
    cases finished
  · have unbounded : pause.run.report.level = .unbounded := by
      rw [show pause.run.report.level = _ from started.level_eq]
      exact Stage.start_level ..
    obtain ⟨events, last, next, kept, steps, nothing, reported⟩ :=
      (passes limit).closingPass unbounded finished
    exact ⟨sendings ++ events, last, next, by rw [exchangesOf_append, ← sent, ← kept],
      started.append steps, nothing, reported⟩

/-! ## What holds of every exchange

A service that keeps a property of stores, and gives only answers of some kind while the property
holds, gives only such answers in a whole crawl. -/

section

variable {answered : Exchange σ → Prop} {kept : σ → Prop} (dispatch : Dispatcher (StateM ε) σ)
  (answers : ∀ request store world, kept store →
    answered ⟨request, store, ((dispatch request store).run world).1.1,
      ((dispatch request store).run world).1.2⟩ ∧
    kept ((dispatch request store).run world).1.2)

include answers

/-- All exchanges of a queue are answered as the service answers, and the last store is one that it
keeps. -/
theorem forall_history_drain (queue : List Request) (run : Run) (store : σ)
    (history : List (Exchange σ)) (world : ε) (initial : kept store)
    (earlier : ∀ exchange ∈ history, answered exchange) :
    let result := perform (drain dispatch.recorded queue run store) history world
    (∀ exchange ∈ result.1.2, answered exchange) ∧ kept result.1.1.2 := by
  induction queue generalizing run store history world with
  | nil => exact ⟨earlier, initial⟩
  | cons request later inductionHypothesis =>
      cases stored : isStored store request.key.checksummedAddress with
      | true =>
          simpa [drain, handOver, stored] using
            inductionHypothesis (run.afterAppeared request) store history world initial earlier
      | false =>
          obtain ⟨holds, next⟩ := answers request store world initial
          rcases served : (dispatch request store).run world with ⟨⟨answer, after⟩, worldAfter⟩
          simp only [served] at holds next
          have soFar : ∀ exchange ∈ history ++ [⟨request, store, answer, after⟩],
              answered exchange := by
            simpa [or_imp, forall_and] using ⟨earlier, holds⟩
          simpa [drain, handOver, stored, served] using
            inductionHypothesis (run.afterAnswer request answer) after _ worldAfter next soFar

/-- The same holds of a turn, which drains one queue. -/
theorem forall_history_turn {before after : Pause ε σ} (turn : Turn dispatch before after)
    (initial : kept before.store) (earlier : ∀ exchange ∈ before.history, answered exchange) :
    (∀ exchange ∈ after.history, answered exchange) ∧ kept after.store := by
  obtain ⟨next, request, later, _, sent⟩ := turn
  have served := forall_history_drain dispatch answers (request :: later) next before.store
    before.history before.world initial earlier
  rwa [sent] at served

/-- The same holds of all passes together. -/
theorem forall_history_passes {limit : Nat} {pause : Pause ε σ} {outcome : Outcome σ}
    (passes : Passes dispatch limit pause outcome) (initial : kept pause.store)
    (earlier : ∀ exchange ∈ pause.history, answered exchange) :
    ∀ exchange ∈ outcome.history, answered exchange := by
  induction passes with
  | limitReached => exact earlier
  | failed _ => exact earlier
  | idle _ => exact earlier
  | last turn _ => exact (forall_history_turn dispatch answers turn initial earlier).1
  | more turn _ _ inductionHypothesis =>
      obtain ⟨sent, storeKept⟩ := forall_history_turn dispatch answers turn initial earlier
      exact inductionHypothesis storeKept sent

/-- The same holds of a whole crawl, with the turn of the target before the passes. -/
theorem forall_history_recordedCrawl (world : ε) (limit : Nat) (level : Level)
    (target : Option String) (store : σ) (initial : kept store) :
    ∀ exchange ∈ (recordedCrawl dispatch world limit level target store).history,
      answered exchange := by
  have ofPasses := fun pause : Pause ε σ =>
    forall_history_passes dispatch answers (pause.passes_outcome dispatch limit)
  cases target with
  | none => exact ofPasses ⟨_, store, [], world⟩ initial nofun
  | some text =>
      cases parsed : SessionKey.parse text with
      | error invalid => simp [recordedCrawl, crawl, parsed, Outcome.ofResult]
      | ok key =>
          simp only [recordedCrawl, crawl, parsed, sendTarget, perform_bind, Outcome.ofResult]
          split
          · exact ofPasses ⟨_, store, [], world⟩ initial nofun
          · obtain ⟨sent, storeKept⟩ := forall_history_drain dispatch answers [.forTarget key]
              { report := { level }, inFlight := [key] } store [] world initial nofun
            exact ofPasses ⟨_, _, _, _⟩ storeKept sent

end

/-! ## Writing down changes nothing -/

/-- Whether an action gives what a recorded action gives, its exchanges aside. -/
def Agrees {α : Type} (plain : StateM ε α) (recorded : StateT (List (Exchange σ)) (StateM ε) α) :
    Prop :=
  ∀ history world, plain.run world =
    ((perform recorded history world).1.1, (perform recorded history world).2)

omit [SessionStore σ] in
/-- Giving a value has no exchanges. -/
theorem Agrees.pure {α : Type} (value : α) :
    Agrees (pure value : StateM ε α)
      (pure value : StateT (List (Exchange σ)) (StateM ε) α) :=
  fun _ _ => rfl

omit [SessionStore σ] in
/-- Actions that agree one after the other agree as a whole. -/
theorem Agrees.bind {α β : Type} {plain : StateM ε α} {next : α → StateM ε β}
    {recorded : StateT (List (Exchange σ)) (StateM ε) α}
    {nextRecorded : α → StateT (List (Exchange σ)) (StateM ε) β} (first : Agrees plain recorded)
    (second : ∀ value, Agrees (next value) (nextRecorded value)) :
    Agrees (plain >>= next) (recorded >>= nextRecorded) := by
  intro history world
  rw [perform_bind, ← second _ (perform recorded history world).1.2]
  exact congrArg (fun result => (next result.1).run result.2) (first history world)

omit [SessionStore σ] in
/-- Writing an exchange down changes neither the answer nor the store. -/
theorem Agrees.recorded (dispatch : Dispatcher (StateM ε) σ) (request : Request) (store : σ) :
    Agrees (dispatch request store) (dispatch.recorded request store) :=
  fun _ _ => rfl

/-- Draining a queue gives the same whether exchanges are written down or not. -/
theorem drain_agrees (dispatch : Dispatcher (StateM ε) σ) (queue : List Request) (run : Run)
    (store : σ) :
    Agrees (drain dispatch queue run store) (drain dispatch.recorded queue run store) := by
  induction queue generalizing run store with
  | nil => exact .pure _
  | cons request later inductionHypothesis =>
      refine .bind ?_ fun handed => inductionHypothesis handed.1 handed.2
      rw [handOver, handOver]
      split
      · exact .pure _
      · exact .bind (.recorded dispatch request store) fun _ => .pure _

/-- Passes give the same whether exchanges are written down or not. -/
theorem runPasses_agrees (dispatch : Dispatcher (StateM ε) σ) (limit : Nat) (run : Run)
    (store : σ) :
    Agrees (runPasses dispatch limit run store) (runPasses dispatch.recorded limit run store) := by
  induction limit generalizing run store with
  | zero => exact .pure _
  | succ limit inductionHypothesis =>
      rw [runPasses, runPasses]
      split
      · exact .pure _
      · exact .pure _
      · refine .bind (drain_agrees dispatch _ _ store) fun drained => ?_
        dsimp only
        split
        · exact inductionHypothesis drained.1 drained.2
        · exact .pure _

/-- A crawl gives the same whether exchanges are written down or not. -/
theorem crawl_agrees (dispatch : Dispatcher (StateM ε) σ) (limit : Nat) (level : Level)
    (target : Option String) (store : σ) :
    Agrees (crawl dispatch limit level target store)
      (crawl dispatch.recorded limit level target store) := by
  unfold crawl
  cases target with
  | none => exact runPasses_agrees dispatch limit _ store
  | some text =>
      dsimp only
      split
      · exact .pure _
      · refine .bind ?_ fun started => runPasses_agrees dispatch limit started.1 started.2
        rw [sendTarget, sendTarget]
        split
        · exact .pure _
        · exact drain_agrees dispatch _ _ store

/-- A crawl ends as the recorded crawl ends, with the same store. -/
theorem crawl_eq_recordedCrawl (dispatch : Dispatcher (StateM ε) σ) (world : ε) (limit : Nat)
    (level : Level) (target : Option String) (store : σ) :
    let outcome := recordedCrawl dispatch world limit level target store
    ((crawl dispatch limit level target store).run world).1 = (outcome.ending, outcome.store) :=
  congrArg Prod.fst (crawl_agrees dispatch limit level target store [] world)

end

end ContractAtlas.Crawl
