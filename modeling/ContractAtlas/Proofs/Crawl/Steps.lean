import Mathlib
import ContractAtlas.Crawl.Scheduler

/-!
# Steps of a crawl

A crawl is a sequence of four kinds of steps: a pass begins with the sessions that are known, one
reference is classified, a queued request turns out to be answered by the store, or it is sent and
answered. `Step` leaves the answer and the store after it open, so it covers whatever a service
does; the store changes in no other step. The laws of a crawl are invariants of these steps.
-/

namespace ContractAtlas.Crawl

/-- A request that was sent, with the store that it met, its answer, and the store afterwards. -/
structure Exchange (σ : Type) where
  request : Request
  before : σ
  answer : Except AtlasError (Option Session)
  after : σ

/-- The session that comes with an answer. -/
def sessionOf? : Except AtlasError (Option Session) → Option Session
  | .ok session => session
  | .error _ => none

/-- The session that came with the answer of an exchange. -/
@[simp] def Exchange.session? {σ : Type} (exchange : Exchange σ) : Option Session :=
  sessionOf? exchange.answer

/-- A reference as a pass meets it: the key of the session, a variable, and the address that the
session gives for it. -/
structure Dependency where
  source : SessionKey
  variableName : String
  address : String

/-- The reference of a dependency, as requests and entries name it. -/
def Dependency.reference (dependency : Dependency) : Reference :=
  ⟨dependency.source.display, dependency.variableName⟩

/-- The dependencies of a session, none if it has no key. -/
def dependenciesOf (session : Session) : List Dependency :=
  match session.key with
  | .error _ => []
  | .ok source => session.externalAddresses.map fun listed => ⟨source, listed.1, listed.2⟩

/-- Where a crawl stands: what it has done, the store, and what the current pass has yet to classify
and to send. -/
structure Stage (σ : Type) where
  run : Run
  store : σ
  waiting : List Dependency := []
  queue : List Request := []

/-- What happens in one step. -/
inductive Event (σ : Type) where
  | begun (store : σ)
  | classified (store : σ) (dependency : Dependency) (state : EntryState)
      (request : Option Request)
  | appeared (request : Request) (store : σ)
  | sent (exchange : Exchange σ)

namespace Event

variable {σ : Type}

/-- The exchange that an event is, if it is one. -/
@[simp] def exchange? : Event σ → Option (Exchange σ)
  | .sent exchange => some exchange
  | _ => none

/-- The request that a classification puts into the queue. -/
@[simp] def request? : Event σ → Option Request
  | .classified _ _ _ request => request
  | _ => none

end Event

/-- The exchanges among some events, in order. -/
def exchangesOf {σ : Type} (events : List (Event σ)) : List (Exchange σ) :=
  events.filterMap Event.exchange?

/-- The keys of the requests that were sent. -/
def sentKeys {σ : Type} (events : List (Event σ)) : List SessionKey :=
  (exchangesOf events).map fun exchange => exchange.request.key

/-- The sessions that the service returned. -/
def returnedSessions {σ : Type} (history : List (Exchange σ)) : List Session :=
  history.filterMap Exchange.session?

/-- The store that the latest pass began with. -/
def currentPass? {σ : Type} (events : List (Event σ)) : Option σ :=
  events.reverse.findSome? fun
    | .begun store => some store
    | _ => none

namespace Run

/-- The run after a pass has begun. -/
def afterBeginning (run : Run) : Run :=
  { run with report := { run.report with passes := run.report.passes + 1 } }

/-- The run after a dependency has been classified. -/
def afterClassified (run : Run) (dependency : Dependency) (state : EntryState)
    (request : Option Request) : Run :=
  { run with
    report := { run.report with
      entries := record dependency.reference dependency.address state run.report.entries }
    inFlight := run.inFlight ++ (request.map Request.key).toList }

section

variable (run : Run) (dependency : Dependency) (state : EntryState) (queued : Option Request)
  (request : Request) (answer : Except AtlasError (Option Session))

@[simp] theorem afterBeginning_level : run.afterBeginning.report.level = run.report.level := rfl

@[simp] theorem afterBeginning_inFlight : run.afterBeginning.inFlight = run.inFlight := rfl

@[simp] theorem afterBeginning_dispatched :
    run.afterBeginning.report.dispatched = run.report.dispatched := rfl

@[simp] theorem afterBeginning_returned : run.afterBeginning.returned = run.returned := rfl

@[simp] theorem afterClassified_level :
    (run.afterClassified dependency state queued).report.level = run.report.level := rfl

@[simp] theorem afterClassified_inFlight :
    (run.afterClassified dependency state queued).inFlight =
      run.inFlight ++ (queued.map Request.key).toList := rfl

@[simp] theorem afterClassified_dispatched :
    (run.afterClassified dependency state queued).report.dispatched = run.report.dispatched := rfl

@[simp] theorem afterClassified_returned :
    (run.afterClassified dependency state queued).returned = run.returned := rfl

@[simp] theorem afterAppeared_level :
    (run.afterAppeared request).report.level = run.report.level := by
  unfold afterAppeared
  split <;> rfl

@[simp] theorem afterAppeared_inFlight : (run.afterAppeared request).inFlight = run.inFlight := by
  unfold afterAppeared
  split <;> rfl

@[simp] theorem afterAppeared_dispatched :
    (run.afterAppeared request).report.dispatched = run.report.dispatched := by
  unfold afterAppeared
  split <;> rfl

@[simp] theorem afterAppeared_passes :
    (run.afterAppeared request).report.passes = run.report.passes := by
  unfold afterAppeared
  split <;> rfl

@[simp] theorem afterAppeared_returned : (run.afterAppeared request).returned = run.returned := by
  unfold afterAppeared
  split <;> rfl

@[simp] theorem afterAnswer_level :
    (run.afterAnswer request answer).report.level = run.report.level := by
  unfold afterAnswer
  split <;> rfl

@[simp] theorem afterAnswer_inFlight :
    (run.afterAnswer request answer).inFlight = run.inFlight := by
  unfold afterAnswer
  split <;> rfl

@[simp] theorem afterAnswer_dispatched :
    (run.afterAnswer request answer).report.dispatched =
      run.report.dispatched ++ [request.payload] := by
  unfold afterAnswer
  split <;> rfl

@[simp] theorem afterAnswer_passes :
    (run.afterAnswer request answer).report.passes = run.report.passes := by
  unfold afterAnswer
  split <;> rfl

@[simp] theorem afterAnswer_returned :
    (run.afterAnswer request answer).returned = run.returned ++ (sessionOf? answer).toList := by
  unfold afterAnswer
  split <;> simp [sessionOf?]

end

end Run

section

variable {σ : Type} [SessionStore σ]

/-- One step of a crawl. -/
inductive Step : Stage σ → Event σ → Stage σ → Prop where
  | beginPass {run store sessions} (known : knownSessions store run.returned = .ok sessions) :
      Step ⟨run, store, [], []⟩ (.begun store)
        ⟨run.afterBeginning, store, sessions.flatMap dependenciesOf, []⟩
  | classify {run store dependency waiting queue state request}
      (outcome : classify store run.report.level run.inFlight dependency.source
        dependency.variableName dependency.address = (state, request)) :
      Step ⟨run, store, dependency :: waiting, queue⟩ (.classified store dependency state request)
        ⟨run.afterClassified dependency state request, store, waiting, queue ++ request.toList⟩
  | appear {run store request queue}
      (stored : isStored store request.key.checksummedAddress = true) :
      Step ⟨run, store, [], request :: queue⟩ (.appeared request store)
        ⟨run.afterAppeared request, store, [], queue⟩
  | send {run store request queue answer after}
      (absent : isStored store request.key.checksummedAddress = false) :
      Step ⟨run, store, [], request :: queue⟩ (.sent ⟨request, store, answer, after⟩)
        ⟨run.afterAnswer request answer, after, [], queue⟩

/-- Any number of steps, with what happened in them. -/
inductive Steps : Stage σ → List (Event σ) → Stage σ → Prop where
  | none {stage} : Steps stage [] stage
  | more {stage event middle events finish} (first : Step stage event middle)
      (rest : Steps middle events finish) : Steps stage (event :: events) finish

namespace Steps

variable {stage middle finish : Stage σ} {earlier later : List (Event σ)}

/-- Steps after steps are steps. -/
theorem append (before : Steps stage earlier middle) (after : Steps middle later finish) :
    Steps stage (earlier ++ later) finish := by
  induction before with
  | none => exact after
  | more first _ inductionHypothesis => exact .more first (inductionHypothesis after)

/-- What holds at a stage, given what happened before, and survives every step holds after any
number of steps. -/
theorem invariant (holds : List (Event σ) → Stage σ → Prop)
    (preserved : ∀ {events stage event next}, holds events stage → Step stage event next →
      holds (events ++ [event]) next)
    (steps : Steps stage later finish) (initial : holds earlier stage) :
    holds (earlier ++ later) finish := by
  induction steps generalizing earlier with
  | none => simpa using initial
  | more first _ inductionHypothesis =>
      have next := inductionHypothesis (preserved initial first)
      rwa [List.append_assoc, List.singleton_append] at next

/-- Every event of a sequence of steps is a step between two stages of it. -/
theorem split {event : Event σ} (steps : Steps stage (earlier ++ event :: later) finish) :
    ∃ before after, Steps stage earlier before ∧ Step before event after ∧
      Steps after later finish := by
  induction earlier generalizing stage with
  | nil =>
      cases steps with
      | more first rest => exact ⟨_, _, .none, first, rest⟩
  | cons _ _ inductionHypothesis =>
      cases steps with
      | more first rest =>
          obtain ⟨before, after, prior, step, following⟩ := inductionHypothesis rest
          exact ⟨before, after, .more first prior, step, following⟩

end Steps

end

/-! ## Events of longer sequences -/

section

variable {σ : Type}

@[simp] theorem exchangesOf_nil : exchangesOf ([] : List (Event σ)) = [] := rfl

@[simp] theorem exchangesOf_append (first second : List (Event σ)) :
    exchangesOf (first ++ second) = exchangesOf first ++ exchangesOf second := by
  simp [exchangesOf]

@[simp] theorem exchangesOf_cons (event : Event σ) (events : List (Event σ)) :
    exchangesOf (event :: events) = event.exchange?.toList ++ exchangesOf events := by
  cases event <;> rfl

@[simp] theorem sentKeys_append (first second : List (Event σ)) :
    sentKeys (first ++ second) = sentKeys first ++ sentKeys second := by
  simp [sentKeys]

@[simp] theorem sentKeys_nil : sentKeys ([] : List (Event σ)) = [] := rfl

@[simp] theorem sentKeys_singleton (event : Event σ) :
    sentKeys [event] = (event.exchange?.map fun exchange => exchange.request.key).toList := by
  cases event <;> rfl

@[simp] theorem returnedSessions_nil : returnedSessions ([] : List (Exchange σ)) = [] := rfl

@[simp] theorem returnedSessions_singleton (exchange : Exchange σ) :
    returnedSessions [exchange] = (sessionOf? exchange.answer).toList := by
  cases found : sessionOf? exchange.answer <;> simp [returnedSessions, found]

@[simp] theorem returnedSessions_append (first second : List (Exchange σ)) :
    returnedSessions (first ++ second) = returnedSessions first ++ returnedSessions second := by
  simp [returnedSessions]

/-- The exchanges of some events are those that were sent. -/
theorem mem_exchangesOf {events : List (Event σ)} {exchange : Exchange σ} :
    exchange ∈ exchangesOf events ↔ .sent exchange ∈ events := by
  simp only [exchangesOf, List.mem_filterMap]
  constructor
  · rintro ⟨event, member, found⟩
    cases event <;> simp only [Event.exchange?, reduceCtorEq, Option.some.injEq] at found
    exact found ▸ member
  · intro member
    exact ⟨.sent exchange, member, rfl⟩

@[simp] theorem currentPass?_begun (events : List (Event σ)) (store : σ) :
    currentPass? (events ++ [.begun store]) = some store := by
  simp [currentPass?]

/-- Only the beginning of a pass changes which pass is the latest. -/
theorem currentPass?_append {events : List (Event σ)} {event : Event σ}
    (within : ∀ store, event ≠ .begun store) :
    currentPass? (events ++ [event]) = currentPass? events := by
  cases event with
  | begun store => exact absurd rfl (within store)
  | classified | appeared | sent => simp [currentPass?]

end

end ContractAtlas.Crawl
