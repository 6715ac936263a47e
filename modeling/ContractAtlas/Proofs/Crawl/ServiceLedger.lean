import ContractAtlas.Crawl.Service
import ContractAtlas.Proofs.Crawl.Entries
import ContractAtlas.Proofs.Crawl.Ledger

/-!
# The ledger and the report agree

A failed request leaves two traces: a record in the ledger, which is written where the request
fails, and a failure in the report, which is written where the error arrives. Between them stands an
error value that carries the target and the reason. `Service.Served` says what one exchange has to
do with the ledger, and the rest follows the steps of the crawl: an exchange adds the record of its
failure or nothing, and nothing else happens to the ledger in a crawl.

The store is any store that has its files in a `Disk`, and what goes on besides, while the service
works, is any action on the store, as long as the ledger can still be written afterwards.
-/

namespace ContractAtlas.Crawl

open Web

/-- Where a store has its files: in a part that is a data directory. -/
structure Disk (σ : Type) where
  get : σ → DirectoryStore
  set : σ → DirectoryStore → σ
  get_set : ∀ store onDisk, get (set store onDisk) = onDisk

/-- A data directory as its own part. -/
def Disk.itself : Disk DirectoryStore where
  get := id
  set _ onDisk := onDisk
  get_set _ _ := rfl

namespace Service

/-- The dispatcher that asks the service, over any store that has its files on a disk. The store is
refreshed after every request. -/
def dispatcherOver {m : Type → Type} [Monad m] {σ : Type} (disk : Disk σ) (transport : Transport m)
    (now : m Timestamp) (refresh : σ → m σ) (service : Service) : Dispatcher m σ :=
  fun request store => do
    let answer <- service.send transport request
    let store <- refresh store
    let (answer, onDisk) := service.settle request (<- now) (disk.get store) answer
    return (answer, disk.set store onDisk)

/-- Over a data directory it is the dispatcher that refreshes the files. -/
theorem dispatcherOver_itself {m : Type → Type} [Monad m] [LawfulMonad m] (transport : Transport m)
    (now : m Timestamp) (refresh : FileTree → m FileTree) (service : Service) :
    service.dispatcherOver .itself transport now
        (fun store => do return { store with files := <- refresh store.files }) =
      service.dispatcher transport now refresh := by
  funext request store
  simp [dispatcherOver, dispatcher, Disk.itself]

variable {ε σ : Type} (service : Service) (disk : Disk σ) (transport : Transport (StateM ε))
  (refresh : σ → StateM ε σ)

/-- What the ledger of a store holds, nothing if it is yet to be made; none if it cannot be
written. -/
def ledger? (store : σ) : Option ByteArray :=
  (disk.get store).files.appendable? service.ledger

/-- The text of an answer with a success status. -/
def successText? : Reply → Option String
  | .answered status body => if Status.isSuccess status then some (Text.textOfBytes body) else none
  | _ => none

/-- A reply gives a body exactly if it is a success. -/
theorem toOption_outcome (reply : Reply) : (outcome reply).toOption = successText? reply := by
  cases reply with
  | answered status body =>
      rw [outcome, successText?]
      split <;> rfl
  | unanswered | brokenOff | timedOut => rfl

/-- The body of the answer to a request, if there is an answer with a success status. -/
def successBody? (request : Request) (world : ε) : Option String :=
  match service.url request.route with
  | .error _ => none
  | .ok url =>
      successText? ((transport
        { url, contentType := contentType request.route
          body := body request.payload request.route, timeout := service.timeout }).run world).1

/-- A request counts as done exactly if it gets an answer with a success status. -/
theorem toOption_send (request : Request) (world : ε) :
    ((service.send transport request).run world).1.toOption =
      service.successBody? transport request world := by
  rw [send, successBody?]
  cases service.url request.route with
  | error reason => rfl
  | ok url => exact toOption_outcome _

/-- What is answered and recorded for a request that is sent with some body in return, and for one
that fails for some reason: a success counts, whether the body is a session or not, and leaves no
record. A failure is answered with its reason, and that is what its record says. -/
def Accounted (request : Request) (answer : Except AtlasError (Option Session))
    (records : List FailureRecord) : Except String String → Prop
  | .ok body => answer = .ok (Session.read? body) ∧ records = []
  | .error reason => ∃ moment, answer = .error (.dispatch request.payload reason) ∧
      records = [⟨moment, request.route, request.payload, reason⟩]

/-- What an exchange has to do with the ledger: it adds the records of its failure, if there is one,
to what the ledger holds after the refreshment. The request fails unless there is an answer with a
success status, and its reason is then the one that sending it gives. -/
def Served (exchange : Exchange σ) (records : List FailureRecord) : Prop :=
  ∃ (world : ε) (sent : Except String String) (content : ByteArray),
    let worldSent := ((service.send transport exchange.request).run world).2
    let refreshed := ((refresh exchange.before).run worldSent).1
    ((service.send transport exchange.request).run world).1 = sent ∧
      sent.toOption = service.successBody? transport exchange.request world ∧
      Accounted exchange.request exchange.answer records sent ∧
      service.ledger? disk refreshed = some content ∧
      service.ledger? disk exchange.after = some (content ++ (Ledger.textOf records).toUTF8)

/-- The service is asked, the store is refreshed, the clock is read, and the answer is settled. -/
theorem run_dispatcherOver (now : StateM ε Timestamp) (request : Request) (store : σ) (world : ε) :
    let sent := (service.send transport request).run world
    let refreshed := (refresh store).run sent.2
    let timed := now.run refreshed.2
    let settled := service.settle request timed.1 (disk.get refreshed.1) sent.1
    (service.dispatcherOver disk transport now refresh request store).run world =
      ((settled.1, disk.set refreshed.1 settled.2), timed.2) := by
  rw [dispatcherOver]
  generalize service.send transport request = send
  generalize service.settle request = settle
  rfl

variable {service disk transport refresh}

/-- A ledger that can be written gets the line of the failure at its end. -/
theorem appendable?_recordFailure {files : FileTree} {content : ByteArray}
    (writable : files.appendable? service.ledger = some content) (request : Request)
    (reason : String) (moment : Timestamp) :
    (service.recordFailure request reason moment files).appendable? service.ledger =
      some (content ++
        (Ledger.textOf [⟨moment, request.route, request.payload, reason⟩]).toUTF8) := by
  obtain ⟨after, appended, written⟩ := FileTree.appendText_of_appendable writable
    (FailureRecord.line ⟨moment, request.route, request.payload, reason⟩)
  rw [recordFailure, Ledger.append, appended]
  simpa [Ledger.textOf] using written

/-- What is answered and what is recorded. -/
theorem exists_records_of_settle {onDisk after : DirectoryStore} {content : ByteArray}
    {request : Request} {moment : Timestamp} {answer : Except String String}
    {reply : Except AtlasError (Option Session)}
    (settled : service.settle request moment onDisk answer = (reply, after))
    (writable : onDisk.files.appendable? service.ledger = some content) :
    ∃ records, after.files.appendable? service.ledger =
        some (content ++ (Ledger.textOf records).toUTF8) ∧
      Accounted request reply records answer := by
  cases answer with
  | ok body =>
      cases settled
      exact ⟨[], by simpa [Ledger.textOf] using writable, rfl, rfl⟩
  | error reason =>
      cases settled
      exact ⟨_, appendable?_recordFailure writable request reason moment, moment, rfl, rfl⟩

/-- Every request is served so if the ledger can be written after the refreshment, and it still can
be written afterwards. -/
theorem served_dispatcherOver {now : StateM ε Timestamp} {request : Request} {store after : σ}
    {world later : ε} {reply : Except AtlasError (Option Session)}
    (writable : ∀ world, service.ledger? disk ((refresh store).run world).1 ≠ none)
    (dispatched : (service.dispatcherOver disk transport now refresh request store).run world =
      ((reply, after), later)) :
    (∃ records, service.Served disk transport refresh ⟨request, store, reply, after⟩ records) ∧
      service.ledger? disk after ≠ none := by
  rw [run_dispatcherOver] at dispatched
  have replied := service.toOption_send transport request world
  rcases sent : (service.send transport request).run world with ⟨answer, worldSent⟩
  obtain ⟨content, found⟩ := Option.ne_none_iff_exists'.mp (writable worldSent)
  rw [sent] at dispatched replied
  rcases fresh : (refresh store).run worldSent with ⟨refreshed, worldFresh⟩
  rw [fresh] at found
  simp only [fresh] at dispatched
  rcases settled : service.settle request (now.run worldFresh).1 (disk.get refreshed) answer
    with ⟨given, onDisk⟩
  rw [settled] at dispatched
  cases dispatched
  obtain ⟨records, added, accounted⟩ := exists_records_of_settle settled found
  have ledger_eq : service.ledger? disk (disk.set refreshed onDisk) =
      some (content ++ (Ledger.textOf records).toUTF8) := by
    rw [ledger?, disk.get_set, added]
  have sent_eq : ((service.send transport request).run world).1 = answer := by rw [sent]
  refine ⟨⟨records, world, answer, content, sent_eq, replied, accounted, ?_, ledger_eq⟩, ?_⟩
  · rw [sent, fresh]
    exact found
  · rw [ledger_eq]
    exact Option.some_ne_none _

end Service

/-! ## A whole crawl -/

/-- Whether a record of the ledger and a failure of a report tell of the same failed request. The
error of the failure is the whole message, the error of the record the reason in it. -/
structure Failure.RecordedBy (failure : Failure) (record : FailureRecord) : Prop where
  target_eq : failure.target = record.payload
  route_eq : failure.route = record.route
  error_eq : failure.error = (AtlasError.dispatch record.payload record.error).message

variable {ε σ : Type} {service : Service} {disk : Disk σ} {transport : Transport (StateM ε)}
  {refresh : σ → StateM ε σ}

/-- An exchange is reported as failed exactly if it is recorded, and in the same terms. -/
theorem Service.Served.recordedBy {exchange : Exchange σ} {records : List FailureRecord}
    (served : service.Served disk transport refresh exchange records) :
    List.Forall₂ Failure.RecordedBy exchange.failure?.toList records := by
  obtain ⟨world, sent, _, _, _, accounted, _⟩ := served
  cases sent with
  | ok body =>
      obtain ⟨answered, rfl⟩ := accounted
      simp [Exchange.failure?, answered]
  | error reason =>
      obtain ⟨moment, answered, rfl⟩ := accounted
      simp only [Exchange.failure?, answered, Option.toList_some]
      exact .cons ⟨rfl, rfl, rfl⟩ .nil

/-- The failures of a history are recorded in order. -/
theorem recordedBy_of_served {history : List (Exchange σ)} {added : List (List FailureRecord)}
    (served : List.Forall₂ (service.Served disk transport refresh) history added) :
    List.Forall₂ Failure.RecordedBy (history.filterMap Exchange.failure?) added.flatten := by
  induction served with
  | nil => exact .nil
  | @cons exchange records history added first _ inductionHypothesis =>
      have recorded := List.rel_append first.recordedBy inductionHypothesis
      cases failed : exchange.failure? <;> simpa [failed] using recorded

/-- If every item has a partner, there is a list of partners. -/
theorem exists_forall₂ {α β : Type} {related : α → β → Prop} {items : List α}
    (partner : ∀ item ∈ items, ∃ value, related item value) :
    ∃ values, List.Forall₂ related items values := by
  induction items with
  | nil => exact ⟨[], .nil⟩
  | cons item later inductionHypothesis =>
      obtain ⟨value, first⟩ := partner item List.mem_cons_self
      obtain ⟨values, rest⟩ := inductionHypothesis
        fun other member => partner other (List.mem_cons_of_mem item member)
      exact ⟨value :: values, .cons first rest⟩

variable [SessionStore σ]

/-- If the refreshment leaves the ledger alone, all that happens to it in some steps is that the
records of their exchanges are added: no other step touches the store. -/
theorem Steps.ledger?_eq {stage finish : Stage σ} {events : List (Event σ)}
    {added : List (List FailureRecord)} (steps : Steps stage events finish)
    (served : List.Forall₂ (service.Served disk transport refresh) (exchangesOf events) added)
    (alone : ∀ store world, service.ledger? disk ((refresh store).run world).1 =
      service.ledger? disk store)
    {content : ByteArray} (holds : service.ledger? disk stage.store = some content) :
    service.ledger? disk finish.store =
      some (content ++ (Ledger.textOf added.flatten).toUTF8) := by
  induction steps generalizing added content with
  | none =>
      cases served
      simpa [Ledger.textOf] using holds
  | @more stage event middle events finish first _ inductionHypothesis =>
      cases first with
      | beginPass _ | classify _ | appear _ => exact inductionHypothesis served holds
      | @send run store request queue answer after _ =>
          cases served with
          | @cons _ records _ added exchanged rest =>
              obtain ⟨world, _, before, _, _, _, refreshed, written⟩ := exchanged
              rw [alone, holds] at refreshed
              cases refreshed
              rw [inductionHypothesis rest written, List.flatten_cons, Ledger.textOf_append,
                ByteArray.append_assoc]
              simp

/-- Whatever the service answers, and whatever becomes of the store while it works as long as the
ledger can be written: in a crawl that asks the service, every exchange adds the record of its
failure to the ledger, and a request with a successful answer adds nothing. The records of all
exchanges are the failures of the report, one by one and in order. If nobody else writes to the
ledger, it holds in the end what it held before and the lines of these records. -/
theorem ledger_agrees_with_report (service : Service) (disk : Disk σ)
    (transport : Transport (StateM ε)) (now : StateM ε Timestamp) (refresh : σ → StateM ε σ)
    (world : ε) (limit : Nat) (level : Level) (target : Option String) (store : σ)
    (writable : service.ledger? disk store ≠ none)
    (staysWritable : ∀ store world, service.ledger? disk store ≠ none →
      service.ledger? disk ((refresh store).run world).1 ≠ none) :
    let outcome := recordedCrawl (service.dispatcherOver disk transport now refresh) world limit
      level target store
    ∃ added : List (List FailureRecord),
      List.Forall₂ (service.Served disk transport refresh) outcome.history added ∧
      (∀ report, outcome.ending = .finished report →
        List.Forall₂ Failure.RecordedBy report.failures added.flatten) ∧
      ((∀ store world, service.ledger? disk ((refresh store).run world).1 =
          service.ledger? disk store) →
        ∀ content, service.ledger? disk store = some content →
          service.ledger? disk outcome.store =
            some (content ++ (Ledger.textOf added.flatten).toUTF8)) := by
  intro outcome
  have answers (request : Request) (store : σ) (world : ε)
      (kept : service.ledger? disk store ≠ none) :
      let result := (service.dispatcherOver disk transport now refresh request store).run world
      (∃ records, service.Served disk transport refresh
        ⟨request, store, result.1.1, result.1.2⟩ records) ∧
        service.ledger? disk result.1.2 ≠ none := by
    rcases dispatched : (service.dispatcherOver disk transport now refresh request store).run world
      with ⟨⟨reply, after⟩, later⟩
    exact Service.served_dispatcherOver (fun world => staysWritable store world kept) dispatched
  obtain ⟨added, served⟩ := exists_forall₂ <|
    forall_history_recordedCrawl (service.dispatcherOver disk transport now refresh) answers world
      limit level target store writable
  obtain ⟨course⟩ := exists_course (service.dispatcherOver disk transport now refresh) world limit
    level target store
  refine ⟨added, served, fun report finished => ?_, fun alone content holds => ?_⟩
  · have failures_eq := (Reported.of_steps course.steps).failures_eq
    rw [course.report_eq report finished, course.history_eq] at failures_eq
    rw [failures_eq]
    exact recordedBy_of_served served
  · have started : service.ledger? disk
        (Stage.start level (targetKey? target) store).store = some content := by
      rwa [Stage.start_store]
    rw [← course.history_eq] at served
    have final := course.steps.ledger?_eq served alone started
    rwa [course.store_eq] at final

/-- The document of a contract that depends on two others. -/
def dependingDocument : String :=
  "\x7b\"network_info\":\x7b\"contract_address\":\"0x1111111111111111111111111111111111111111\"\x7d," ++
    "\"contract_data\":\x7b\"external_addresses\":\x7b" ++
    "\"oracle\":\"0x2222222222222222222222222222222222222222\"," ++
    "\"token\":\"0x3333333333333333333333333333333333333333\"\x7d\x7d\x7d"

/-- A server that answers one request with a document, is too busy for the next one, and is gone
after that. The world counts the requests. -/
def fadingTransport : Transport (StateM Nat) := fun _ asked =>
  let reply : Reply := match asked with
    | 0 => .answered 200 dependingDocument.toUTF8.data.toList
    | 1 => .answered 503 "busy\r\n".toUTF8.data.toList
    | _ => .unanswered "connection refused"
  (reply, asked + 1)

/-- The failures of the requests for the two dependencies. -/
def fadedRequests : List Failure := [
  ⟨"mainet:0x2222222222222222222222222222222222222222", .lightweight,
    "Dispatch of mainet:0x2222222222222222222222222222222222222222 failed: " ++
      "HTTP 503 Service Unavailable: busy\r\n"⟩,
  ⟨"mainet:0x3333333333333333333333333333333333333333", .lightweight,
    "Dispatch of mainet:0x3333333333333333333333333333333333333333 failed: connection refused"⟩]

/-- The request for the target is answered, and those for its two dependencies fail for different
reasons. The ledger gets a record of each of the two, in order. -/
theorem ledger_agrees_with_report_fading :
    let service : Service := ⟨"http://localhost:8000/", 1000, ⟨"fails.jsonl"⟩⟩
    let store : DirectoryStore := ⟨⟨⟨"data"⟩⟩, .exact, { }⟩
    let outcome := recordedCrawl (service.dispatcher fadingTransport (pure .epoch) pure) 0 1
      .singleHop (some "mainet:0x1111111111111111111111111111111111111111") store
    ∃ report added, outcome.ending = .finished report ∧
      report.dispatched = ["mainet:0x1111111111111111111111111111111111111111",
        "mainet:0x2222222222222222222222222222222222222222",
        "mainet:0x3333333333333333333333333333333333333333"] ∧
      report.failures = fadedRequests ∧
      List.Forall₂ (service.Served .itself fadingTransport
        fun store => do return { store with files := <- pure store.files }) outcome.history added ∧
      List.Forall₂ Failure.RecordedBy report.failures added.flatten ∧
      service.ledger? .itself outcome.store = some (Ledger.textOf added.flatten).toUTF8 := by
  intro service store outcome
  have computed : outcome.ending.report?.map (fun report => (report.dispatched, report.failures)) =
      some (["mainet:0x1111111111111111111111111111111111111111",
        "mainet:0x2222222222222222222222222222222222222222",
        "mainet:0x3333333333333333333333333333333333333333"], fadedRequests) := by
    decide +kernel
  obtain ⟨report, ended, same⟩ := Option.map_eq_some_iff.mp computed
  obtain ⟨dispatched, failures⟩ := Prod.mk.inj same
  have finished := Ending.report?_eq_some_iff.mp ended
  have writable : service.ledger? .itself store = some .empty :=
    FileTree.appendable?_eq_some_iff.mpr
      ⟨by decide +kernel, ["fails.jsonl"], none, by decide +kernel, rfl, rfl⟩
  obtain ⟨added, served, recorded, final⟩ := ledger_agrees_with_report service .itself
    fadingTransport (pure .epoch)
    (fun store => do return { store with files := <- pure store.files }) 0 1 .singleHop
    (some "mainet:0x1111111111111111111111111111111111111111") store
    (by simp [writable]) (fun _ _ stands => stands)
  rw [Service.dispatcherOver_itself] at served recorded final
  refine ⟨report, added, finished, dispatched, failures, served, recorded report finished, ?_⟩
  simpa using final (fun _ _ => rfl) _ writable

end ContractAtlas.Crawl
