import ContractAtlas.CommandLine.Invocation
import ContractAtlas.CommandLine.Listing
import ContractAtlas.Crawl.Service

/-!
# Crawling

The crawl command crawls the corpus with the analysis service and reports what it did. Failures of
the service are part of the report and do not fail the command.
-/

namespace ContractAtlas.CommandLine

open Crawl

/-- The lines of a report. -/
def reportLines (report : Report) : List String :=
  ["Passes:     " ++ toString report.passes,
   "Analyzed:   " ++ toString (report.count .analyzed),
   "Dispatched: " ++ toString report.dispatched.length,
   "Skipped:    " ++ toString report.skipped,
   "Failed:     " ++ toString report.failures.length] ++
  report.dispatched.map ("  " ++ ·)

/-- More passes than a crawl can make. -/
def passLimit : Nat := Nat.pow 2 64

/-- The normal form of the target, and the level. -/
def crawlPlan (arguments : CrawlArguments) : Except AtlasError (Option String × Level) := do
  let target <- match arguments.target with
    | some target => (normalizeTarget target).map some |>.mapError fun invalid =>
        AtlasError.store (.invalidTarget invalid)
    | none => pure none
  return (target, <- Level.ofNumber? arguments.level)

/-- What a crawl that has ended prints. -/
def crawlOutcome (asJson : Bool) (files : FileTree) : Ending -> Outcome
  | .failed fault => .failed fault files
  | .passLimitReached => .printed [] files
  | .finished report =>
      .printed (if asJson then [report.toJson.toPrettyText] else reportLines report) files

/-- Crawls the corpus. -/
def crawl {m : Type -> Type} [Monad m] (surroundings : Surroundings m) (directory : DataDirectory)
    (arguments : CrawlArguments) (files : FileTree) : m Outcome :=
  let (configuration, store) := openStore directory files
  match crawlPlan arguments with
  | .error fault => return .failed fault store.files
  | .ok (target, level) => do
      let service : Service :=
        { baseUrl := arguments.serviceUrl.getD configuration.serviceUrl
          timeout := configuration.serviceTimeout
          ledger := directory.failureLedger }
      let limiter := RateLimiter.ofLimits
        (arguments.dispatchesPerWindow.getD configuration.dispatchesPerWindow)
        configuration.windowMilliseconds
      let dispatch := Dispatcher.limited surroundings.clock
        (service.dispatcher surroundings.transport surroundings.now surroundings.refresh)
      let ((ending, store), _) <- Crawl.crawl dispatch passLimit level target store limiter
      return crawlOutcome arguments.asJson store.files ending

end ContractAtlas.CommandLine
