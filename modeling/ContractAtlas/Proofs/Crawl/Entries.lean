import ContractAtlas.Proofs.Crawl.ZeroAddress

/-!
# The entries and the failures of a report

A report has at most one entry for a reference: classifying a reference again replaces its entry,
and an entry that is settled stays in its place. `Reported` is what holds of the report at every
stage of a crawl, whatever the service does: no reference has two entries, every entry has been
classified, and the failures are those of the exchanges, in order.
-/

namespace ContractAtlas.Crawl

/-! ## Recording and settling -/

/-- The references that have an entry, in order. -/
def references (entries : List Entry) : List Reference :=
  entries.map Entry.reference

section

variable {reference : Reference} {address : String} {state : EntryState} {entries : List Entry}
  {entry : Entry}

@[simp] theorem references_append (first second : List Entry) :
    references (first ++ second) = references first ++ references second :=
  List.map_append

/-- The reference of an entry is among the references of the entries. -/
theorem reference_mem_references (member : entry ∈ entries) :
    entry.reference ∈ references entries :=
  List.mem_map_of_mem member

/-- A new reference gets an entry at the end. -/
theorem record_of_new (new : reference ∉ references entries) :
    record reference address state entries = entries ++ [⟨reference, address, state⟩] := by
  induction entries with
  | nil => rfl
  | cons first later inductionHypothesis =>
      rw [references, List.map_cons, List.mem_cons, not_or] at new
      rw [record, if_neg (Ne.symm new.1), inductionHypothesis new.2, List.cons_append]

/-- A reference that has an entry gets no other. -/
theorem references_record_of_mem (known : reference ∈ references entries) :
    references (record reference address state entries) = references entries := by
  induction entries with
  | nil => cases known
  | cons first later inductionHypothesis =>
      rw [record]
      split
      · rename_i same
        simp [references, same]
      · rename_i other
        have later_known := (List.mem_cons.mp known).resolve_left (Ne.symm other)
        exact congrArg (first.reference :: ·) (inductionHypothesis later_known)

/-- Recording a reference again replaces its entry, so no reference has two. -/
theorem nodup_references_record (distinct : (references entries).Nodup) :
    (references (record reference address state entries)).Nodup := by
  by_cases known : reference ∈ references entries
  · rwa [references_record_of_mem known]
  · rw [record_of_new known, references_append]
    exact distinct.append (List.nodup_singleton reference)
      (List.disjoint_singleton.mpr known)

/-- Settling an entry changes none of the references. -/
@[simp] theorem references_settle :
    references (settle reference state entries) = references entries := by
  induction entries with
  | nil => rfl
  | cons first later inductionHypothesis =>
      rw [settle]
      split
      · rfl
      · exact congrArg (first.reference :: ·) inductionHypothesis

/-- Settling an entry takes nothing from the entries that are in the state already. -/
theorem mem_settle_of_mem (member : entry ∈ entries) (settled : entry.state = state) :
    entry ∈ settle reference state entries := by
  induction entries with
  | nil => cases member
  | cons first later inductionHypothesis =>
      rw [settle]
      obtain rfl | member := List.mem_cons.mp member
      · split
        · rw [← settled]
          exact List.mem_cons_self ..
        · exact List.mem_cons_self ..
      · split
        · exact List.mem_cons_of_mem _ member
        · exact List.mem_cons_of_mem _ (inductionHypothesis member)

/-- The only entry of a reference is settled. -/
theorem settled_mem (distinct : (references entries).Nodup) (member : entry ∈ entries) :
    { entry with state } ∈ settle entry.reference state entries := by
  induction entries with
  | nil => cases member
  | cons first later inductionHypothesis =>
      obtain ⟨notLater, distinctLater⟩ := List.nodup_cons.mp distinct
      rw [settle]
      obtain rfl | member := List.mem_cons.mp member
      · rw [if_pos rfl]
        exact List.mem_cons_self ..
      · have other : first.reference ≠ entry.reference :=
          fun same => notLater (same ▸ reference_mem_references member)
        rw [if_neg other]
        exact List.mem_cons_of_mem _ (inductionHypothesis distinctLater member)

/-- The entries that wait or were sent, once a reference counts as analyzed: all but its own. -/
theorem queued_settle_analyzed (distinct : (references entries).Nodup) :
    (settle reference .analyzed entries).filter (fun entry => entry.state = .queued) =
      (entries.filter fun entry => entry.state = .queued).filter fun entry =>
        entry.reference ≠ reference := by
  induction entries with
  | nil => rfl
  | cons first later inductionHypothesis =>
      obtain ⟨notLater, distinctLater⟩ := List.nodup_cons.mp distinct
      rw [settle]
      split
      · rename_i same
        have others : ∀ entry ∈ later.filter fun entry => entry.state = .queued,
            decide (entry.reference ≠ reference) = true := by
          intro entry member
          have isLater := reference_mem_references (List.mem_filter.mp member).1
          exact decide_eq_true fun isSame => notLater (same.trans isSame.symm ▸ isLater)
        rw [List.filter_cons_of_neg (by simp)]
        by_cases queued : first.state = .queued
        · rw [List.filter_cons_of_pos (by simpa using queued),
            List.filter_cons_of_neg (by simpa using same), List.filter_eq_self.mpr others]
        · rw [List.filter_cons_of_neg (by simpa using queued), List.filter_eq_self.mpr others]
      · rename_i other
        by_cases queued : first.state = .queued
        · simp [queued, other, inductionHypothesis distinctLater]
        · simp [queued, inductionHypothesis distinctLater]

end

/-! ## What holds of every report -/

variable {σ : Type}

/-- The failure that an exchange is reported as, if its answer is an error. -/
def Exchange.failure? (exchange : Exchange σ) : Option Failure :=
  match exchange.answer with
  | .ok _ => none
  | .error fault => some ⟨exchange.request.payload, exchange.request.route, fault.message⟩

namespace Run

variable (run : Run) (request : Request) (answer : Except AtlasError (Option Session))

@[simp] theorem afterBeginning_failures :
    run.afterBeginning.report.failures = run.report.failures := rfl

@[simp] theorem afterClassified_failures (dependency : Dependency) (state : EntryState)
    (queued : Option Request) :
    (run.afterClassified dependency state queued).report.failures = run.report.failures := rfl

@[simp] theorem afterAppeared_failures :
    (run.afterAppeared request).report.failures = run.report.failures := by
  unfold afterAppeared
  split <;> rfl

/-- An answer adds its failure, if it is one. -/
theorem afterAnswer_failures (before after : σ) :
    (run.afterAnswer request answer).report.failures =
      run.report.failures ++ (Exchange.mk request before answer after).failure?.toList := by
  unfold afterAnswer
  split <;> simp [Exchange.failure?]

/-- An answer leaves the entries alone. -/
@[simp] theorem afterAnswer_entries :
    (run.afterAnswer request answer).report.entries = run.report.entries := by
  unfold afterAnswer
  split <;> rfl

/-- The entry of the reference that a request names is settled. -/
theorem afterAppeared_entries {reference : Reference}
    (named : request.reference = some reference) :
    (run.afterAppeared request).report.entries =
      settle reference .analyzed run.report.entries := by
  rw [afterAppeared, named]

/-- The target of a crawl has no entry to settle. -/
theorem afterAppeared_of_target (isTarget : request.reference = none) :
    run.afterAppeared request = run := by
  rw [afterAppeared, isTarget]

end Run

variable [SessionStore σ]

/-- A reference that has been classified is not left open. -/
theorem classify_ne_pending (store : σ) (level : Level) (inFlight : List SessionKey)
    (source : SessionKey) (name address : String) :
    (classify store level inFlight source name address).1 ≠ .pending := by
  unfold classify
  grind

/-- A reference is queued exactly if there is a request to send. -/
theorem classify_queued_iff (store : σ) (level : Level) (inFlight : List SessionKey)
    (source : SessionKey) (name address : String) :
    (classify store level inFlight source name address).1 = .queued ↔
      (classify store level inFlight source name address).2 ≠ none := by
  unfold classify
  grind

/-- What holds of the report at every stage of a crawl. -/
structure Reported (events : List (Event σ)) (stage : Stage σ) : Prop where
  distinct : (references stage.run.report.entries).Nodup
  classified : ∀ entry ∈ stage.run.report.entries, entry.state ≠ .pending
  failures_eq : stage.run.report.failures = (exchangesOf events).filterMap Exchange.failure?

namespace Reported

variable {events : List (Event σ)} {stage next : Stage σ} {event : Event σ}

omit [SessionStore σ] in
/-- A new pass has neither entries nor failures of its own. -/
theorem beginPass {run : Run} {store : σ} (reported : Reported events ⟨run, store, [], []⟩)
    (waiting : List Dependency) :
    Reported (events ++ [.begun store]) ⟨run.afterBeginning, store, waiting, []⟩ where
  distinct := reported.distinct
  classified := reported.classified
  failures_eq := by simpa using reported.failures_eq

/-- Classifying a dependency records one entry, in place of an earlier one for the reference. -/
theorem classify {run : Run} {store : σ} {dependency : Dependency} {waiting : List Dependency}
    {queue : List Request} {state : EntryState} {request : Option Request}
    (reported : Reported events ⟨run, store, dependency :: waiting, queue⟩)
    (outcome : Crawl.classify store run.report.level run.inFlight dependency.source
      dependency.variableName dependency.address = (state, request)) :
    Reported (events ++ [.classified store dependency state request])
      ⟨run.afterClassified dependency state request, store, waiting, queue ++ request.toList⟩ where
  distinct := nodup_references_record reported.distinct
  classified := by
    intro entry member
    obtain rfl | member := mem_record member
    · have judged := classify_ne_pending store run.report.level run.inFlight dependency.source
        dependency.variableName dependency.address
      rwa [outcome] at judged
    · exact reported.classified entry member
  failures_eq := by simpa using reported.failures_eq

omit [SessionStore σ] in
/-- A contract that has appeared settles the entry of its reference. -/
theorem appear {run : Run} {store : σ} {request : Request} {queue : List Request}
    (reported : Reported events ⟨run, store, [], request :: queue⟩) :
    Reported (events ++ [.appeared request store])
      ⟨run.afterAppeared request, store, [], queue⟩ := by
  refine ⟨?_, ?_, by simpa using reported.failures_eq⟩
  · cases named : request.reference with
    | none => simpa only [run.afterAppeared_of_target request named] using reported.distinct
    | some reference =>
        simpa only [run.afterAppeared_entries request named, references_settle] using
          reported.distinct
  · cases named : request.reference with
    | none => simpa only [run.afterAppeared_of_target request named] using reported.classified
    | some reference =>
        intro entry member
        rw [run.afterAppeared_entries request named] at member
        obtain member | ⟨_, _, _, rfl⟩ := mem_settle member
        · exact reported.classified entry member
        · exact nofun

omit [SessionStore σ] in
/-- An answer settles the entry of the reference and adds its failure. -/
theorem send {run : Run} {store after : σ} {request : Request} {queue : List Request}
    {answer : Except AtlasError (Option Session)}
    (reported : Reported events ⟨run, store, [], request :: queue⟩) :
    Reported (events ++ [.sent ⟨request, store, answer, after⟩])
      ⟨run.afterAnswer request answer, after, [], queue⟩ where
  distinct := by simpa only [Run.afterAnswer_entries] using reported.distinct
  classified := by simpa only [Run.afterAnswer_entries] using reported.classified
  failures_eq := by
    rw [Run.afterAnswer_failures run request answer store after, reported.failures_eq,
      exchangesOf_append, List.filterMap_append]
    cases failed : (Exchange.mk request store answer after).failure? <;> simp [failed]

/-- Every step keeps the report in order. -/
theorem preserved (reported : Reported events stage) (step : Step stage event next) :
    Reported (events ++ [event]) next := by
  cases step with
  | beginPass _ => exact reported.beginPass _
  | classify outcome => exact reported.classify outcome
  | appear _ => exact reported.appear
  | send _ => exact reported.send

/-- There is nothing to report at the start. -/
theorem start (level : Level) (target : Option SessionKey) (store : σ) :
    Reported [] (Stage.start level target store) := by
  constructor <;> simp [Stage.start_report, references]

/-- After any steps of a crawl the report is in order. -/
theorem of_steps {level : Level} {target : Option SessionKey} {store : σ}
    (steps : Steps (Stage.start level target store) events stage) : Reported events stage :=
  steps.invariant Reported preserved (start level target store)

end Reported

end ContractAtlas.Crawl
