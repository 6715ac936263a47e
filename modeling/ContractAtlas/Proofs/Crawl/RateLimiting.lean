import Mathlib
import ContractAtlas.Crawl.RateLimiter

/-!
# What a rate limiter guarantees

The limiter forgets moments, but only those that are a window old (`Remembers`), so what it counts
at a reading of the clock are all earlier acquisitions that are less than a window old then. Hence
no window holds more acquisitions than allowed, and an acquisition waits only where one more would
be too many, and no longer than until the oldest of them is a window old.

A clock is any function of a world that it may change, with a time that never goes back and that a
sleep moves on by at least its duration.
-/

namespace ContractAtlas.Crawl

/-- What a clock is asked for. -/
inductive Tick where
  | read (moment : Nat)
  | slept (duration : Nat)

/-- A clock that also writes down what it is asked for. -/
def Clock.recorded {m : Type → Type} [Monad m] (clock : Clock m) :
    Clock (StateT (List Tick) m) where
  now ticks := do
    let moment <- clock.now
    return (moment, ticks ++ [.read moment])
  sleep duration ticks := do
    clock.sleep duration
    return ((), ticks ++ [.slept duration])

/-- Whether a clock tells a time of its world: a reading lies between the times before and after it,
and a sleep lets at least its duration pass. -/
structure Clock.Advances {ε : Type} (clock : Clock (StateM ε)) (time : ε → Nat) : Prop where
  time_le_now : ∀ world, time world ≤ (clock.now.run world).1
  now_le_time : ∀ world, (clock.now.run world).1 ≤ time (clock.now.run world).2
  time_sleep : ∀ duration world,
    time world + duration ≤ time ((clock.sleep duration).run world).2

namespace RateLimiter

/-! ## The moments that a limiter keeps -/

/-- The moments that are less than a window old at some time. -/
def withinWindow (window now : Nat) (moments : List Nat) : List Nat :=
  moments.filter fun moment => now - moment < window

/-- In an ascending list, the moments that are less than a window old are the last ones. -/
theorem dropWhile_eq_withinWindow {window now : Nat} {moments : List Nat}
    (sorted : moments.Pairwise (· ≤ ·)) :
    moments.dropWhile (fun moment => window ≤ now - moment) = withinWindow window now moments := by
  induction moments with
  | nil => rfl
  | cons oldest later inductionHypothesis =>
      obtain ⟨below, sortedLater⟩ := List.pairwise_cons.mp sorted
      by_cases expired : window ≤ now - oldest
      · rw [List.dropWhile_cons_of_pos (by simpa using expired), inductionHypothesis sortedLater]
        simp [withinWindow, expired]
      · have all : ∀ moment ∈ oldest :: later, now - moment < window := by
          intro moment member
          have older : oldest ≤ moment := by
            obtain rfl | member := List.mem_cons.mp member
            · exact le_rfl
            · exact below moment member
          omega
        rw [List.dropWhile_cons_of_neg (by simpa using expired), withinWindow,
          List.filter_eq_self.mpr (by simpa using all)]

/-- What a limiter remembers at a time of the moments of all acquisitions so far. -/
structure Remembers (limiter : RateLimiter) (moments : List Nat) (time : Nat) : Prop where
  sorted : moments.Pairwise (· ≤ ·)
  past : ∀ moment ∈ moments, moment ≤ time
  /-- All that has been forgotten is a window old. -/
  split : ∃ expired, moments = expired ++ limiter.moments ∧
    ∀ moment ∈ expired, moment + limiter.window ≤ time
  length_le : limiter.moments.length ≤ limiter.maximum
  /-- No window holds more acquisitions than allowed. -/
  spaced : ∀ i (later : i + limiter.maximum < moments.length),
    moments[i] + limiter.window ≤ moments[i + limiter.maximum]

namespace Remembers

variable {limiter : RateLimiter} {moments : List Nat} {time now : Nat}

/-- What is remembered now is remembered later, as the window only moves on. -/
theorem mono (remembers : limiter.Remembers moments time) {later : Nat} (passed : time ≤ later) :
    limiter.Remembers moments later where
  sorted := remembers.sorted
  past moment member := (remembers.past moment member).trans passed
  split := by
    obtain ⟨expired, split, old⟩ := remembers.split
    exact ⟨expired, split, fun moment member => (old moment member).trans passed⟩
  length_le := remembers.length_le
  spaced := remembers.spaced

/-- What the limiter counts are all acquisitions that are less than a window old. -/
theorem recent_eq (remembers : limiter.Remembers moments time) (passed : time ≤ now) :
    limiter.recent now = withinWindow limiter.window now moments := by
  obtain ⟨expired, rfl, old⟩ := remembers.split
  have none : withinWindow limiter.window now expired = [] := by
    simp only [withinWindow, List.filter_eq_nil_iff, decide_eq_true_eq]
    intro moment member
    have := old moment member
    omega
  rw [withinWindow, List.filter_append, ← withinWindow, ← withinWindow, none, List.nil_append]
  exact dropWhile_eq_withinWindow (List.pairwise_append.mp remembers.sorted).2.1

/-- The acquisitions that are less than a window old are no more than allowed. -/
theorem length_withinWindow_le (remembers : limiter.Remembers moments time) (passed : time ≤ now) :
    (withinWindow limiter.window now moments).length ≤ limiter.maximum := by
  rw [← remembers.recent_eq passed]
  exact (List.length_dropWhile_le _ _).trans remembers.length_le

/-- Moments may be forgotten once they are a window old. -/
theorem evict (remembers : limiter.Remembers moments time) (passed : time ≤ now) :
    Remembers { limiter with moments := limiter.recent now } moments now where
  sorted := remembers.sorted
  past := (remembers.mono passed).past
  split := by
    obtain ⟨expired, split, old⟩ := remembers.split
    refine ⟨expired ++ limiter.moments.takeWhile fun moment => limiter.window ≤ now - moment, ?_,
      fun moment member => ?_⟩
    · rw [List.append_assoc, recent, List.takeWhile_append_dropWhile, split]
    · obtain forgotten | leaving := List.mem_append.mp member
      · exact (old moment forgotten).trans passed
      · have expired : limiter.window ≤ now - moment := by
          simpa using List.mem_takeWhile_imp leaving
        have kept := List.takeWhile_prefix _ |>.subset leaving
        have past := remembers.past moment (split ▸ List.mem_append_right _ kept)
        dsimp only
        omega
  length_le := (List.length_dropWhile_le _ _).trans remembers.length_le
  spaced := remembers.spaced

/-- There is room for one more moment where fewer than allowed are remembered. -/
theorem add (remembers : limiter.Remembers moments time) (passed : time ≤ now)
    (room : limiter.moments.length < limiter.maximum) :
    Remembers { limiter with moments := limiter.moments ++ [now] } (moments ++ [now]) now where
  sorted := by
    refine List.pairwise_append.mpr ⟨remembers.sorted, List.pairwise_singleton _ _, ?_⟩
    intro moment member later isNow
    rw [List.mem_singleton.mp isNow]
    exact (remembers.past moment member).trans passed
  past moment member := by
    obtain older | same := List.mem_append.mp member
    · exact (remembers.past moment older).trans passed
    · exact (List.mem_singleton.mp same).le
  split := by
    obtain ⟨expired, split, old⟩ := remembers.split
    exact ⟨expired, by rw [split, List.append_assoc],
      fun moment member => (old moment member).trans passed⟩
  length_le := by simpa using room
  spaced i later := by
    obtain ⟨expired, split, old⟩ := remembers.split
    rw [List.length_append, List.length_singleton] at later
    by_cases inside : i + limiter.maximum < moments.length
    · rw [List.getElem_append_left inside, List.getElem_append_left (by omega)]
      exact remembers.spaced i inside
    · -- The moment so many places before the new one has been forgotten.
      have last : i + limiter.maximum = moments.length := by dsimp only at later; omega
      have forgotten : i < expired.length := by
        have := congrArg List.length split
        rw [List.length_append] at this
        omega
      have below : i < moments.length := by have := limiter.one_le_maximum; omega
      have isOld : moments[i] + limiter.window ≤ time := by
        refine old _ ?_
        simp only [split, List.getElem_append_left forgotten]
        exact List.getElem_mem forgotten
      rw [List.getElem_append_left below, List.getElem_append_right (by simp [last])]
      simpa using isOld.trans passed

end Remembers

/-! ## One acquisition -/

variable {limiter : RateLimiter} {now : Nat}

/-- A full window makes the next acquisition wait until its oldest moment has left it. -/
theorem waitAt_of_isFull (full : limiter.isFull now = true) :
    ∃ oldest later, limiter.recent now = oldest :: later ∧
      limiter.waitAt now = limiter.window - (now - oldest) := by
  rw [isFull, decide_eq_true_eq] at full
  rw [waitAt]
  cases recent : limiter.recent now with
  | nil =>
      have := limiter.one_le_maximum
      simp only [recent, List.length_nil] at full
      omega
  | cons oldest later =>
      rw [recent] at full
      exact ⟨oldest, later, rfl, if_pos full⟩

/-- With room in the window there is nothing to wait for. -/
theorem waitAt_of_not_isFull (room : limiter.isFull now = false) : limiter.waitAt now = 0 := by
  rw [isFull, decide_eq_false_iff_not] at room
  rw [waitAt]
  split
  · rfl
  · rename_i oldest later recent
    rw [recent] at room
    exact if_neg room

/-- A limiter waits exactly where it is full. -/
theorem waitAt_pos_iff : 0 < limiter.waitAt now ↔ limiter.isFull now = true := by
  cases full : limiter.isFull now with
  | false => simp [waitAt_of_not_isFull full]
  | true =>
      obtain ⟨oldest, later, recent, wait⟩ := waitAt_of_isFull full
      have young := List.head?_dropWhile_not (fun moment => limiter.window ≤ now - moment)
        limiter.moments
      rw [← RateLimiter.recent, recent] at young
      simp at young
      simp
      omega

@[simp] theorem maximum_acquired (limiter : RateLimiter) (now later : Nat) :
    (limiter.acquired now later).maximum = limiter.maximum := by
  rw [acquired]
  split <;> rfl

@[simp] theorem window_acquired (limiter : RateLimiter) (now later : Nat) :
    (limiter.acquired now later).window = limiter.window := by
  rw [acquired]
  split <;> rfl

/-- The moment of an acquisition that started at `now` and, if it had to wait, was over at
`later`. -/
def momentOf (limiter : RateLimiter) (now later : Nat) : Nat :=
  if limiter.isFull now then later else now

/-- The moment of an acquisition is the last one that is kept. -/
theorem getLast?_acquired (limiter : RateLimiter) (now later : Nat) :
    (limiter.acquired now later).moments.getLast? = some (limiter.momentOf now later) := by
  rw [acquired, momentOf, isFull]
  by_cases full : limiter.maximum ≤ (limiter.recent now).length <;> simp [full]

namespace Remembers

variable {moments : List Nat} {time : Nat}

/-- After the wait the oldest moment is a window old, so that there is room. -/
theorem length_recent_lt (remembers : limiter.Remembers moments time) (passed : time ≤ now)
    (full : limiter.isFull now = true) {later : Nat}
    (waited : now + limiter.waitAt now ≤ later) :
    (recent { limiter with moments := limiter.recent now } later).length < limiter.maximum := by
  obtain ⟨oldest, others, recent_eq, wait⟩ := waitAt_of_isFull full
  have evicted := remembers.evict passed
  have length_le : (oldest :: others).length ≤ limiter.maximum := recent_eq ▸ evicted.length_le
  have past : oldest ≤ now := by
    have isRecent : oldest ∈ limiter.recent now := recent_eq ▸ List.mem_cons_self ..
    have member : oldest ∈ limiter.moments := (List.dropWhile_suffix _).subset isRecent
    obtain ⟨expired, rfl, _⟩ := remembers.split
    exact (remembers.past oldest (List.mem_append_right _ member)).trans passed
  have expired : limiter.window ≤ later - oldest := by omega
  rw [recent, recent_eq, List.dropWhile_cons_of_pos (by simpa using expired)]
  exact (List.length_dropWhile_le _ others).trans_lt (by simpa using length_le)

/-- An acquisition adds its moment, which is when it started or, if it had to wait, when the wait
was over. -/
theorem acquired (remembers : limiter.Remembers moments time) (passed : time ≤ now) {later : Nat}
    (waited : now + limiter.waitAt now ≤ later) :
    Remembers (limiter.acquired now later) (moments ++ [limiter.momentOf now later])
      (limiter.momentOf now later) := by
  have evicted := remembers.evict passed
  cases full : limiter.isFull now with
  | false =>
      have room : (limiter.recent now).length < limiter.maximum := by simpa [isFull] using full
      rw [RateLimiter.acquired, if_neg (not_le.mpr room), momentOf, full]
      exact evicted.add le_rfl room
  | true =>
      have room := remembers.length_recent_lt passed full waited
      have onTime : now ≤ later := (Nat.le_add_right ..).trans waited
      have none : (recent { limiter with moments := limiter.recent now } later).length + 1 -
          limiter.maximum = 0 := by omega
      rw [RateLimiter.acquired, if_pos (of_decide_eq_true full), momentOf, full]
      simp only [none, List.drop_zero]
      exact (evicted.evict onTime).add le_rfl room

end Remembers

end RateLimiter

/-! ## Recorded acquisitions -/

/-- An acquisition: what it asked the clock for, the time that it says it waited, and the limiter
afterwards. -/
structure Acquisition where
  ticks : List Tick
  waited : Nat
  limiter : RateLimiter

namespace Acquisition

/-- The moment that the limiter has recorded. -/
def moment (acquisition : Acquisition) : Nat :=
  acquisition.limiter.moments.getLastD 0

/-- The durations that were slept. -/
def sleeps (acquisition : Acquisition) : List Nat :=
  acquisition.ticks.filterMap fun
    | .read _ => none
    | .slept duration => some duration

/-- Whether an acquisition waits for no more and no less than it has to, given the moments of all
acquisitions before it: it sleeps exactly if as many of them as allowed are less than a window old
when it starts, once, and until the oldest of these is a window old. -/
def WaitsExactly (acquisition : Acquisition) (maximum window : Nat) (before : List Nat) : Prop :=
  ∃ now, acquisition.ticks.head? = some (.read now) ∧
    acquisition.ticks.getLast? = some (.read acquisition.moment) ∧
    let recent := RateLimiter.withinWindow window now before
    (acquisition.sleeps ≠ [] ↔ recent.length = maximum ∧ 0 < window) ∧
    ∀ duration ∈ acquisition.sleeps,
      acquisition.sleeps = [duration] ∧ acquisition.waited = duration ∧
        ∃ oldest ∈ recent, (∀ other ∈ recent, oldest ≤ other) ∧
          now + duration = oldest + window

end Acquisition

namespace RateLimiter

variable {ε : Type}

/-- Acquires with everything written down. -/
def recordedAcquire (clock : Clock (StateM ε)) (limiter : RateLimiter) (world : ε) :
    Acquisition × ε :=
  let result := ((limiter.acquire clock.recorded).run []).run world
  (⟨result.1.2, result.1.1.1, result.1.1.2⟩, result.2)

/-- Acquires a number of times with everything written down. -/
def recordedAcquireAll (clock : Clock (StateM ε)) :
    Nat → RateLimiter → ε → List Acquisition × ε
  | 0, _, world => ([], world)
  | count + 1, limiter, world =>
      let first := limiter.recordedAcquire clock world
      let later := recordedAcquireAll clock count first.1.limiter first.2
      (first.1 :: later.1, later.2)

variable {clock : Clock (StateM ε)} {limiter : RateLimiter} {world : ε}

section

variable {α β : Type}

@[simp] theorem run_recorded_pure (value : α) (ticks : List Tick) (world : ε) :
    ((pure value : StateT (List Tick) (StateM ε) α).run ticks).run world =
      ((value, ticks), world) := rfl

@[simp] theorem run_recorded_bind (action : StateT (List Tick) (StateM ε) α)
    (next : α → StateT (List Tick) (StateM ε) β) (ticks : List Tick) (world : ε) :
    ((action >>= next).run ticks).run world =
      ((next ((action.run ticks).run world).1.1).run ((action.run ticks).run world).1.2).run
        ((action.run ticks).run world).2 := rfl

@[simp] theorem run_recorded_now (ticks : List Tick) (world : ε) :
    (clock.recorded.now.run ticks).run world =
      (((clock.now.run world).1, ticks ++ [.read (clock.now.run world).1]),
        (clock.now.run world).2) := rfl

@[simp] theorem run_recorded_sleep (duration : Nat) (ticks : List Tick) (world : ε) :
    ((clock.recorded.sleep duration).run ticks).run world =
      (((), ticks ++ [.slept duration]), ((clock.sleep duration).run world).2) := rfl

end

/-- A limiter that is not full reads the clock once. -/
theorem recordedAcquire_of_not_isFull {now : Nat} {after : ε}
    (read : clock.now.run world = (now, after)) (room : limiter.isFull now = false) :
    limiter.recordedAcquire clock world = (⟨[.read now], 0, limiter.acquired now now⟩, after) := by
  have result : ((limiter.acquire clock.recorded).run []).run world =
      (((0, limiter.acquired now now), [.read now]), after) := by
    rw [acquire, run_recorded_bind, run_recorded_now, read]
    simp only [waitAt_of_not_isFull room, room, lt_irrefl, if_false]
    rfl
  rw [recordedAcquire, result]

/-- A full limiter sleeps and reads the clock again. -/
theorem recordedAcquire_of_isFull {now later : Nat} {asleep awake after : ε}
    (read : clock.now.run world = (now, asleep)) (full : limiter.isFull now = true)
    (slept : ((clock.sleep (limiter.waitAt now)).run asleep).2 = awake)
    (readAgain : clock.now.run awake = (later, after)) :
    limiter.recordedAcquire clock world =
      (⟨[.read now, .slept (limiter.waitAt now), .read later], limiter.waitAt now,
        limiter.acquired now later⟩, after) := by
  have result : ((limiter.acquire clock.recorded).run []).run world =
      (((limiter.waitAt now, limiter.acquired now later),
        [.read now, .slept (limiter.waitAt now), .read later]), after) := by
    rw [acquire, run_recorded_bind, run_recorded_now, read]
    simp only [waitAt_pos_iff, full, if_true, run_recorded_bind, run_recorded_sleep, slept,
      run_recorded_now, readAgain, run_recorded_pure]
    rfl
  rw [recordedAcquire, result]

/-- Actions one after the other pass the world on. -/
theorem run_bind {α β : Type} (action : StateM ε α) (next : α → StateM ε β) (world : ε) :
    (action >>= next).run world = (next (action.run world).1).run (action.run world).2 := rfl

/-- Writing down changes nothing. -/
theorem acquire_eq_recordedAcquire (clock : Clock (StateM ε)) (limiter : RateLimiter) (world : ε) :
    (limiter.acquire clock).run world =
      (((limiter.recordedAcquire clock world).1.waited,
        (limiter.recordedAcquire clock world).1.limiter),
       (limiter.recordedAcquire clock world).2) := by
  rcases read : clock.now.run world with ⟨now, asleep⟩
  rw [acquire, run_bind, read]
  cases full : limiter.isFull now with
  | false =>
      rw [recordedAcquire_of_not_isFull read full]
      simp only [waitAt_of_not_isFull full, lt_irrefl, if_false]
      rfl
  | true =>
      rw [recordedAcquire_of_isFull read full rfl rfl]
      simp only [waitAt_pos_iff, full, if_true]
      rfl

/-- Writing the acquisitions down changes neither what they wait for nor the limiter that they
leave. -/
theorem acquireAll_eq_recordedAcquireAll (clock : Clock (StateM ε)) (count : Nat)
    (limiter : RateLimiter) (world : ε) :
    (acquireAll clock count limiter).run world =
      ((((recordedAcquireAll clock count limiter world).1.map Acquisition.waited),
        ((recordedAcquireAll clock count limiter world).1.getLast?.map
          Acquisition.limiter).getD limiter),
       (recordedAcquireAll clock count limiter world).2) := by
  induction count generalizing limiter world with
  | zero => rfl
  | succ count inductionHypothesis =>
      rw [acquireAll, run_bind, acquire_eq_recordedAcquire, run_bind, inductionHypothesis]
      simp only [recordedAcquireAll, List.map_cons, List.getLast?_cons]
      cases (recordedAcquireAll clock count (limiter.recordedAcquire clock world).1.limiter
        (limiter.recordedAcquire clock world).2).1.getLast? <;> rfl

/-- The moment that a limiter has recorded last. -/
theorem moment_of_acquired (ticks : List Tick) (waited : Nat) (limiter : RateLimiter)
    (now later : Nat) :
    Acquisition.moment ⟨ticks, waited, limiter.acquired now later⟩ =
      limiter.momentOf now later := by
  rw [Acquisition.moment, List.getLastD_eq_getLast?, getLast?_acquired, Option.getD_some]

namespace Remembers

variable {time : ε → Nat} {moments : List Nat}

/-- The wait of a full limiter is over when the oldest of the recent moments is a window old. -/
theorem exists_oldest {time now : Nat} (remembers : limiter.Remembers moments time)
    (passed : time ≤ now) (full : limiter.isFull now = true) :
    let recent := withinWindow limiter.window now moments
    recent.length = limiter.maximum ∧ 0 < limiter.window ∧
      ∃ oldest ∈ recent, (∀ other ∈ recent, oldest ≤ other) ∧
        now + limiter.waitAt now = oldest + limiter.window := by
  intro recent
  have recent_eq : limiter.recent now = recent := remembers.recent_eq passed
  obtain ⟨oldest, others, isHead, wait⟩ := waitAt_of_isFull full
  have waits := waitAt_pos_iff.mpr full
  have length_le : limiter.maximum ≤ recent.length := recent_eq ▸ of_decide_eq_true full
  rw [recent_eq] at isHead
  have sorted : recent.Pairwise (· ≤ ·) := remembers.sorted.filter _
  have member : oldest ∈ recent := isHead ▸ List.mem_cons_self ..
  have past : oldest ≤ now := (remembers.past oldest (List.mem_of_mem_filter member)).trans passed
  refine ⟨le_antisymm (remembers.length_withinWindow_le passed) length_le, by omega, oldest,
    member, fun other among => ?_, by omega⟩
  rw [isHead] at sorted among
  obtain rfl | among := List.mem_cons.mp among
  · exact le_rfl
  · exact (List.pairwise_cons.mp sorted).1 other among

/-- Where there is room, the moment is the one that is read, and there is nothing to wait for. -/
theorem waitsExactly_of_not_isFull {time now : Nat} (remembers : limiter.Remembers moments time)
    (passed : time ≤ now) (room : limiter.isFull now = false) :
    Acquisition.WaitsExactly ⟨[.read now], 0, limiter.acquired now now⟩ limiter.maximum
      limiter.window moments := by
  have fewer : (limiter.recent now).length < limiter.maximum := by simpa [isFull] using room
  rw [remembers.recent_eq passed] at fewer
  refine ⟨now, rfl, ?_, ?_, nofun⟩
  · simp [moment_of_acquired, momentOf]
  · simp [Acquisition.sleeps, fewer.ne]

/-- A full limiter sleeps once, until the oldest of the recent moments is a window old. -/
theorem waitsExactly_of_isFull {time now : Nat} (remembers : limiter.Remembers moments time)
    (passed : time ≤ now) (full : limiter.isFull now = true) (later : Nat) :
    Acquisition.WaitsExactly
      ⟨[.read now, .slept (limiter.waitAt now), .read later], limiter.waitAt now,
        limiter.acquired now later⟩ limiter.maximum limiter.window moments := by
  obtain ⟨length_eq, positive, oldest⟩ := remembers.exists_oldest passed full
  refine ⟨now, rfl, ?_, ?_, ?_⟩
  · simp [moment_of_acquired, momentOf, full]
  · simp [Acquisition.sleeps, length_eq, positive]
  · intro duration slept
    obtain rfl : duration = limiter.waitAt now := by simpa [Acquisition.sleeps] using slept
    exact ⟨rfl, rfl, oldest⟩

/-- An acquisition waits for no more and no less than it has to, and its moment is remembered. -/
theorem recordedAcquire (advances : clock.Advances time)
    (remembers : limiter.Remembers moments (time world)) :
    let result := limiter.recordedAcquire clock world
    result.1.WaitsExactly limiter.maximum limiter.window moments ∧
      result.1.limiter.maximum = limiter.maximum ∧ result.1.limiter.window = limiter.window ∧
      result.1.limiter.Remembers (moments ++ [result.1.moment]) (time result.2) := by
  rcases read : clock.now.run world with ⟨now, asleep⟩
  have passed : time world ≤ now := by simpa [read] using advances.time_le_now world
  have readPassed : now ≤ time asleep := by simpa [read] using advances.now_le_time world
  cases full : limiter.isFull now with
  | false =>
      rw [recordedAcquire_of_not_isFull read full]
      have isNow : limiter.momentOf now now = now := by simp [momentOf]
      have waited : now + limiter.waitAt now ≤ now := by simp [waitAt_of_not_isFull full]
      have added := remembers.acquired passed waited
      rw [isNow] at added
      refine ⟨remembers.waitsExactly_of_not_isFull passed full, maximum_acquired ..,
        window_acquired .., ?_⟩
      simpa only [moment_of_acquired, isNow] using added.mono readPassed
  | true =>
      rcases slept : (clock.sleep (limiter.waitAt now)).run asleep with ⟨_, awake⟩
      rcases readAgain : clock.now.run awake with ⟨later, after⟩
      have sleepPassed : time asleep + limiter.waitAt now ≤ time awake := by
        simpa [slept] using advances.time_sleep (limiter.waitAt now) asleep
      have awakePassed : time awake ≤ later := by
        simpa [readAgain] using advances.time_le_now awake
      have readAgainPassed : later ≤ time after := by
        simpa [readAgain] using advances.now_le_time awake
      rw [recordedAcquire_of_isFull read full (congrArg Prod.snd slept) readAgain]
      have isLater : limiter.momentOf now later = later := by simp [momentOf, full]
      have waited : now + limiter.waitAt now ≤ later := by omega
      have added := remembers.acquired passed waited
      rw [isLater] at added
      refine ⟨remembers.waitsExactly_of_isFull passed full later, maximum_acquired ..,
        window_acquired .., ?_⟩
      simpa only [moment_of_acquired, isLater] using added.mono readAgainPassed

/-- What holds of every acquisition of a run: it waits for no more and no less than it has to, given
those before it, and no more moments than allowed are kept after it. -/
theorem recordedAcquireAll (advances : clock.Advances time) (count : Nat)
    (remembers : limiter.Remembers moments (time world)) :
    let acquisitions := (limiter.recordedAcquireAll clock count world).1
    (∀ earlier acquisition later, acquisitions = earlier ++ acquisition :: later →
      acquisition.WaitsExactly limiter.maximum limiter.window
          (moments ++ earlier.map Acquisition.moment) ∧
        acquisition.limiter.moments.length ≤ limiter.maximum) ∧
    ∃ last : RateLimiter, last.maximum = limiter.maximum ∧ last.window = limiter.window ∧
      last.Remembers (moments ++ acquisitions.map Acquisition.moment)
        (time (limiter.recordedAcquireAll clock count world).2) := by
  induction count generalizing limiter moments world with
  | zero =>
      refine ⟨fun earlier acquisition later split => ?_, limiter, rfl, rfl, ?_⟩
      · simp [RateLimiter.recordedAcquireAll] at split
      · simpa [RateLimiter.recordedAcquireAll] using remembers
  | succ count inductionHypothesis =>
      obtain ⟨exact, maximum_eq, window_eq, remembersAfter⟩ := remembers.recordedAcquire advances
      obtain ⟨others, last, lastMaximum, lastWindow, remembersLast⟩ :=
        inductionHypothesis remembersAfter
      rw [maximum_eq, window_eq] at others
      refine ⟨fun earlier acquisition later split => ?_, last, lastMaximum.trans maximum_eq,
        lastWindow.trans window_eq, ?_⟩
      · cases earlier with
        | nil =>
            obtain ⟨rfl, _⟩ := List.cons.inj split
            exact ⟨by simpa using exact, maximum_eq ▸ remembersAfter.length_le⟩
        | cons first between =>
            obtain ⟨rfl, rest⟩ := List.cons.inj split
            simpa [List.append_assoc] using others between acquisition later rest
      · simpa [RateLimiter.recordedAcquireAll, List.append_assoc] using remembersLast

/-- Any number of windows lie between the first moment and the one that is as many times the allowed
number behind it. -/
theorem spans {limiter : RateLimiter} {moments : List Nat} {time first : Nat}
    (remembers : limiter.Remembers moments time) (isFirst : first ∈ moments.head?) (windows : Nat)
    (later : windows * limiter.maximum < moments.length) :
    first + windows * limiter.window ≤ moments[windows * limiter.maximum] := by
  induction windows with
  | zero =>
      obtain ⟨others, rfl⟩ := List.head?_eq_some_iff.mp isFirst
      simp
  | succ windows inductionHypothesis =>
      have next : windows * limiter.maximum + limiter.maximum < moments.length := by
        rwa [← Nat.succ_mul]
      have before := inductionHypothesis (by omega)
      have step := remembers.spaced _ next
      simp only [Nat.succ_mul]
      omega

/-- The first and the last moment are at least as many windows apart as the allowed number fits
between them. -/
theorem span_le {limiter : RateLimiter} {moments : List Nat} {time first last : Nat}
    (remembers : limiter.Remembers moments time) (isFirst : first ∈ moments.head?)
    (isLast : last ∈ moments.getLast?) :
    first + (moments.length - 1) / limiter.maximum * limiter.window ≤ last := by
  cases moments with
  | nil => cases isFirst
  | cons oldest others =>
      obtain rfl : oldest = first := by simpa using isFirst
      rw [List.getLast?_eq_some_getLast (List.cons_ne_nil _ _)] at isLast
      obtain rfl := Option.mem_some_iff.mp isLast
      have windows := Nat.div_mul_le_self others.length limiter.maximum
      have inside : others.length / limiter.maximum * limiter.maximum <
          (oldest :: others).length := by
        rw [List.length_cons]
        omega
      calc
        oldest + others.length / limiter.maximum * limiter.window
        _ ≤ (oldest :: others)[others.length / limiter.maximum * limiter.maximum] :=
          remembers.spans rfl _ inside
        _ ≤ (oldest :: others).getLast _ := remembers.sorted.rel_getLast (List.getElem_mem inside)

end Remembers

/-- A new limiter remembers that there was nothing. -/
theorem remembers_ofLimits (maximum window time : Nat) :
    Remembers (ofLimits maximum window) [] time where
  sorted := List.Pairwise.nil
  past := nofun
  split := ⟨[], rfl, nofun⟩
  length_le := Nat.zero_le _
  spaced _ later := absurd later (Nat.not_lt_zero _)

/-- There is one acquisition for every one that was asked for. -/
theorem length_recordedAcquireAll (clock : Clock (StateM ε)) (count : Nat)
    (limiter : RateLimiter) (world : ε) :
    (recordedAcquireAll clock count limiter world).1.length = count := by
  induction count generalizing limiter world with
  | zero => rfl
  | succ count inductionHypothesis => simp [recordedAcquireAll, inductionHypothesis]

/-- Whatever a clock does that never goes back and lets a sleep take its time: the moments of the
acquisitions ascend, no window holds more of them than allowed, so any number of them span at least
as many windows as the allowed number fits between the first and the last, no more moments than
allowed are kept, and every acquisition waits for no more and no less than it has to. -/
theorem acquisitions_spaced_without_excess_wait {clock : Clock (StateM ε)} {time : ε → Nat}
    (advances : clock.Advances time) (maximum window count : Nat) (world : ε) :
    let limit := max maximum 1
    let acquisitions := (recordedAcquireAll clock count (ofLimits maximum window) world).1
    let moments := acquisitions.map Acquisition.moment
    ((acquireAll clock count (ofLimits maximum window)).run world).1.1 =
        acquisitions.map Acquisition.waited ∧
      moments.length = count ∧ moments.Pairwise (· ≤ ·) ∧
      (∀ i (later : i + limit < moments.length), moments[i] + window ≤ moments[i + limit]) ∧
      (∀ first ∈ moments.head?, ∀ last ∈ moments.getLast?,
        first + (count - 1) / limit * window ≤ last) ∧
      ∀ earlier acquisition later, acquisitions = earlier ++ acquisition :: later →
        acquisition.limiter.moments.length ≤ limit ∧
          acquisition.WaitsExactly limit window (earlier.map Acquisition.moment) := by
  intro limit acquisitions moments
  obtain ⟨each, last, maximum_eq, window_eq, remembers⟩ :=
    (remembers_ofLimits maximum window (time world)).recordedAcquireAll advances count
  have length_eq : moments.length = count := by
    rw [List.length_map, length_recordedAcquireAll]
  rw [List.nil_append] at remembers
  have limit_eq : last.maximum = limit := maximum_eq
  have sameWindow : last.window = window := window_eq
  refine ⟨by rw [acquireAll_eq_recordedAcquireAll], length_eq, remembers.sorted, ?_, ?_, ?_⟩
  · have spaced := remembers.spaced
    simp only [limit_eq, sameWindow] at spaced
    exact spaced
  · intro first isFirst final isFinal
    rw [← limit_eq, ← sameWindow, ← length_eq]
    exact remembers.span_le isFirst isFinal
  · intro earlier acquisition later split
    obtain ⟨exact, length_le⟩ := each earlier acquisition later split
    rw [List.nil_append] at exact
    exact ⟨length_le, exact⟩

/-- A clock on which 300 pass after every reading and a sleep takes one longer than asked for. -/
def busyClock : Clock (StateM Nat) where
  now time := (time, time + 300)
  sleep duration time := ((), time + duration + 1)

/-- The clock that moves on whenever it is read never goes back, and sleeps long enough. -/
theorem advances_busyClock : busyClock.Advances id where
  time_le_now _ := le_rfl
  now_le_time _ := Nat.le_add_right ..
  time_sleep _ _ := Nat.le_add_right ..

/-- Two acquisitions in any 1000: the third, fifth and seventh have to wait for the first of two. -/
theorem acquisitions_spaced_on_busyClock :
    let acquisitions := (recordedAcquireAll busyClock 7 (ofLimits 2 1000) 0).1
    let moments := acquisitions.map Acquisition.moment
    busyClock.Advances id ∧ moments = [0, 300, 1301, 1601, 2602, 2902, 3903] ∧
      acquisitions.map Acquisition.waited = [0, 0, 400, 0, 400, 0, 400] ∧
      (∀ i (later : i + 2 < moments.length), moments[i] + 1000 ≤ moments[i + 2]) ∧
      ∀ earlier acquisition later, acquisitions = earlier ++ acquisition :: later →
        acquisition.limiter.moments.length ≤ 2 ∧
          acquisition.WaitsExactly 2 1000 (earlier.map Acquisition.moment) := by
  intro acquisitions moments
  obtain ⟨_, _, _, spaced, _, exact⟩ :=
    acquisitions_spaced_without_excess_wait advances_busyClock 2 1000 7 0
  exact ⟨advances_busyClock, by decide, by decide, spaced, exact⟩

end RateLimiter

end ContractAtlas.Crawl
