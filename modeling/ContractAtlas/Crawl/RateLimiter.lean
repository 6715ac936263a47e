/-!
# Rate limiting

At most a given number of acquisitions fall into any window of time. The limiter keeps the moments
of the acquisitions that are less than a window old. When there are as many as allowed, it waits
until the oldest of them is a window old. Moments and windows are numbers in one unit.
-/

namespace ContractAtlas.Crawl

/-- A limiter with the moments that it keeps, oldest first. -/
structure RateLimiter where
  maximum : Nat
  window : Nat
  moments : List Nat := []
  one_le_maximum : 1 <= maximum := by omega

/-- A clock that one can wait on. -/
structure Clock (m : Type -> Type) where
  now : m Nat
  sleep : Nat -> m Unit

namespace RateLimiter

/-- The limiter of a number of acquisitions, at least one, in any window. -/
def ofLimits (maximum window : Nat) : RateLimiter :=
  { maximum := max maximum 1, window }

/-- The limiter of five acquisitions in any second, in milliseconds. -/
def standard : RateLimiter :=
  { maximum := 5, window := 1000 }

/-- The moments that are less than a window old. -/
def recent (limiter : RateLimiter) (now : Nat) : List Nat :=
  limiter.moments.dropWhile fun moment => limiter.window <= now - moment

/-- Whether there are as many recent moments as allowed. -/
def isFull (limiter : RateLimiter) (now : Nat) : Bool :=
  limiter.maximum <= (limiter.recent now).length

/-- How long an acquisition that starts now has to wait. -/
def waitAt (limiter : RateLimiter) (now : Nat) : Nat :=
  match limiter.recent now with
  | [] => 0
  | oldest :: later =>
      if limiter.maximum <= (oldest :: later).length then limiter.window - (now - oldest) else 0

/-- The limiter after an acquisition that started at `now` and, if there were as many recent ones as
allowed, was over at `later`. The oldest moments make room even if the clock is late. -/
def acquired (limiter : RateLimiter) (now later : Nat) : RateLimiter :=
  let kept := limiter.recent now
  if limiter.maximum <= kept.length then
    let left := recent { limiter with moments := kept } later
    { limiter with moments := left.drop (left.length + 1 - limiter.maximum) ++ [later] }
  else { limiter with moments := kept ++ [now] }

/-- Acquires, after waiting if need be. Gives the time waited. The clock is read again only if there
were as many recent acquisitions as allowed. -/
def acquire {m : Type -> Type} [Monad m] (clock : Clock m) (limiter : RateLimiter) :
    m (Nat × RateLimiter) := do
  let now <- clock.now
  let wait := limiter.waitAt now
  if 0 < wait then
    clock.sleep wait
  let later <- if limiter.isFull now then clock.now else pure now
  return (wait, limiter.acquired now later)

/-- Acquires a number of times. Gives the times waited. -/
def acquireAll {m : Type -> Type} [Monad m] (clock : Clock m) :
    Nat -> RateLimiter -> m (List Nat × RateLimiter)
  | 0, limiter => return ([], limiter)
  | count + 1, limiter => do
      let (wait, limiter) <- limiter.acquire clock
      let (waits, limiter) <- acquireAll clock count limiter
      return (wait :: waits, limiter)

/-- A clock that stands still except for the time that is slept. -/
def idealClock : Clock (StateM Nat) where
  now := get
  sleep duration := modify (· + duration)

end RateLimiter

end ContractAtlas.Crawl
