import ContractAtlas.Error

/-!
# Crawl levels

The analysis service has two routes: the full one, and a lightweight one on which the service never
crawls by itself. The level of a crawl says on which route newly found contracts are sent, if at
all. It is no depth: an unbounded crawl goes on until a pass finds nothing new.
-/

namespace ContractAtlas.Crawl

/-- A route of the analysis service. -/
inductive Route where
  | full
  | lightweight
deriving DecidableEq, Repr

namespace Route

/-- The name of a route in documents. -/
def name : Route -> String
  | .full => "full"
  | .lightweight => "lightweight"

/-- The route of a name in documents. -/
def ofName? (name : String) : Option Route :=
  if name = "full" then some .full
  else if name = "lightweight" then some .lightweight
  else none

/-- The path of a route below the address of the service. -/
def path : Route -> String
  | .full => "/"
  | .lightweight => "/generate_session_data"

end Route

/-- How far a crawl goes. -/
inductive Level where
  | targetOnly
  | singleHop
  | unbounded
deriving DecidableEq, Repr

namespace Level

/-- The level of the number that a caller gives, or of no number. -/
def ofNumber? : Option Nat -> Except AtlasError Level
  | none => .ok .targetOnly
  | some 0 => .ok .unbounded
  | some 1 => .ok .singleHop
  | some other => .error (.unsupportedLevel other)

/-- The number of a level, if it has one. -/
def number? : Level -> Option Nat
  | .targetOnly => none
  | .singleHop => some 1
  | .unbounded => some 0

/-- The route on which newly found contracts are sent, if they are. -/
def frontierRoute? : Level -> Option Route
  | .targetOnly => none
  | .singleHop => some .lightweight
  | .unbounded => some .full

/-- The name of a level in documents. -/
def name : Level -> String
  | .targetOnly => "target_only"
  | .singleHop => "single_hop"
  | .unbounded => "unbounded"

/-- The text that describes a level. -/
def display : Level -> String
  | .targetOnly => "target only"
  | .singleHop => "single hop (level 1)"
  | .unbounded => "unbounded (level 0)"

end Level

end ContractAtlas.Crawl
