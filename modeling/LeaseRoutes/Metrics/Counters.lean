import LeaseRoutes.Decimal.Double
import LeaseRoutes.Text.Decimal
/-!
What is counted. Counters are words of 64 bits that wrap around; they are kept as the number of
events and cut to a word where they are read.
-/

namespace LeaseRoutes.Metrics

/-- The value of a counter after `n` events. -/
def reading (n : Nat) : Nat := n % Text.word64

@[simp] theorem reading_reading (n : Nat) : reading (reading n) = reading n :=
  Nat.mod_mod n Text.word64

/-- What is read of a sum depends on what is read of its parts only. -/
theorem reading_add {m m' n n' : Nat} (left : reading m = reading m')
    (right : reading n = reading n') : reading (m + n) = reading (m' + n') :=
  calc
    reading (m + n) = reading (reading m + reading n) := Nat.add_mod m n Text.word64
    _ = reading (reading m' + reading n') := by rw [left, right]
    _ = reading (m' + n') := (Nat.add_mod m' n' Text.word64).symm

/-- Counters of the route operations. The latencies of all operations are kept in order. -/
structure RouteCounters where
  applied : Nat
  removed : Nat
  failures : Nat
  noop : Nat
  skipped : Nat
  duplicates : Nat
  latencies : List Double
  deriving DecidableEq, Repr

namespace RouteCounters

def zero : RouteCounters := ⟨0, 0, 0, 0, 0, 0, []⟩

def routeApplied (c : RouteCounters) : RouteCounters := { c with applied := c.applied + 1 }

def routeRemoved (c : RouteCounters) : RouteCounters := { c with removed := c.removed + 1 }

def failure (c : RouteCounters) : RouteCounters := { c with failures := c.failures + 1 }

def benign (c : RouteCounters) : RouteCounters := { c with noop := c.noop + 1 }

def skip (c : RouteCounters) (n : Nat) : RouteCounters := { c with skipped := c.skipped + n }

def duplicate (c : RouteCounters) (n : Nat) : RouteCounters :=
  { c with duplicates := c.duplicates + n }

/-- Observes how many seconds an operation took. -/
def latency (c : RouteCounters) (seconds : Double) : RouteCounters :=
  { c with latencies := c.latencies ++ [seconds] }

/-- Puts a measured time in the place of the last latency. -/
def timed (c : RouteCounters) (seconds : Double) : RouteCounters :=
  { c with latencies := c.latencies.dropLast ++ [seconds] }

end RouteCounters

/-- Counters of the heartbeat, with the gauge that tells whether the switch is connected. -/
structure HeartbeatCounters where
  failures : Nat
  reconnections : Nat
  connected : Bool
  deriving DecidableEq, Repr

namespace HeartbeatCounters

def zero : HeartbeatCounters := ⟨0, 0, false⟩

def failure (c : HeartbeatCounters) : HeartbeatCounters :=
  { c with failures := c.failures + 1, connected := false }

def reconnection (c : HeartbeatCounters) : HeartbeatCounters :=
  { c with reconnections := c.reconnections + 1, connected := true }

end HeartbeatCounters

end LeaseRoutes.Metrics
