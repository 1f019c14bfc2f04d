import LeaseRoutes.Http.Client
import LeaseRoutes.Metrics.Counters
import LeaseRoutes.Switch.Command
import LeaseRoutes.Table.Uptime
/-!
What is remembered between two probes of the switch, and the monitor that sends them. A probe that
fails loses the connection. The first good probe after a loss, or one whose uptime has gone
backwards, is a discontinuity: the switch may have forgotten its routes.
-/

namespace LeaseRoutes.Heartbeat

def probe : Rpc.Batch := .single Switch.showVersion

/-- What a probe tells: the uptime in seconds, or why there is none. -/
def outcome (r : Switch.Reply) : Except Switch.Fault UInt64 :=
  (r.output Uptime.output).map Uptime.total

structure State where
  previous : UInt64
  lost : Bool
  deriving DecidableEq, Repr

inductive Transition
  | failed
  | discontinuity
  | steady
  deriving DecidableEq, Repr

namespace State

/-- The connection counts as lost until the first good probe. -/
def initial : State := ⟨0, true⟩

def lose (s : State) : State := { s with lost := true }

/-- Takes in a probe; `none` is one that failed. After a discontinuity the next uptime is compared
with zero. -/
def observe (s : State) : Option UInt64 → State × Transition
  | none => (s.lose, .failed)
  | some uptime =>
    if s.lost ∨ uptime < s.previous then (⟨0, false⟩, .discontinuity)
    else (⟨uptime, false⟩, .steady)

end State

/-! ## Monitors -/

/-- What the listeners are told. -/
inductive Notice
  | restored
  | failed
  deriving DecidableEq, Repr

def Notice.name : Notice → String
  | .restored => "restored"
  | .failed => "failed"

structure Monitor where
  state : State
  counters : Metrics.HeartbeatCounters
  notices : List Notice
  deriving DecidableEq, Repr

namespace Monitor

def fresh : Monitor := ⟨.initial, .zero, []⟩

def failed (m : Monitor) : Monitor :=
  { m with counters := m.counters.failure, notices := m.notices ++ [.failed] }

/-- The callback of a listener. -/
def callBack (m : Monitor) : Monitor := { m with state := m.state.lose }.failed

/-- Takes in the reply to a probe. -/
def take (m : Monitor) (r : Switch.Reply) : Transition × Monitor :=
  let (state, transition) := m.state.observe (outcome r).toOption
  let m := { m with state := state }
  (transition, match transition with
    | .failed => m.failed
    | .discontinuity =>
      { m with counters := m.counters.reconnection, notices := m.notices ++ [.restored] }
    | .steady => m)

/-- Starting anew forgets what was observed. -/
def restart (m : Monitor) : Monitor := { m with state := .initial }

/-- The workers of a monitor's own client, once they are started. A monitor that probes over the
client of somebody else has none, and nothing is started. -/
def startWorkers : Option Pool → Except Http.Refusal Pool
  | some workers => .ok workers.start
  | none => .error .stopped

/-- Starts the monitor on its own workers. -/
def start (own : Option Pool) (m : Monitor) : Except Http.Refusal (Pool × Monitor) :=
  (startWorkers own).map fun workers => (workers, m.restart)

end Monitor

end LeaseRoutes.Heartbeat
