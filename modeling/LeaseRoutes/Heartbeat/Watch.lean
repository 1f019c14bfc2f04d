import LeaseRoutes.Exporter.State
import LeaseRoutes.Heartbeat.Monitor

namespace LeaseRoutes.Heartbeat

/-- What is done when the connection is restored. -/
inductive Restoration
  | nothing
  | giveUp
  | resync
  deriving DecidableEq, Repr

/-- An exporter under the watch of a monitor that probes the same switch. A monitor that was dropped
does not hear callbacks any more. -/
structure Watch (σ : Type) where
  exporter : Exporter σ
  monitor : Option Monitor

namespace Watch

variable {σ : Type} (channel : Switch.Channel σ) (store : LeaseStore)

def fresh (switch : σ) : Watch σ := ⟨.fresh switch, some .fresh⟩

def callBack (w : Watch σ) : Watch σ := { w with monitor := w.monitor.map Monitor.callBack }

/-- The exporter goes on; each resync that fails meanwhile calls back. -/
def advance (w : Watch σ) (x : Exporter σ) : Watch σ :=
  (x.failures - w.exporter.failures).repeat callBack { w with exporter := x }

/-- Probes the switch. -/
def tick (restoration : Restoration) (w : Watch σ) : Option Transition × Watch σ :=
  match w.monitor with
  | none => (none, w)
  | some m =>
    let (reply, x) := w.exporter.send channel probe
    let (transition, m) := m.take reply
    let w : Watch σ := ⟨x, some m⟩
    (some transition, match transition, restoration with
      | .discontinuity, .resync => w.advance w.exporter.restored
      | .discontinuity, .giveUp => w.callBack
      | _, _ => w)

/-- Runs the first job of the exporter's queue. -/
def runFirst (w : Watch σ) : Watch σ := w.advance (w.exporter.runFirst channel store)

/-- Runs the exporter's queue. -/
def drain (w : Watch σ) : Nat × Watch σ :=
  let (ran, x) := w.exporter.drain channel store
  (ran, w.advance x)

def restart (w : Watch σ) : Watch σ := { w with monitor := w.monitor.map Monitor.restart }

end Watch

end LeaseRoutes.Heartbeat
