import LeaseRoutes.Heartbeat.Watch
import LeaseRoutes.Http.Client
import LeaseRoutes.Lease.Consequence
import LeaseRoutes.Metrics.Exposition
/-!
The service keeps one switch in line with the leases. While it runs, the routes that follow from
events are queued and the switch is probed; every discontinuity brings a resync.
-/

namespace LeaseRoutes

/-- Submits what follows from an event and says whether that was taken. An event that has no
consequence for the routes, or none that can be carried out, is passed over. -/
def Exporter.handle (store : LeaseStore) (x : Exporter σ) (e : LeaseEvent) : Bool × Exporter σ :=
  let x := x.count fun c => c.duplicate (if e.ambiguous store then 1 else 0)
  match e.consequence store with
  | .ok (some (i, d)) => x.submit (.route i d)
  | .ok none | .error _ => (false, x)

/-- The queue takes work exactly while the workers of the client run. -/
structure Service (σ : Type) where
  client : Http.Client
  store : LeaseStore
  watch : Heartbeat.Watch σ

namespace Service

open Heartbeat Http

def fresh (c : Connection) (store : LeaseStore) (s : σ) : Service σ :=
  ⟨.ofConnection c, store, ⟨(Exporter.fresh s).accept false, some .fresh⟩⟩

def running (s : Service σ) : Bool := s.client.pool.running

/-- Starts the workers and the heartbeat, which remembers nothing. -/
def start (s : Service σ) : Except Refusal (Service σ) :=
  if s.client.url.secure then .error .tls
  else if s.running then .ok s
  else .ok { s with
    client.pool := s.client.pool.start
    watch := { s.watch with exporter := s.watch.exporter.accept true }.restart }

/-- Stops the workers. Work that was not done is dropped. -/
def stop (s : Service σ) : Service σ :=
  if s.running then { s with
    client.pool := s.client.pool.stop
    watch.exporter := { s.watch.exporter.accept false with queue := [] } }
  else s

def handle (s : Service σ) (e : LeaseEvent) : Bool × Service σ :=
  let (taken, x) := s.watch.exporter.handle s.store e
  (taken, { s with watch.exporter := x })

/-- Probes the switch. -/
def tick (network : Network σ) (s : Service σ) : Service σ :=
  { s with watch := (s.watch.tick (s.client.channel network) .resync).2 }

/-- Does the first piece of work that is queued. -/
def workFirst (network : Network σ) (s : Service σ) : Service σ :=
  { s with watch := s.watch.runFirst (s.client.channel network) s.store }

/-- Does all work that is queued. -/
def work (network : Network σ) (s : Service σ) : Service σ :=
  { s with watch := (s.watch.drain (s.client.channel network) s.store).2 }

/-- The metrics as text. -/
def exposition (s : Service σ) : String :=
  Metrics.exposition s.watch.exporter.counters
    (s.watch.monitor.elim .zero Monitor.counters)

end Service

end LeaseRoutes
