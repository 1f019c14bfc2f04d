import LeaseRoutes.Metrics.Counters
import LeaseRoutes.Resync
import LeaseRoutes.Switch.Reply
import LeaseRoutes.Switch.Pipeline
/-!
The exporter: route operations, surveys and resyncs that are queued and run one after the other,
first in, first out. Work may be refused when it is submitted, and running work may submit more.
-/

namespace LeaseRoutes

/-- Queued work. A survey reports its map and a resync applies all leases over it. -/
inductive Job
  | route (i : Intent) (d : Switch.Direction)
  | survey
  | resync
  deriving DecidableEq, Repr

/-- The queue takes the `n`-th piece of work that is offered if `accepts n`. Everything that was
sent is kept, and so are the maps of the surveys and the number of resyncs that failed. -/
structure Exporter (σ : Type) where
  switch : σ
  sent : List Rpc.Batch
  counters : Metrics.RouteCounters
  queue : List Job
  accepts : Nat → Bool
  offered : Nat
  surveys : List (Except Switch.Fault Switch.HardwareMap)
  failures : Nat

namespace Exporter

variable {σ : Type} (channel : Switch.Channel σ) (store : LeaseStore)

/-- An exporter that has done nothing and whose queue takes everything. -/
def fresh (switch : σ) : Exporter σ where
  switch := switch
  sent := []
  counters := .zero
  queue := []
  accepts := fun _ => true
  offered := 0
  surveys := []
  failures := 0

/-- Takes or refuses all work from now on. -/
def accept (x : Exporter σ) (value : Bool) : Exporter σ := { x with accepts := fun _ => value }

def send (x : Exporter σ) (b : Rpc.Batch) : Switch.Reply × Exporter σ :=
  let (reply, switch) := channel.exchange x.switch b
  (reply, { x with switch := switch, sent := x.sent ++ [b] })

def count (x : Exporter σ) (f : Metrics.RouteCounters → Metrics.RouteCounters) : Exporter σ :=
  { x with counters := f x.counters }

/-- Offers work to the queue and says whether it was taken. -/
def submit (x : Exporter σ) (job : Job) : Bool × Exporter σ :=
  let taken := x.accepts x.offered
  (taken, { x with
    queue := if taken then x.queue ++ [job] else x.queue
    offered := x.offered + 1 })

/-- Counts the reply to a change. -/
def judged (c : Switch.Change) (r : Switch.Reply) (counters : Metrics.RouteCounters) :
    Metrics.RouteCounters :=
  match r.judge, c.direction with
  | .ok .success, .apply => counters.routeApplied
  | .ok .success, .remove => counters.routeRemoved
  | .ok .benign, _ => counters.benign
  | .error _, _ => counters

/-- Plans an intent. -/
def plan (x : Exporter σ) (i : Intent) (d : Switch.Direction) : Switch.Stage × Exporter σ :=
  (.plan store i d,
    x.count fun c => c.duplicate (if Switch.Stage.ambiguous store i d then 1 else 0))

/-- Sends what a stage asks for and goes to the next stage. -/
def step (x : Exporter σ) (s : Switch.Stage) : Switch.Stage × Exporter σ :=
  match s.request with
  | none => (s, x)
  | some b =>
    let (reply, x) := x.send channel b
    (s.next reply, match s with
      | .change c => x.count (judged c reply)
      | _ => x)

theorem rank_step_lt (x : Exporter σ) {s : Switch.Stage} (h : s.terminal = false) :
    (x.step channel s).1.rank < s.rank := by
  cases s with
  | lookup | change => exact Switch.Stage.rank_next_lt _ h
  | done | failed => simp [Switch.Stage.terminal] at h

/-- Goes on from stage to stage to the last one. -/
def settle (x : Exporter σ) (s : Switch.Stage) : Switch.Stage × Exporter σ :=
  if h : s.terminal then (s, x)
  else
    have := rank_step_lt channel x (Bool.eq_false_iff.2 h)
    settle (x.step channel s).2 (x.step channel s).1
termination_by s.rank

/-- Counts an operation that has ended. Time is not measured here. -/
def finish (x : Exporter σ) (s : Switch.Stage) : Exporter σ :=
  x.count fun c =>
    match s with
    | .failed _ => (c.latency Double.zero).failure
    | _ => c.latency Double.zero

/-- Runs one intent to its end. -/
def run (x : Exporter σ) (i : Intent) (d : Switch.Direction) : Switch.Stage × Exporter σ :=
  let (s, x) := x.plan store i d
  let (s, x) := x.settle channel s
  (s, x.finish s)

/-- Asks the switch where its neighbors are. -/
def survey (x : Exporter σ) : Except Switch.Fault Switch.HardwareMap × Exporter σ :=
  let (reply, x) := x.send channel Switch.surveyBatch
  (Switch.surveyed reply, x)

/-- The intents of a resync over a map, and what became of the leases. -/
def planResync (x : Exporter σ) (map : Switch.HardwareMap) :
    (List Intent × Resync.Report) × Exporter σ :=
  ((Resync.intents store map, Resync.report store map),
    x.count fun c => c.duplicate (Resync.ambiguities store))

/-- Submits every intent of a resync. -/
def resync (x : Exporter σ) (map : Switch.HardwareMap) : Resync.Report × Exporter σ :=
  let ((intents, report), x) := x.planResync store map
  let x := intents.foldl (fun x i => (x.submit (.route i .apply)).2) x
  (report, x.count fun c => c.skip report.skipped)

def failed (x : Exporter σ) : Exporter σ := { x with failures := x.failures + 1 }

/-- The connection is back: everything is asserted anew. -/
def restored (x : Exporter σ) : Exporter σ :=
  let (taken, x) := x.submit .resync
  if taken then x else x.failed

def runJob (x : Exporter σ) : Job → Exporter σ
  | .route i d => (x.run channel store i d).2
  | .survey =>
    let (map, x) := x.survey channel
    { x with surveys := x.surveys ++ [map] }
  | .resync =>
    match x.survey channel with
    | (.ok map, x) => (x.resync store map).2
    | (.error _, x) => x.failed

/-- Runs the first job of the queue. -/
def runFirst (x : Exporter σ) : Exporter σ :=
  match x.queue with
  | [] => x
  | job :: rest => runJob channel store { x with queue := rest } job

/-- The number of jobs that one job stands for: a resync may submit one for every lease. -/
def weight : Job → Nat
  | .route .. | .survey => 1
  | .resync => 1 + store.size

def load : List Job → Nat
  | [] => 0
  | job :: rest => weight store job + load rest

/-- Runs jobs until none is left, with a bound on their number. Says how many there were. -/
def drainUpTo : Nat → Exporter σ → Nat × Exporter σ
  | 0, x => (0, x)
  | bound + 1, x =>
    if x.queue.isEmpty then (0, x)
    else
      let (ran, x) := drainUpTo bound (x.runFirst channel store)
      (ran + 1, x)

/-- Runs all jobs, those included that are submitted meanwhile. -/
def drain (x : Exporter σ) : Nat × Exporter σ :=
  drainUpTo channel store (load store x.queue) x

end Exporter

end LeaseRoutes
