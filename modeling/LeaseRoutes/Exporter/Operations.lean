import LeaseRoutes.Exporter.State

namespace LeaseRoutes

open Switch

/-- How far an operation has come. A reply may be there that nobody has looked at yet. -/
inductive Progress
  | waiting
  | ready (s : Stage)
  | asked (s : Stage) (r : Reply)
  | ended (s : Stage)
  deriving DecidableEq, Repr

/-- An operation under way, with the batches that it has sent. -/
structure Operation where
  intent : Intent
  direction : Direction
  progress : Progress
  sent : List Rpc.Batch
  deriving DecidableEq, Repr

namespace Exporter

variable {σ : Type}

/-- Counts the reply to the request of a stage. -/
def received (x : Exporter σ) (s : Stage) (r : Reply) : Exporter σ :=
  match s with
  | .change c => x.count (judged c r)
  | _ => x

/-- A step is a request and what is made of its reply. -/
theorem step_of_request (channel : Channel σ) (x : Exporter σ) {s : Stage} {b : Rpc.Batch}
    (h : s.request = some b) :
    x.step channel s =
      (s.next (x.send channel b).1, (x.send channel b).2.received s (x.send channel b).1) := by
  cases s <;> simp only [step, h, received]

end Exporter

namespace Operation

variable {σ : Type} (channel : Channel σ) (store : LeaseStore)

def start (i : Intent) (d : Direction) : Operation := ⟨i, d, .waiting, []⟩

/-- One turn plans the operation, sends the request of a stage, looks at the reply, or counts the
operation once it has ended. -/
def turn (o : Operation) (x : Exporter σ) : Operation × Exporter σ :=
  match o.progress with
  | .waiting =>
    let (s, x) := x.plan store o.intent o.direction
    ({ o with progress := .ready s }, x)
  | .ready s =>
    match s.request with
    | some b =>
      let (r, x) := x.send channel b
      ({ o with progress := .asked s r, sent := o.sent ++ [b] }, x)
    | none => ({ o with progress := .ended s }, x.finish s)
  | .asked s r => ({ o with progress := .ready (s.next r) }, x.received s r)
  | .ended _ => (o, x)

end Operation

/-- An exporter and all operations that share it. -/
structure Crew (σ : Type) where
  exporter : Exporter σ
  operations : List Operation

namespace Crew

variable {σ : Type} (channel : Channel σ) (store : LeaseStore)

def start (switch : σ) (ops : List (Intent × Direction)) : Crew σ where
  exporter := .fresh switch
  operations := ops.map fun o => .start o.1 o.2

/-- Gives the `k`-th operation a turn. -/
def turn (c : Crew σ) (k : Nat) : Crew σ :=
  match c.operations[k]? with
  | some o =>
    let (o, x) := o.turn channel store c.exporter
    ⟨x, c.operations.set k o⟩
  | none => c

/-- Gives turns in the order of a schedule. -/
def run (c : Crew σ) (schedule : List Nat) : Crew σ := schedule.foldl (turn channel store) c

end Crew

end LeaseRoutes
