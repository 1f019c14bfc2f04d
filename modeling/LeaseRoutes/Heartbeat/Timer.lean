import LeaseRoutes.Heartbeat.Monitor
/-!
The timer of the heartbeat on a clock of milliseconds. The first probe is sent one interval after
the start. While a probe waits for its reply no other is sent. A probe that becomes due meanwhile
is sent at once, and if it is late by more than five milliseconds the next one is due an interval
after it. A discontinuity makes the next probe due an interval after its reply.
-/

namespace LeaseRoutes.Heartbeat

/-- One start of the timer: when its next probe is due, and the probe that is on its way, with the
time of its reply. -/
structure Round where
  number : Nat
  due : Nat
  waiting : Option (Nat × Switch.Reply)
  canceled : Bool
  deriving DecidableEq, Repr

namespace Round

/-- When something happens next, given that it is `now`. -/
def time? (r : Round) (now : Nat) : Option Nat :=
  match r.waiting with
  | some (t, _) => some t
  | none => if r.canceled then none else some (max r.due now)

end Round

/-- What happens to a timer. It is halted by a stop and by a start that is refused; a probe that is
sent and a reply that is taken in belong to the start with their number. -/
inductive Timer.Event
  | started (number time : Nat)
  | halted (time : Nat)
  | sent (number time : Nat)
  | observed (number time : Nat) (transition : Transition)
  deriving DecidableEq, Repr

/-- Replies come after a delay, in the order of a script. The listener gives up a restored
connection at once if `givesUp`. All that happened is kept, the latest first. -/
structure Timer where
  interval : Nat
  givesUp : Bool
  now : Nat
  script : List (Nat × Switch.Reply)
  rounds : List Round
  starts : Nat
  past : List Timer.Event
  monitor : Monitor
  deriving DecidableEq, Repr

namespace Timer

def fresh (interval : Nat) (givesUp : Bool) (script : List (Nat × Switch.Reply)) : Timer :=
  ⟨interval, givesUp, 0, script, [], 0, [], .fresh⟩

/-- What was sent, with its time. -/
def sent (t : Timer) : List (Nat × Rpc.Batch) :=
  t.past.reverse.filterMap fun
    | .sent _ time => some (time, probe)
    | .started .. | .halted _ | .observed .. => none

/-- How late a probe may be without moving the next one. -/
def tolerance : Nat := 5

/-- When the probe after one that was due at `due` and is sent at `now` is due. -/
def nextDue (interval due now : Nat) : Nat :=
  if due + tolerance < now then now + interval else due + interval

/-- Sends the probe of a round. -/
def send (t : Timer) (r : Round) : Round × Timer :=
  let ((delay, reply), script) := match t.script with
    | [] => ((0, Switch.Reply.failed .connection 0), [])
    | next :: rest => (next, rest)
  ({ r with due := nextDue t.interval r.due t.now, waiting := some (t.now + delay, reply) },
    { t with script := script, past := .sent r.number t.now :: t.past })

/-- Takes in the reply to the probe of a round. -/
def receive (t : Timer) (r : Round) (reply : Switch.Reply) : Round × Timer :=
  let (transition, m) := t.monitor.take reply
  let t := { t with past := .observed r.number t.now transition :: t.past }
  match transition with
  | .discontinuity =>
    ({ r with due := t.now + t.interval, waiting := none },
      { t with monitor := if t.givesUp then m.callBack else m })
  | .failed | .steady => ({ r with waiting := none }, { t with monitor := m })

/-- The first round in which something happens up to `limit`, before any other. -/
def nextRound? (now limit : Nat) : List Round → Option (Nat × Nat)
  | [] => none
  | r :: rest =>
    let later := (nextRound? now limit rest).map fun (i, t) => (i + 1, t)
    match r.time? now with
    | none => later
    | some t =>
      if limit < t then later
      else match later with
        | some (i, u) => if u < t then some (i, u) else some (0, t)
        | none => some (0, t)

/-- Lets the `i`-th round do what it does now. A canceled round ends with its last reply. -/
def act (t : Timer) (i : Nat) : Timer :=
  match t.rounds[i]? with
  | none => t
  | some r =>
    let (r, t) := match r.waiting with
      | some (_, reply) => t.receive r reply
      | none => t.send r
    if r.canceled ∧ r.waiting.isNone then { t with rounds := t.rounds.eraseIdx i }
    else { t with rounds := t.rounds.set i r }

/-- Lets things happen in the order of time, with a bound on their number. -/
def actUpTo (limit : Nat) : Nat → Timer → Timer
  | 0, t => t
  | bound + 1, t =>
    match nextRound? t.now limit t.rounds with
    | none => t
    | some (i, now) => actUpTo limit bound ({ t with now := now }.act i)

/-- Lets the clock go on. A round sends less than one probe a millisecond. -/
def advance (t : Timer) (ms : Nat) : Timer :=
  let limit := t.now + ms
  { actUpTo limit (2 * (limit + 2) * t.rounds.length) t with now := limit }

def cancel (t : Timer) : Timer :=
  { t with rounds := (t.rounds.filter fun r => r.waiting.isSome).map fun r =>
      { r with canceled := true } }

/-- A start ends what was started before, even if it is `refused` itself. -/
def start (t : Timer) (refused : Bool) : Timer :=
  let t := { t.cancel with monitor := t.monitor.restart }
  if refused then { t with past := .halted t.now :: t.past }
  else
    { t with
      rounds := t.rounds ++ [⟨t.starts, t.now + t.interval, none, false⟩]
      starts := t.starts + 1
      past := .started t.starts t.now :: t.past }

def stop (t : Timer) : Timer := { t.cancel with past := .halted t.now :: t.past }

/-- Starts the timer on the workers of the monitor's own client. -/
def startOwn (own : Option Pool) (t : Timer) : Except Http.Refusal (Pool × Timer) :=
  (Monitor.startWorkers own).map fun workers => (workers, t.start !workers.takes)

/-- The timer starts just if its monitor does, and on the same workers. -/
theorem startOwn_monitor (own : Option Pool) (t : Timer) :
    (t.startOwn own).map (fun s => (s.1, s.2.monitor)) = t.monitor.start own := by
  cases own <;> rfl

end Timer

end LeaseRoutes.Heartbeat
