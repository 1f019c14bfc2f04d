import LeaseRoutes.Daemon.Run
import LeaseRoutes.Heartbeat.Timer
import LeaseRoutes.Http.Client
import LeaseRoutes.Http.Message
import Std.Async.DNS
import Std.Async.TCP
import Std.Async.Timer
/-!
The program. Events come from standard input, the switch is reached over the network, and what
happens is told on standard error. Secure connections cannot be made.
-/

namespace LeaseRoutes.Main

open Http Std.Async Std.Net

/-! ## Connections -/

/-- The result of an action, or nothing if it takes longer than the milliseconds. -/
def within (ms : Nat) (act : Async α) : Async (Option α) :=
  Async.race (do return some (← act)) (do
    sleep (Std.Time.Millisecond.Offset.ofNat ms)
    return none)

/-- The host without the brackets of an address. -/
def hostName (u : Url) : String :=
  String.ofList (u.host.toList.filter fun c => c != '[' && c != ']')

def address (number : UInt16) : IPAddr → SocketAddress
  | .v4 a => .v4 ⟨a, number⟩
  | .v6 a => .v6 ⟨a, number⟩

/-- Connects to the first address that answers. -/
def connect (number : UInt16) : List IPAddr → Async (Option TCP.Socket.Client)
  | [] => return none
  | a :: rest => do
    let socket ← TCP.Socket.Client.mk
    try
      socket.connect (address number a)
      return some socket
    catch _ => connect number rest

/-- Receives until the outcome is known. -/
partial def receive (socket : TCP.Socket.Client) (received : ByteArray) : Async Outcome := do
  let (ended, received) ← try
      match ← socket.recv? 65536 with
      | some bytes => pure (false, received ++ bytes)
      | none => pure (true, received)
    catch _ => pure (true, received)
  match Response.ofBytes? ended received.toList with
  | some outcome => return outcome
  | none => if ended then return .error .read else receive socket received

def fetch (r : Request) : Async Outcome := do
  if r.url.secure then return .error .connection
  let addresses ← try DNS.getAddrInfo (hostName r.url) "" catch _ => pure #[]
  match ← connect (UInt16.ofNat r.url.connectedNumber) addresses.toList with
  | none => return .error .connection
  | some socket =>
    try
      socket.send r.text.toUTF8
      receive socket .empty
    catch _ => return .error .write

/-- What comes of a request within the milliseconds. -/
def exchange (ms : Nat) (r : Request) : IO Outcome := do
  return ((← (within ms (fetch r)).block).getD (.error .timeout))

/-! ## The process -/

abbrev Process := Daemon Dialogue

/-- The process with these outcomes at hand. -/
def supply (outcomes : List Outcome) (d : Process) : Process :=
  { d with
    service.watch.exporter.switch := .start outcomes
    service.watch.exporter.sent := [] }

/-- Takes a step, and takes it anew with the outcome of each request that it asks for. -/
partial def settle (ask : Request → IO Outcome) (step : Process → Process) (d : Process)
    (outcomes : List Outcome) : IO Process := do
  let next := step (supply outcomes d)
  match next.service.watch.exporter.switch.asked with
  | none => return next
  | some r => settle ask step d (outcomes ++ [← ask r])

/-- Does the first piece of work and measures its time. -/
def work (c : Connection) (job : Job) (d : Process) : IO Process := do
  let start ← IO.monoNanosNow
  let d ← settle (exchange (c.timeout * 1000)) (Daemon.workFirst Dialogue.network) d []
  let seconds := Double.ofFloat (((← IO.monoNanosNow) - start).toFloat / 1e9)
  match job with
  | .route .. => return { d with
      service.watch.exporter.counters := d.service.watch.exporter.counters.timed seconds }
  | .survey | .resync => return d

/-- Probes the switch and tells what the probe has changed. -/
def probe (c : Connection) (d : Process) : IO Process := do
  let ms := min c.timeout c.heartbeat * 1000
  let d ← settle (exchange ms) (Daemon.tick Dialogue.network) d []
  for notice in d.service.watch.monitor.elim [] Heartbeat.Monitor.notices do
    IO.eprintln s!"{c.url.text}: connection {notice.name}"
  return { d with
    service.watch.monitor := d.service.watch.monitor.map fun m => { m with notices := [] } }

/-- Takes a line and tells if it is malformed. -/
def take (d : Process) (line : String) : IO Process := do
  let next := d.take line
  if d.malformed.length < next.malformed.length then
    IO.eprintln s!"line {next.lines}: skipping malformed event"
  return next

/-- Reads lines until the input ends, which `none` stands for. -/
partial def readLines (input : IO.FS.Stream) (lines : IO.Ref (Array (Option String))) :
    IO Unit := do
  let line ← try input.getLine catch _ => pure ""
  if line.isEmpty then lines.modify (·.push none)
  else
    lines.modify (· ++ (Daemon.linesOf line).map some)
    readLines input lines

/-- Runs until the input ends: a probe that is due comes first, then queued work, then lines. -/
partial def serve (c : Connection) (input : IO.Ref (Array (Option String))) (due : Nat)
    (lines : List (Option String)) (d : Process) : IO Process := do
  let now ← IO.monoMsNow
  let interval := c.heartbeat * 1000
  if due ≤ now then
    let before := d.service.watch.monitor.elim 0 fun m => m.counters.reconnections
    let d ← probe c d
    let after := d.service.watch.monitor.elim 0 fun m => m.counters.reconnections
    let due ← if before < after then pure ((← IO.monoMsNow) + interval)
      else pure (Heartbeat.Timer.nextDue interval due now)
    serve c input due lines d
  else match d.service.watch.exporter.queue, lines with
    | job :: _, lines => serve c input due lines (← work c job d)
    | [], some line :: lines => serve c input due lines (← take d line)
    | [], none :: _ => return d
    | [], [] =>
      let lines ← input.modifyGet fun lines => (lines.toList, #[])
      if lines.isEmpty then IO.sleep 5
      serve c input due lines d

/-- The text of a file, or the reason why it cannot be read. -/
def readFile (path : String) : IO (Except String String) := do
  try
    return .ok (← IO.FS.readFile path)
  catch e => match e with
    | .noFileOrDirectory .. => return .error ConfigFile.missing
    | e => return .error (toString e)

def failed (e : StartFault) : IO UInt32 := do
  IO.eprintln s!"Error: {e.message}"
  if let some cause := e.cause then IO.eprintln s!"\nCaused by:\n    {cause}"
  return 1

def start (o : Options) : IO UInt32 := do
  let config ← readFile o.config
  let leases ← readFile o.leases
  match Daemon.load (fun path => if path = o.config then config else leases) o with
  | .error e => failed e
  | .ok (c, store) =>
    IO.eprintln s!"{store.size} leases loaded"
    match Daemon.start c store (.start []) with
    | .error e => failed e
    | .ok d =>
      let lines ← IO.mkRef #[]
      let reader ← IO.asTask (readLines (← IO.getStdin) lines) .dedicated
      let d ← serve c lines ((← IO.monoMsNow) + c.heartbeat * 1000) [] d
      let _ ← IO.wait reader
      IO.eprintln s!"{d.queued} operations queued"
      IO.print (d.farewell o)
      return 0

end LeaseRoutes.Main

open LeaseRoutes in
def main (args : List String) : IO UInt32 := do
  match Invocation.ofArguments args with
  | .run o => LeaseRoutes.Main.start o
  | .help => IO.print Invocation.helpText; return 0
  | .version => IO.print Invocation.versionText; return 0
  | .misuse => IO.eprint Invocation.helpText; return 2
