import LeaseRoutes.Http.Request
import LeaseRoutes.Switch.Reply

namespace LeaseRoutes

/-- The workers of a connection. Work is taken only while they run; starting and stopping them twice
is the same as once. -/
structure Pool where
  size : Nat
  running : Bool
  deriving DecidableEq, Repr

namespace Pool

/-- Said when work is given to workers that do not run. -/
def stoppedMessage : String := "worker pool is stopped"

/-- A pool has one worker at least. -/
def ofSize (n : Nat) : Pool := ⟨max n 1, false⟩

/-- A pool without threads has one worker. -/
def threaded (multi : Bool) (n : Nat) : Pool := ofSize (if multi then n else 1)

def start (p : Pool) : Pool := { p with running := true }

def stop (p : Pool) : Pool := { p with running := false }

/-- Whether work is taken. -/
def takes (p : Pool) : Bool := p.running

end Pool

end LeaseRoutes

namespace LeaseRoutes.Http

open Switch (Reply)

/-- What comes of single requests. -/
structure Network (σ : Type) where
  exchange : σ → Request → Outcome × σ

namespace Network

/-- A network in which no server can be reached. -/
def unreachable : Network σ where
  exchange s _ := (.error .connection, s)

/-- Sends a request and follows the given number of redirects at most. -/
def post (network : Network σ) : Nat → Request → σ → Reply × σ
  | redirects, r, s =>
    let (outcome, s) := network.exchange s r
    match r.next outcome, redirects with
    | .reply x, _ => (x, s)
    | .request _, 0 => (.failed .redirects 0, s)
    | .request r, redirects + 1 => network.post redirects r s

end Network

/-- Why a batch is not sent at all. -/
inductive Refusal
  | tls
  | target (e : UrlFault)
  | stopped
  deriving DecidableEq, Repr

namespace Refusal

def message : Refusal → String
  | .tls => "TLS connections are not implemented"
  | .target e => (ConfigFault.wrongTarget e).message
  | .stopped => Pool.stoppedMessage

/-- The reply to a batch that is not sent. -/
def reply : Refusal → Reply
  | .tls => .failed .tlsConnection 0
  | .target _ | .stopped => .failed .canceled 0

end Refusal

structure Client where
  url : Url
  credentials : Option Credentials
  pool : Pool
  deriving DecidableEq, Repr

namespace Client

/-- Where the switch takes batches. -/
def endpoint : String := "/ins"

def redirectLimit : Nat := 10

def ofConnection (c : Connection) : Client :=
  ⟨c.url, some c.credentials, .threaded c.multiThreaded c.poolSize⟩

/-- The request that takes a batch to a path; `none` if the path leads away from the web or to an
address that cannot be requested. -/
def request (c : Client) (path : String) (b : Rpc.Batch) : Except Refusal (Option Request) :=
  if c.url.secure then .error .tls
  else match c.url.join path with
    | .error e => .error (.target e)
    | .ok target =>
      if c.pool.takes then
        .ok ((target.filter isRequestable).map fun u =>
          ⟨.post, u, c.credentials.map authorization, some b.wire⟩)
      else .error .stopped

/-- Sends a batch to a path. -/
def send (c : Client) (network : Network σ) (path : String) (b : Rpc.Batch) (s : σ) :
    Except Refusal Reply × σ :=
  match c.request path b with
  | .error e => (.error e, s)
  | .ok none => (.ok (.failed .unknown 0), s)
  | .ok (some r) =>
    let (reply, s) := network.post redirectLimit r s
    (.ok reply, s)

/-- The way to the switch over a network. -/
def channel (c : Client) (network : Network σ) : Switch.Channel σ where
  exchange s b :=
    match c.send network endpoint b s with
    | (.ok reply, s) => (reply, s)
    | (.error e, s) => (e.reply, s)

end Client

/-- Outcomes that are supplied from outside, one after the other: those that are left, and the first
request that had none. What asks for more than there are is done again once the next outcome is
known. -/
structure Dialogue where
  outcomes : List Outcome
  asked : Option Request

namespace Dialogue

def start (outcomes : List Outcome) : Dialogue := ⟨outcomes, none⟩

def network : Network Dialogue where
  exchange d r :=
    match d.outcomes with
    | o :: rest => (o, { d with outcomes := rest })
    | [] => (.error .connection, { d with asked := d.asked.or (some r) })

end Dialogue

end LeaseRoutes.Http
