import LeaseRoutes.Intent
import LeaseRoutes.Rpc.Batch
import LeaseRoutes.Rpc.Response
import LeaseRoutes.Table.Output

namespace LeaseRoutes.Switch

/-- Why there was no complete exchange. -/
inductive TransportFault
  | connection
  | bindAddress
  | read
  | write
  | redirects
  | canceled
  | tlsConnection
  | tlsCertificates
  | tlsVerification
  | multipartBoundary
  | compression
  | timeout
  | proxy
  | unknown
  deriving DecidableEq, Repr

def TransportFault.message : TransportFault → String
  | .connection => "could not establish connection"
  | .bindAddress => "failed to bind IP address"
  | .read => "failed to read connection"
  | .write => "failed to write connection"
  | .redirects => "maximum redirect count exceeded"
  | .canceled => "connection handling canceled"
  | .tlsConnection => "TLS connection failed"
  | .tlsCertificates => "TLS certificate loading failed"
  | .tlsVerification => "TLS server verification failed"
  | .multipartBoundary => "unsupported HTTP multipart boundary characters"
  | .compression => "compression failed"
  | .timeout => "connection timeout"
  | .proxy => "proxy connection failed"
  | .unknown => "unknown"

/-- A reply to one batch. The status is 0 if there was no response. -/
structure Reply where
  transport : Option TransportFault
  status : Nat
  results : List Rpc.Response
  exception : Option Rpc.Exception
  deriving DecidableEq, Repr

/-- Why an operation on the switch was given up. -/
inductive Fault
  | transport (e : TransportFault)
  | rpc (e : Rpc.Exception)
  | unauthorized
  | emptyResponse
  | status (n : Nat)
  | output (e : OutputFault)
  | unsupported (p : Payload)
  deriving DecidableEq, Repr

def Fault.message : Fault → String
  | .transport e => "transport error: " ++ e.message
  | .rpc e => "rpc error: " ++ e.text
  | .unauthorized => "unauthorized"
  | .emptyResponse => "empty response"
  | .status n => "unexpected HTTP status " ++ Text.decimal n
  | .output e => "malformed response: " ++ e.message
  | .unsupported p => "unsupported intent: " ++ p.text ++ " cannot be applied"

/-- A switch that finds nothing to change answers with the status 500. -/
inductive Verdict
  | success
  | benign
  deriving DecidableEq, Repr

namespace Reply

/-- The exchange failed; `status` is that of the response whose body could not be read. -/
def failed (e : TransportFault) (status : Nat) : Reply := ⟨some e, status, [], none⟩

/-- The reply that a response with this body makes. -/
def ofBody (status : Nat) (body : String) : Reply :=
  let decoded :=
    if body.isEmpty then .error (.internal "no body found in the response") else Rpc.decode body
  match decoded with
  | .ok results => ⟨none, status, results, none⟩
  | .error e => ⟨none, status, [], some e⟩

/-- Judges the reply to a command that changes a route. -/
def judge (r : Reply) : Except Fault Verdict :=
  match r.transport with
  | some e => .error (.transport e)
  | none =>
    if r.status = 500 then .ok .benign
    else match r.exception with
      | some e =>
        if r.status = 200 ∧ !r.results.isEmpty then .ok .success else .error (.rpc e)
      | none =>
        if r.status = 401 then .error .unauthorized
        else if r.results.isEmpty then .error .emptyResponse
        else .ok .success

/-- The result of a lookup. Only a clean reply with the status 200 has one. -/
def lookup (r : Reply) : Except Fault Rpc.Response :=
  match r.transport, r.exception with
  | some e, _ => .error (.transport e)
  | none, some e => .error (.rpc e)
  | none, none =>
    if r.status = 200 then
      match r.results with
      | result :: _ => .ok result
      | [] => .error .emptyResponse
    else if r.status = 401 then .error .unauthorized
    else .error (.status r.status)

/-- The output of the command that was looked up. -/
def output (o : Output α) (r : Reply) : Except Fault α := do
  let response ← r.lookup
  match o.parse response.result with
  | .ok a => .ok a
  | .error e => .error (.output e)

theorem output_of_parsed {o : Output α} {r : Reply} {x : Rpc.Response} {a : α}
    (accepted : r.lookup = .ok x) (parsed : o.parse x.result = .ok a) : r.output o = .ok a := by
  simp [output, accepted, parsed, bind, Except.bind]

theorem output_of_unparsed {o : Output α} {r : Reply} {x : Rpc.Response} {e : OutputFault}
    (accepted : r.lookup = .ok x) (unparsed : o.parse x.result = .error e) :
    r.output o = .error (.output e) := by
  simp [output, accepted, unparsed, bind, Except.bind]

theorem output_of_refused (o : Output α) {r : Reply} {e : Fault} (refused : r.lookup = .error e) :
    r.output o = .error e := by
  simp [output, refused, bind, Except.bind]

end Reply

/-! ## Ways to a switch -/

structure Channel (σ : Type) where
  exchange : σ → Rpc.Batch → Reply × σ

namespace Channel

/-- Replies in the order of a script. When it is exhausted no connection can be made. -/
def scripted : Channel (List Reply) where
  exchange
    | [], _ => (.failed .connection 0, [])
    | r :: rest, _ => (r, rest)

/-- The same failure for every batch. -/
def failing (e : TransportFault) : Channel σ where
  exchange s _ := (.failed e 0, s)

/-- A switch whose reply depends on the batch alone. -/
def answering (answer : Rpc.Batch → Reply) : Channel Unit where
  exchange s b := (answer b, s)

end Channel

end LeaseRoutes.Switch
