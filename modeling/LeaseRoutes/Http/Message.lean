import LeaseRoutes.Http.Request
import LeaseRoutes.Text.Class

namespace LeaseRoutes.Http

open Switch (TransportFault)

namespace Request

/-- The fields of the head. The connection is used for one request only. -/
def fields (r : Request) : List (String × String) :=
  let number := r.url.portNumber.elim "" fun n => ":" ++ Text.decimal n
  [("host", r.url.host ++ number), ("accept", "*/*"), ("connection", "close")] ++
  (r.authorization.elim [] fun a => [("authorization", a)]) ++
  (r.body.elim [] fun b =>
    [("content-type", contentType), ("content-length", Text.decimal b.utf8ByteSize)])

def text (r : Request) : String :=
  r.method.name ++ " " ++ r.url.path ++ (r.url.query.elim "" ("?" ++ ·)) ++ " HTTP/1.1\r\n" ++
  String.join (r.fields.map fun (name, value) => name ++ ": " ++ value ++ "\r\n") ++ "\r\n" ++
  r.body.getD ""

end Request

/-- How the end of a body is found. -/
inductive Framing
  | length (n : Nat)
  | chunks
  | connection
  deriving DecidableEq, Repr

/-- The bytes up to a line break and those after it; `seen` are those before, the last first. -/
def lineAt (seen : List UInt8) : List UInt8 → Option (List UInt8 × List UInt8)
  | 13 :: 10 :: rest => some (seen.reverse, rest)
  | b :: rest => lineAt (b :: seen) rest
  | [] => none

/-- The number at the start of a chunk. What follows a semicolon does not count. -/
def chunkSize? (line : List UInt8) : Option Nat :=
  let ds := Text.trim ((Text.ofUtf8Lossy line).takeWhile (· != ';'))
  if ds.isEmpty then none else Text.hexNat? 0 ds

/-- The bytes of all chunks, given a bound on their number; `none` if the last is missing. -/
def chunksAt : Nat → List UInt8 → Option (List UInt8)
  | 0, _ => none
  | bound + 1, bs => do
    let (line, rest) ← lineAt [] bs
    let size ← chunkSize? line
    if size = 0 then return []
    guard (size + 2 ≤ rest.length)
    return rest.take size ++ (← chunksAt bound (rest.drop (size + 2)))

/-- The body, once it is known: it is complete, or the connection has ended too early. -/
def Framing.body? (f : Framing) (ended : Bool) (bs : List UInt8) :
    Option (Except TransportFault (List UInt8)) :=
  let body := match f with
    | .length n => if n ≤ bs.length then some (bs.take n) else none
    | .chunks => chunksAt bs.length bs
    | .connection => if ended then some bs else none
  match body with
  | some body => some (.ok body)
  | none => if ended then some (.error .read) else none

/-- The head of a response. -/
structure Head where
  status : Nat
  fields : List (String × String)
  deriving DecidableEq, Repr

namespace Head

/-- The lines of the head and the bytes after them, given a bound on their number. -/
def linesAt : Nat → List UInt8 → Option (List (List Char) × List UInt8)
  | 0, _ => none
  | bound + 1, bs => do
    let (line, rest) ← lineAt [] bs
    if line.isEmpty then return ([], rest)
    let (lines, rest) ← linesAt bound rest
    return (Text.ofUtf8Lossy line :: lines, rest)

def status? (line : List Char) : Option Nat :=
  match Text.pieces ' ' line with
  | version :: code :: _ =>
    if version = "HTTP/1.1".toList ∨ version = "HTTP/1.0".toList then
      if code.length = 3 then (Text.bounded 1000 code).toOption else none
    else none
  | _ => none

def field? (line : List Char) : Option (String × String) :=
  match Text.pieces ':' line with
  | name :: value :: more =>
    some (String.ofList (name.map Char.toLower),
      String.ofList (Text.trim (Text.join ':' (value :: more))))
  | _ => none

def ofLines? : List (List Char) → Option Head
  | [] => none
  | first :: rest => do return ⟨← status? first, ← rest.mapM field?⟩

def framing (h : Head) : Framing :=
  if h.status = 204 ∨ h.status = 304 then .length 0
  else if (h.fields.lookup "transfer-encoding").any (·.map Char.toLower = "chunked") then .chunks
  else match h.fields.lookup "content-length" with
    | some n => (Text.bounded Text.word64 n.toList).toOption.elim .connection .length
    | none => .connection

end Head

/-- What the bytes received so far tell of a request; `none` if more bytes must come. -/
def Response.ofBytes? (ended : Bool) (bs : List UInt8) : Option Outcome :=
  match Head.linesAt bs.length bs with
  | none => if ended then some (.error .write) else none
  | some (lines, rest) =>
    match Head.ofLines? lines with
    | none => some (.error .write)
    | some h => do return .ok ⟨h.status, h.fields.lookup "location", ← h.framing.body? ended rest⟩

end LeaseRoutes.Http
