import LeaseRoutes.Config.Connection
import LeaseRoutes.Switch.Reply
import LeaseRoutes.Text.Bytes

namespace LeaseRoutes.Http

open Switch (TransportFault Reply)

inductive Method
  | get
  | post
  deriving DecidableEq, Repr

def Method.name : Method → String
  | .get => "GET"
  | .post => "POST"

/-- The type of the bodies that are sent. -/
def contentType : String := "application/json-rpc"

structure Request where
  method : Method
  url : Url
  authorization : Option String
  body : Option String
  deriving DecidableEq, Repr

/-- A response whose head is complete. The body may have broken off. -/
structure Response where
  status : Nat
  location : Option String
  body : Except TransportFault (List UInt8)

/-- The most characters of an address that is requested. -/
def addressLimit : Nat := 65534

/-- Whether an address can be requested. Some characters that a host may have are not requested. -/
def isRequestable (u : Url) : Bool :=
  { u with user := "", password := "" }.text.length ≤ addressLimit &&
    !u.host.toList.any ['"', '\x60', '\x7b', '\x7d'].contains

/-- What comes of a request: a response, or the reason why there is none. -/
abbrev Outcome := Except TransportFault Response

/-- Login and password as a request states them. -/
def authorization (c : Credentials) : String :=
  "Basic " ++ String.ofList (Text.base64 (Text.utf8 (c.login ++ ":" ++ c.password).toList))

namespace Response

/-- The reply that the response makes. Bytes that are no text do not stop it from being read. -/
def reply (a : Response) : Reply :=
  match a.body with
  | .ok bytes => .ofBody a.status (String.ofList (Text.ofUtf8Lossy bytes))
  | .error e => .failed e a.status

/-- Whether a redirect is followed without the body. -/
def dropsBody (status : Nat) : Bool := status = 301 || status = 302 || status = 303

def redirects (status : Nat) : Bool := dropsBody status || status = 307 || status = 308

/-- Where the response leads from an address; a location that cannot be read leads nowhere. -/
def target? (a : Response) (u : Url) : Option (Option Url) :=
  if redirects a.status then a.location.bind fun l => (u.join l).toOption else none

end Response

/-- What follows a request. -/
inductive Next
  | request (r : Request)
  | reply (r : Reply)
  deriving DecidableEq, Repr

namespace Request

/-- The request that a redirect asks for. Another server does not see the authorization. -/
def redirected (r : Request) (status : Nat) (u : Url) : Request where
  method := if Response.dropsBody status then .get else r.method
  url := u
  authorization := if u.sameServer r.url then r.authorization else none
  body := if Response.dropsBody status then none else r.body

/-- What follows from the outcome of a request. A redirect away from the web fails. -/
def next (r : Request) : Outcome → Next
  | .error e => .reply (.failed e 0)
  | .ok a =>
    match a.target? r.url with
    | some (some u) => .request (r.redirected a.status u)
    | some none => .reply (.failed .connection 0)
    | none => .reply a.reply

end Request

end LeaseRoutes.Http
