import LeaseRoutes.Json.Value
import LeaseRoutes.Net.Url
import LeaseRoutes.Text.Quoted
/-!
The connection to the switch, as the configuration describes it. The fields are looked at in a
fixed order and the first that is wrong is reported; fields that are not known do not count.
-/

namespace LeaseRoutes

/-- What is wrong with a field. -/
inductive FieldProblem
  | null
  | notString
  | notMap
  | notUrl (e : UrlFault)
  | notWeb
  | notPositive
  | notBoolean
  deriving DecidableEq, Repr

def FieldProblem.message : FieldProblem → String
  | .null => "must not be null"
  | .notString => "must be a string"
  | .notMap => "must be a map"
  | .notUrl e => "must be a valid URL: " ++ e.message
  | .notWeb => "must be a valid http or https URL"
  | .notPositive => "must be a positive integer"
  | .notBoolean => "must be a boolean"

inductive ConfigFault
  | configNotMap
  | unknownType (type : String)
  | noType
  | paramsNull
  | paramsNotMap
  | wrongField (name : String) (problem : FieldProblem)
  /-- A request cannot be addressed from the host. -/
  | wrongTarget (e : UrlFault)
  deriving DecidableEq, Repr

namespace ConfigFault

/-- The field that is wrong. -/
def field : ConfigFault → String
  | .configNotMap => "config"
  | .unknownType _ | .noType => "connection-type"
  | .paramsNull | .paramsNotMap => "connection-params"
  | .wrongField name _ => name
  | .wrongTarget _ => "host"

def detail : ConfigFault → String
  | .configNotMap | .paramsNotMap => "must be a map"
  | .unknownType t => "unsupported connection type \"" ++ t ++ "\""
  | .noType => "must be the string \"nxos\""
  | .paramsNull => "NX-OS exporter configuration must not be null"
  | .wrongField name problem =>
    "field \"" ++ name ++ "\" in \"connection-params\" " ++ problem.message
  | .wrongTarget e => e.message

def message (e : ConfigFault) : String :=
  "invalid configuration for " ++ e.field ++ ": " ++ e.detail

end ConfigFault

structure Credentials where
  login : String
  password : String
  deriving DecidableEq, Repr

/-- The credentials as they may be logged. -/
def Credentials.redacted (c : Credentials) : String :=
  "BasicAuth \x7b login: " ++ Text.quoted c.login ++ ", password: \"<redacted>\" \x7d"

/-- The files of a client certificate. -/
structure Certificate where
  certificate : String
  key : String
  deriving DecidableEq, Repr

/-- Times are in seconds. A certificate belongs to secure connections only. -/
structure Connection where
  url : Url
  credentials : Credentials
  certificate : Option Certificate
  heartbeat : Nat
  timeout : Nat
  poolSize : Nat
  multiThreaded : Bool
  deriving DecidableEq, Repr

namespace Connection

abbrev Members := List (String × Json)

/-- A field that is there and not null. -/
def present? (m : Members) (name : String) : Option Json :=
  match m.lookup name with
  | none | some .null => none
  | some j => some j

def string (m : Members) (name : String) : Except ConfigFault String :=
  match present? m name with
  | none => .error (.wrongField name .null)
  | some (.str s) => .ok s
  | some _ => .error (.wrongField name .notString)

/-- How the texts of addresses are read. -/
abbrev UrlReader := String → Except UrlFault AnyUrl

def hostUrl (urlOf : UrlReader) (m : Members) : Except ConfigFault Url := do
  match urlOf (← string m "host") with
  | .error e => throw (.wrongField "host" (.notUrl e))
  | .ok u =>
    match u.web? with
    | some w => return w
    | none => throw (.wrongField "host" .notWeb)

def map (m : Members) (name : String) : Except ConfigFault Members :=
  match present? m name with
  | none => .error (.wrongField name .null)
  | some (.obj members) => .ok members
  | some _ => .error (.wrongField name .notMap)

/-- A positive number of 64 bits. -/
def positive (m : Members) (name : String) (standard : Nat) : Except ConfigFault Nat :=
  match present? m name with
  | none => .ok standard
  | some (.num (.whole n)) =>
    if 0 < n ∧ n < Text.word64 then .ok n.toNat else .error (.wrongField name .notPositive)
  | some _ => .error (.wrongField name .notPositive)

def flag (m : Members) (name : String) (standard : Bool) : Except ConfigFault Bool :=
  match present? m name with
  | none => .ok standard
  | some (.bool b) => .ok b
  | some _ => .error (.wrongField name .notBoolean)

/-- The files of the certificate, if the connection is secure. -/
def certificateFor (u : Url) (secrets : Members) : Except ConfigFault (Option Certificate) :=
  if u.secure then do
    let certificate ← string secrets "certificate"
    let key ← string secrets "keyfile"
    return some ⟨certificate, key⟩
  else return none

def ofMembers (urlOf : UrlReader) (m : Members) : Except ConfigFault Connection := do
  let url ← hostUrl urlOf m
  let secrets ← map m "credentials"
  let login ← string secrets "login"
  let password ← string secrets "password"
  let certificate ← certificateFor url secrets
  let heartbeat ← positive m "heartbeat-interval" 10
  let timeout ← positive m "request-timeout" 10
  let poolSize ← positive m "pool-size" 4
  let multiThreaded ← flag m "multi-threaded" true
  return ⟨url, ⟨login, password⟩, certificate, heartbeat, timeout, poolSize, multiThreaded⟩

/-- Reads the parameters of a connection, given how its address is read. -/
def ofJsonWith (urlOf : UrlReader) : Json → Except ConfigFault Connection
  | .obj m => ofMembers urlOf m
  | .null => .error .paramsNull
  | _ => .error .paramsNotMap

/-- Reads the parameters of a connection. -/
def ofJson : Json → Except ConfigFault Connection := ofJsonWith Url.read

end Connection

end LeaseRoutes
