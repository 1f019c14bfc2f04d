import LeaseRoutes.Config.Connection
import LeaseRoutes.Json.Document
import LeaseRoutes.Json.Fault
import LeaseRoutes.Text.Pieces
import LeaseRoutes.Toml.Document

namespace LeaseRoutes

namespace Connection

/-- Reads a whole configuration, given how addresses are read. There is one type of
connection. -/
def ofConfigWith (urlOf : UrlReader) (j : Json) : Except ConfigFault Connection :=
  match j with
  | .obj m =>
    match m.lookup "connection-type" with
    | some (.str t) =>
      if t = "nxos" then ofJsonWith urlOf ((m.lookup "connection-params").getD .null)
      else .error (.unknownType t)
    | _ => .error .noType
  | _ => .error .configNotMap

/-- Reads a whole configuration. -/
def ofConfig : Json → Except ConfigFault Connection := ofConfigWith Url.read

end Connection

/-- Why a configuration file is not used. -/
inductive ConfigFileFault
  | unreadable (path reason : String)
  | toml
  | json (e : Json.Fault)
  | config (e : ConfigFault)
  deriving DecidableEq, Repr

def ConfigFileFault.message : ConfigFileFault → String
  | .unreadable path reason => "failed to read configuration file " ++ path ++ ": " ++ reason
  | .toml => "TOML parse error: malformed TOML"
  | .json e => "JSON error: " ++ e.message
  | .config e => e.message

namespace ConfigFile

/-- Said of a file that does not exist. -/
def missing : String := "No such file or directory (os error 2)"

/-- What follows the last dot in the name of a file, unless the dot begins the name. -/
def extension? (path : String) : Option String :=
  match ((Text.pieces '/' path.toList).filter (!·.isEmpty)).getLast? with
  | none => none
  | some name =>
    match (Text.pieces '.' name).reverse with
    | last :: stem :: more =>
      if more.isEmpty ∧ stem.isEmpty then none else some (String.ofList last)
    | _ => none

def readToml (text : String) : Except ConfigFileFault Connection :=
  match Toml.ofText? text with
  | some j => (Connection.ofConfig j).mapError .config
  | none => .error .toml

def readJson (text : String) : Except ConfigFileFault Connection :=
  match Json.ofText? text with
  | some j => (Connection.ofConfig j).mapError .config
  | none => .error (.json .malformed)

/-- Reads a file that has this text. -/
def read (path text : String) : Except ConfigFileFault Connection :=
  if extension? path = some "json" then readJson text else readToml text

end ConfigFile

end LeaseRoutes
