import LeaseRoutes.Config.File
import LeaseRoutes.Daemon.CommandLine
import LeaseRoutes.Daemon.Events

namespace LeaseRoutes

/-- Why the daemon does not start. -/
inductive StartFault
  | config (path : String) (e : ConfigFileFault)
  | unreadableLeases (path reason : String)
  | leases (path : String) (e : Json.Fault)
  | refused (e : Http.Refusal)
  deriving DecidableEq, Repr

namespace StartFault

def message : StartFault → String
  | .config path _ | .unreadableLeases path _ | .leases path _ => "loading " ++ path
  | .refused e => e.message

/-- What is behind the fault. -/
def cause : StartFault → Option String
  | .config _ e => some e.message
  | .unreadableLeases _ reason => some reason
  | .leases _ e => some e.message
  | .refused _ => none

end StartFault

namespace Daemon

/-- The texts of files by their paths, or the reasons why they cannot be read. -/
abbrev Files := String → Except String String

/-- Loads the configuration. -/
def loadConnection (files : Files) (path : String) : Except ConfigFileFault Connection :=
  match files path with
  | .ok text => ConfigFile.read path text
  | .error reason => .error (.unreadable path reason)

/-- Loads the snapshot of the leases. -/
def loadLeases (files : Files) (path : String) : Except StartFault LeaseStore := do
  let text ← (files path).mapError (.unreadableLeases path)
  (LeaseStore.ofText text).mapError (.leases path)

/-- Loads the configuration, then the leases. -/
def load (files : Files) (o : Options) : Except StartFault (Connection × LeaseStore) := do
  let c ← (loadConnection files o.config).mapError (.config o.config)
  return (c, ← loadLeases files o.leases)

/-- Starts the service. -/
def start (c : Connection) (store : LeaseStore) (s : σ) : Except StartFault (Daemon σ) :=
  match (Service.fresh c store s).start with
  | .ok service => .ok (fresh service)
  | .error e => .error (.refused e)

/-- What the daemon prints when its events are over. -/
def farewell (o : Options) (d : Daemon σ) : String :=
  if o.printMetrics then d.service.stop.exposition else ""

end Daemon

/-- What is seen of a run. The size of the snapshot is known once it is loaded, the number of
queued operations once all events are taken. -/
structure RunReport where
  exit : Nat
  output : String
  error : Option StartFault
  leases : Option Nat
  queued : Option Nat
  malformed : List Nat
  deriving DecidableEq, Repr

namespace RunReport

def brief (exit : Nat) (output : String) : RunReport := ⟨exit, output, none, none, none, []⟩

def notStarted (e : StartFault) (leases : Option Nat) : RunReport :=
  ⟨1, "", some e, leases, none, []⟩

def ofOptions (network : Http.Network σ) (s : σ) (files : Daemon.Files) (o : Options)
    (input : String) : RunReport :=
  match Daemon.load files o with
  | .error e => notStarted e none
  | .ok (c, store) =>
    match Daemon.start c store s with
    | .error e => notStarted e (some store.size)
    | .ok d =>
      let d := d.takeAll network input
      ⟨0, d.farewell o, none, some store.size, some d.queued, d.malformed⟩

/-- The report of a run with these arguments, files and events. -/
def ofArguments (network : Http.Network σ) (s : σ) (files : Daemon.Files) (args : List String)
    (input : String) : RunReport :=
  match Invocation.ofArguments args with
  | .misuse => brief 2 ""
  | .help => brief 0 Invocation.helpText
  | .version => brief 0 Invocation.versionText
  | .run o => ofOptions network s files o input

end RunReport

end LeaseRoutes
