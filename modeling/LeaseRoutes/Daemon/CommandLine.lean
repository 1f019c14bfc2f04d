namespace LeaseRoutes

structure Options where
  config : String
  leases : String
  printMetrics : Bool
  deriving DecidableEq, Repr

/-- What a command line asks for. -/
inductive Invocation
  | run (o : Options)
  | help
  | version
  | misuse
  deriving DecidableEq, Repr

namespace CommandLine

inductive Flag
  | config
  | leases
  | printMetrics
  | help
  | version
  deriving DecidableEq, Repr

def Flag.ofName? : String → Option Flag
  | "config" => some .config
  | "leases" => some .leases
  | "print-metrics" => some .printMetrics
  | "help" => some .help
  | "version" => some .version
  | _ => none

def Flag.ofLetter? : Char → Option Flag
  | 'c' => some .config
  | 'l' => some .leases
  | 'h' => some .help
  | 'V' => some .version
  | _ => none

/-- An argument by itself. A flag may have a value attached. -/
inductive Argument
  | flag (f : Flag) (value : Option String)
  | separator
  | wrong
  deriving DecidableEq, Repr

/-- What follows the letter of a flag. Help and version do not look at it. -/
def attached (f : Flag) : List Char → Option String
  | [] => none
  | c :: cs =>
    if f = .help ∨ f = .version then none
    else some (String.ofList (if c = '=' then cs else c :: cs))

def Argument.ofText (s : String) : Argument :=
  match s.toList with
  | ['-', '-'] => .separator
  | '-' :: '-' :: cs =>
    let name := cs.takeWhile (· != '=')
    let value := (cs.drop name.length).tail
    match Flag.ofName? (String.ofList name) with
    | some f => .flag f (if name.length < cs.length then some (String.ofList value) else none)
    | none => .wrong
  | '-' :: c :: cs =>
    match Flag.ofLetter? c with
    | some f => .flag f (attached f cs)
    | none => .wrong
  | _ => .wrong

/-- Only a lone dash may stand for a value that begins with a dash. -/
def isValue (s : String) : Bool := s = "-" || !s.startsWith "-"

/-- The flags that were given so far. -/
structure Given where
  config : Option String
  leases : Option String
  printMetrics : Bool
  deriving DecidableEq, Repr

namespace Given

def nothing : Given := ⟨none, none, false⟩

/-- Gives a flag its value. A flag is given once, and its value is not empty. -/
def set? (g : Given) (f : Flag) (value : String) : Option Given :=
  if value.isEmpty then none
  else match f with
    | .config => if g.config.isSome then none else some { g with config := value }
    | .leases => if g.leases.isSome then none else some { g with leases := value }
    | .printMetrics | .help | .version => none

def invocation (g : Given) : Invocation :=
  match g.config, g.leases with
  | some config, some leases => .run ⟨config, leases, g.printMetrics⟩
  | _, _ => .misuse

end Given

def read (g : Given) : List String → Invocation
  | [] => g.invocation
  | arg :: rest =>
    match Argument.ofText arg, rest with
    | .flag .help none, _ => .help
    | .flag .version none, _ => .version
    | .flag .printMetrics none, rest =>
      if g.printMetrics then .misuse else read { g with printMetrics := true } rest
    | .flag f (some value), rest =>
      match g.set? f value with
      | some g => read g rest
      | none => .misuse
    | .flag f none, value :: rest =>
      match if isValue value then g.set? f value else none with
      | some g => read g rest
      | none => .misuse
    | .separator, [] => g.invocation
    | _, _ => .misuse

end CommandLine

namespace Invocation

/-- Arguments are read from left to right, and the first that is wrong or that asks for the help or
the version decides. -/
def ofArguments (args : List String) : Invocation := CommandLine.read .nothing args

def helpText : String :=
  "Synchronizes DHCPv6 leases into NX-OS switch routes over NX-API\n\n" ++
  "Usage: dhcp6-exporterd [OPTIONS] --config <CONFIG> --leases <LEASES>\n\n" ++
  "Options:\n" ++
  "  -c, --config <CONFIG>  Configuration file (TOML, or JSON with a .json extension)\n" ++
  "  -l, --leases <LEASES>  Lease snapshot used for sibling lookups and resync\n" ++
  "      --print-metrics    Print Prometheus metrics to stdout on exit\n" ++
  "  -h, --help             Print help\n" ++
  "  -V, --version          Print version\n"

def versionText : String := "dhcp6-exporterd 0.1.0\n"

end Invocation

end LeaseRoutes
