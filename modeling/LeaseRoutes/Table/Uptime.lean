import LeaseRoutes.Table.Output
import LeaseRoutes.Text.Class

namespace LeaseRoutes

/-- How long the kernel of the switch has been up. -/
structure Uptime where
  days : UInt64
  hours : UInt64
  minutes : UInt64
  seconds : UInt64
  deriving DecidableEq, Repr

namespace Uptime

def largest : UInt64 := UInt64.ofNat (Text.word64 - 1)

/-- The sum, or the largest word if it is larger. -/
def addUpTo (a b : UInt64) : UInt64 := if a + b < a then largest else a + b

/-- The product, or the largest word if it is larger. -/
def mulUpTo (a b : UInt64) : UInt64 :=
  if a.toNat * b.toNat < Text.word64 then a * b else largest

def total (u : Uptime) : UInt64 :=
  addUpTo (addUpTo (addUpTo u.seconds (mulUpTo u.minutes 60)) (mulUpTo u.hours 3600))
    (mulUpTo u.days 86400)

/-- A part of the uptime, blank characters around a text left out. -/
def part : Json → Except Json.Fault UInt64
  | .num (.whole n) =>
    if 0 ≤ n ∧ n < Text.word64 then .ok (UInt64.ofNat n.toNat) else .error (.noVariant "Raw")
  | .str s =>
    match Text.bounded Text.word64 (Text.trim s.toList) with
    | .ok n => .ok (UInt64.ofNat n)
    | .error e => .error (.badText e.message)
  | _ => .error (.noVariant "Raw")

def names : List String :=
  ["kern_uptm_days", "kern_uptm_hrs", "kern_uptm_mins", "kern_uptm_secs"]

/-- The parts that are there. One that cannot be read counts before one that is missing. -/
def present (members : List (String × Json)) : List String → Except Json.Fault Unit
  | [] => .ok ()
  | name :: rest => do
    if let some j := members.lookup name then discard (part j)
    present members rest

def member (members : List (String × Json)) (name : String) : Except Json.Fault UInt64 :=
  match members.lookup name with
  | some j => part j
  | none => .error (.missingField name)

def items : List Json → Except Json.Fault (List UInt64)
  | [] => .ok []
  | j :: rest => do return (← part j) :: (← items rest)

def read : Json → Except Json.Fault Uptime
  | .obj members => do
    present members names
    return ⟨← member members "kern_uptm_days", ← member members "kern_uptm_hrs",
      ← member members "kern_uptm_mins", ← member members "kern_uptm_secs"⟩
  | .arr js => do
    match ← items (js.take 4) with
    | [d, h, m, s] =>
      if js.length = 4 then return ⟨d, h, m, s⟩
      else throw (.invalidLength js.length "fewer elements in array")
    | parts => throw (.invalidLength parts.length "struct UptimeResponse with 4 elements")
  | j => .error (.invalidType (Output.shape j) "struct UptimeResponse")

def output : Output Uptime where
  name := "UptimeResponse"
  read := read
  absent := none

end Uptime

end LeaseRoutes
