import LeaseRoutes.Metrics.Counters

namespace LeaseRoutes.Metrics

structure Sample where
  name : String
  bound : Option String
  value : Double

def Sample.text (s : Sample) : String :=
  s.name ++ (s.bound.elim "" fun b => "\x7ble=\"" ++ b ++ "\"\x7d") ++ " " ++ s.value.plain ++ "\n"

structure Family where
  name : String
  help : String
  type : String
  samples : List Sample

def Family.text (f : Family) : String :=
  "# HELP " ++ f.name ++ " " ++ f.help ++ "\n" ++
  "# TYPE " ++ f.name ++ " " ++ f.type ++ "\n" ++
  String.join (f.samples.map Sample.text)

def named (name : String) : String := "dhcp6_exporter_" ++ name

def ofNat (n : Nat) : Double := .ofWord (UInt64.ofNat n)

def counter (name help : String) (n : Nat) : Family :=
  ⟨named name, help, "counter", [⟨named name, none, ofNat (reading n)⟩]⟩

def gauge (name help : String) (on : Bool) : Family :=
  ⟨named name, help, "gauge", [⟨named name, none, ofNat (if on then 1 else 0)⟩]⟩

/-- The upper bounds of the buckets. -/
def bounds : List Double :=
  ([0.005, 0.01, 0.025, 0.05, 0.1, 0.25, 0.5, 1, 2.5, 5, 10] : List Float).map Double.ofFloat

/-- How many observations there are up to each bound, then all of them, their sum and number. -/
def histogram (name help : String) (observed : List Double) : Family :=
  let bucket (b : Double) : Sample :=
    ⟨named name ++ "_bucket", some b.plain, ofNat (observed.countP fun x => x.le b)⟩
  ⟨named name, help, "histogram",
    bounds.map bucket ++
    [⟨named name ++ "_bucket", some "+Inf", ofNat observed.length⟩,
      ⟨named name ++ "_sum", none, observed.foldl Double.add Double.zero⟩,
      ⟨named name ++ "_count", none, ofNat observed.length⟩]⟩

def families (r : RouteCounters) (h : HeartbeatCounters) : List Family := [
  counter "benign_noop_total"
    "Route commands answered with HTTP 500 and treated as no-ops" r.noop,
  counter "duplicate_na_leases_total"
    "Lookups that found more than one active IA_NA lease for a DUID and IAID" r.duplicates,
  counter "heartbeat_failures_total" "Total number of failed heartbeat ticks" h.failures,
  counter "reconcile_skipped_total"
    "Leases skipped during resync for lack of mapping or sibling lease" r.skipped,
  counter "reconnections_total"
    "Switch restarts or reconnections that triggered a resync" h.reconnections,
  counter "route_failures_total" "Total number of abandoned route operations" r.failures,
  histogram "route_latency_seconds"
    "Route operation latency in seconds, lookups included" r.latencies,
  counter "routes_applied_total" "Total number of routes applied on the switch" r.applied,
  counter "routes_removed_total" "Total number of routes removed from the switch" r.removed,
  gauge "switch_connected" "Switch connection status (1=connected, 0=disconnected)" h.connected]

/-- All metrics as text. -/
def exposition (r : RouteCounters) (h : HeartbeatCounters) : String :=
  String.join ((families r h).map Family.text)

end LeaseRoutes.Metrics
