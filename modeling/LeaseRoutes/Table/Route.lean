import LeaseRoutes.Table.Output

namespace LeaseRoutes

structure Path where
  nextHop : Option String
  interface : Option String
  deriving DecidableEq, Repr

structure RoutePrefix where
  destination : String
  attached : Bool
  paths : List Path
  deriving DecidableEq, Repr

structure RouteFamily where
  name : String
  prefixes : List RoutePrefix
  deriving DecidableEq, Repr

structure RouteVrf where
  name : String
  families : List RouteFamily
  deriving DecidableEq, Repr

structure RouteTable where
  vrfs : List RouteVrf
  deriving DecidableEq, Repr

def Path.ofRow (row : Json) : Option Path := do
  let columns ← Table.columns ["ipnexthop", "ifname"] row
  return ⟨← Table.textColumn? "ipnexthop" columns, ← Table.textColumn? "ifname" columns⟩

def RoutePrefix.ofRow (row : Json) : Option RoutePrefix := do
  let columns ← Table.columns ["ipprefix", "attached", "TABLE_path"] row
  return ⟨← Table.textColumn "ipprefix" columns, ← Table.flagColumn "attached" columns,
    ← Table.tableColumn Path.ofRow "TABLE_path" columns⟩

def RouteFamily.ofRow (row : Json) : Option RouteFamily := do
  let columns ← Table.columns ["addrf", "TABLE_prefix"] row
  return ⟨← Table.textColumn "addrf" columns,
    ← Table.tableColumn RoutePrefix.ofRow "TABLE_prefix" columns⟩

def RouteVrf.ofRow (row : Json) : Option RouteVrf := do
  let columns ← Table.columns ["vrf-name-out", "TABLE_addrf"] row
  return ⟨← Table.textColumn "vrf-name-out" columns,
    ← Table.tableColumn RouteFamily.ofRow "TABLE_addrf" columns⟩

namespace RouteTable

def output : Output RouteTable where
  name := "RouteLookupResponse"
  read := fun body =>
    (Output.onlyTable RouteVrf.ofRow "RouteLookupResponse" "TABLE_vrf" body).map .mk
  absent := some ⟨[]⟩

/-- The only one of some rows. -/
def only (table : String) : List α → Except OutputFault α
  | [row] => .ok row
  | rows => .error (.notSingle table rows.length)

/-- The first prefix, where there is exactly one virtual router with exactly one family. -/
def singleRoute (t : RouteTable) : Except OutputFault RoutePrefix := do
  let vrf ← only "TABLE_vrf" t.vrfs
  let family ← only "TABLE_addrf" vrf.families
  match family.prefixes with
  | route :: _ => .ok route
  | [] => .error (.notSingle "TABLE_prefix" 0)

/-- The first interface that `accepts` among the paths of the single route. -/
def firstInterface (accepts : String → Bool) (t : RouteTable) : Except OutputFault String := do
  let route ← t.singleRoute
  match (route.paths.filterMap Path.interface).find? accepts with
  | some name => .ok name
  | none => .error (.missing "vlan interface id")

/-- All prefixes in the order of the table. -/
def prefixes (t : RouteTable) : List RoutePrefix :=
  t.vrfs.flatMap fun v => v.families.flatMap RouteFamily.prefixes

/-- The first next hop of any path. -/
def firstNextHop (t : RouteTable) : Option String :=
  (t.prefixes.flatMap RoutePrefix.paths).findSome? Path.nextHop

end RouteTable

end LeaseRoutes
