import LeaseRoutes.Table.Output

namespace LeaseRoutes

/-- The hardware address is in dotted form and absent while it is not resolved. -/
structure Adjacency where
  interface : String
  address : Option String
  mac : Option String
  deriving DecidableEq, Repr

structure NeighborFamily where
  name : String
  adjacencies : List Adjacency
  deriving DecidableEq, Repr

structure NeighborVrf where
  name : String
  families : List NeighborFamily
  deriving DecidableEq, Repr

structure NeighborTable where
  vrfs : List NeighborVrf
  deriving DecidableEq, Repr

def Adjacency.ofRow (row : Json) : Option Adjacency := do
  let columns ← Table.columns ["intf-out", "ipaddr", "mac"] row
  return ⟨← Table.textColumn "intf-out" columns, ← Table.textColumn? "ipaddr" columns,
    ← Table.textColumn? "mac" columns⟩

def NeighborFamily.ofRow (row : Json) : Option NeighborFamily := do
  let columns ← Table.columns ["afi", "TABLE_adj"] row
  return ⟨← Table.textColumn "afi" columns,
    ← Table.tableColumn Adjacency.ofRow "TABLE_adj" columns⟩

def NeighborVrf.ofRow (row : Json) : Option NeighborVrf := do
  let columns ← Table.columns ["vrf-name-out", "TABLE_afi"] row
  return ⟨← Table.textColumn "vrf-name-out" columns,
    ← Table.tableColumn NeighborFamily.ofRow "TABLE_afi" columns⟩

namespace NeighborTable

def output : Output NeighborTable where
  name := "NeighborLookupResponse"
  read := fun body =>
    (Output.onlyTable NeighborVrf.ofRow "NeighborLookupResponse" "TABLE_vrf" body).map .mk
  absent := some ⟨[]⟩

/-- All adjacencies in the order of the table. -/
def adjacencies (t : NeighborTable) : List Adjacency :=
  t.vrfs.flatMap fun v => v.families.flatMap NeighborFamily.adjacencies

end NeighborTable

end LeaseRoutes
