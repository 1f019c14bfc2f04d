import LeaseRoutes.Net.Mac
import LeaseRoutes.Switch.Command
import LeaseRoutes.Switch.Reply
import LeaseRoutes.Table.Neighbor

namespace LeaseRoutes.Switch

/-- Interfaces by hardware address, in the order of the addresses. -/
abbrev HardwareMap := List (Mac × String)

namespace HardwareMap

/-- Sets the interface of an address. -/
def set (mac : Mac) (interface : String) : HardwareMap → HardwareMap
  | [] => [(mac, interface)]
  | (m, i) :: rest =>
    if mac = m then (mac, interface) :: rest
    else if mac.before m then (mac, interface) :: (m, i) :: rest
    else (m, i) :: set mac interface rest

/-- What an adjacency adds: the hardware address of a neighbor on a VLAN interface. -/
def entry? (a : Adjacency) : Option (Mac × String) :=
  if isVlan a.interface then
    (a.mac.bind Mac.ofDotted?).map fun mac => (mac, a.interface)
  else none

/-- The entries of all adjacencies; of one address the last interface stays. -/
def ofAdjacencies (as : List Adjacency) : HardwareMap :=
  (as.filterMap entry?).foldl (fun map e => set e.1 e.2 map) []

end HardwareMap

def surveyBatch : Rpc.Batch := .single showNeighbors

/-- The map that the reply to a survey gives. -/
def surveyed (r : Reply) : Except Fault HardwareMap := do
  let table ← r.output NeighborTable.output
  return .ofAdjacencies table.adjacencies

end LeaseRoutes.Switch
