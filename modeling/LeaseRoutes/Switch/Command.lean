import LeaseRoutes.Net.Address
import LeaseRoutes.Text.Class

namespace LeaseRoutes.Switch

def showVersion : String := "show version"

def showNeighbors : String := "show ipv6 neighbor"

def showRoute (d : Destination) : String := "show ipv6 route " ++ d.text

/-- Installs a route. It leads to an interface or to a next hop. -/
def installRoute (destination via : String) : String := "ipv6 route " ++ destination ++ " " ++ via

def withdrawRoute (destination via : String) : String :=
  "no ipv6 route " ++ destination ++ " " ++ via

theorem withdrawRoute_eq (destination via : String) :
    withdrawRoute destination via = "no " ++ installRoute destination via := by
  have words : "no ipv6 route " = "no " ++ "ipv6 route " := by decide
  unfold withdrawRoute installRoute
  rw [words]
  simp only [String.append_assoc]

/-- Forgets the neighbors that were learnt on an interface. -/
def clearNeighbor (interface : String) : String :=
  "clear ipv6 neighbor " ++ interface ++ " force-delete"

/-- A VLAN interface is called `vlan` in any case, with a number in the digits of any script. -/
def isVlan (name : String) : Bool :=
  match name.toList with
  | v :: l :: a :: n :: number =>
    (v == 'v' || v == 'V') && (l == 'l' || l == 'L') && (a == 'a' || a == 'A') &&
      (n == 'n' || n == 'N') && !number.isEmpty && number.all Text.isDigit
  | _ => false

end LeaseRoutes.Switch
