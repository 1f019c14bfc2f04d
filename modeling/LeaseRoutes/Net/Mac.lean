import LeaseRoutes.Text.Hex
import LeaseRoutes.Text.Pieces

namespace LeaseRoutes

/-- A hardware address of 48 bits. It is written as `f6:a5:48:6e:8a:ad` and read with colons or
hyphens between the bytes, or in the dotted form of network devices, `f6a5.486e.8aad`. -/
structure Mac where
  bytes : List UInt8
  six : bytes.length = 6
  deriving DecidableEq, Repr

namespace Mac

def ofBytes? (bytes : List UInt8) : Option Mac :=
  if h : bytes.length = 6 then some ⟨bytes, h⟩ else none

/-- The two bytes of a dotted group. -/
def groupBytes? : List Char → Option (List UInt8)
  | [a, b, c, d] => do return [← Text.hexByte? [a, b], ← Text.hexByte? [c, d]]
  | _ => none

def dotted? (cs : List Char) : Option Mac :=
  match Text.pieces '.' cs with
  | [a, b, c] => do ofBytes? ((← groupBytes? a) ++ (← groupBytes? b) ++ (← groupBytes? c))
  | _ => none

/-- Reads the dotted form only. -/
def ofDotted? (s : String) : Option Mac := dotted? s.toList

/-- A byte of one or two digits. -/
def shortByte? (cs : List Char) : Option UInt8 :=
  if cs.length ≤ 2 then Text.hexByte? cs else none

/-- Reads any of the three forms. -/
def ofText? (s : String) : Option Mac :=
  let cs := s.toList
  if '.' ∈ cs then dotted? cs
  else
    let separator := if ':' ∈ cs then ':' else '-'
    ((Text.pieces separator cs).mapM shortByte?).bind ofBytes?

/-- Said of a text that is no hardware address. -/
def refusal (s : String) : String := "invalid MAC address format: " ++ s

def text (m : Mac) : String := String.ofList (Text.join ':' (m.bytes.map Text.hexByte))

/-- Addresses are ordered by their bytes. -/
def before (a b : Mac) : Bool := decide (a.bytes < b.bytes)

end Mac

end LeaseRoutes
