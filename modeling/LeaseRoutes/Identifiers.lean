import LeaseRoutes.Json.Reader
import LeaseRoutes.Net.Address
import LeaseRoutes.Net.Mac

namespace LeaseRoutes

/-- An identifier of a client: opaque bytes, written and read with colons between them. -/
structure Duid where
  bytes : List UInt8
  deriving DecidableEq, Repr

/-- Why a text is no identifier. -/
inductive DuidFault
  | empty
  | malformed (text : String)
  deriving DecidableEq, Repr

def DuidFault.message : DuidFault → String
  | .empty => "DUID is empty"
  | .malformed s => "invalid DUID: " ++ s

namespace Duid

def ofText (s : String) : Except DuidFault Duid :=
  if s.isEmpty then .error .empty
  else match (Text.pieces ':' s.toList).mapM Mac.shortByte? with
    | some bytes => .ok ⟨bytes⟩
    | none => .error (.malformed s)

def text (d : Duid) : String := String.ofList (Text.join ':' (d.bytes.map Text.hexByte))

end Duid

/-- The kinds of identity association: addresses that last, temporary addresses, delegated
prefixes. -/
inductive Association
  | na
  | ta
  | pd
  deriving DecidableEq, Repr

namespace Association

def name : Association → String
  | .na => "IA_NA"
  | .ta => "IA_TA"
  | .pd => "IA_PD"

/-- The names that are read; each kind has a short one besides its own. -/
def names : List (String × Association) :=
  [("IA_NA", .na), ("na", .na), ("IA_TA", .ta), ("ta", .ta), ("IA_PD", .pd), ("pd", .pd)]

def read : Json.Reader Association := Json.Reader.choice names

end Association

/-! ## Texts in JSON -/

def Address.read : Json.Reader Address :=
  Json.Reader.parsed "IPv6 address" fun s =>
    match Address.ofText? s with
    | some a => .ok a
    | none => .error Address.refusal

def Mac.read : Json.Reader Mac :=
  Json.Reader.parsed "a string" fun s =>
    match Mac.ofText? s with
    | some m => .ok m
    | none => .error (Mac.refusal s)

def Duid.read : Json.Reader Duid :=
  Json.Reader.parsed "a string" fun s =>
    match Duid.ofText s with
    | .ok d => .ok d
    | .error e => .error e.message

end LeaseRoutes
