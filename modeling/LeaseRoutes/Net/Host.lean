import LeaseRoutes.Net.Address
import LeaseRoutes.Net.Domain
import LeaseRoutes.Text.Bytes

namespace LeaseRoutes

inductive UrlFault
  | relative
  | emptyHost
  | domainName
  | portNumber
  | ipv4
  | ipv6
  | hostCharacter
  deriving DecidableEq, Repr

def UrlFault.message : UrlFault → String
  | .relative => "relative URL without a base"
  | .emptyHost => "empty host"
  | .domainName => "invalid international domain name"
  | .portNumber => "invalid port number"
  | .ipv4 => "invalid IPv4 address"
  | .ipv6 => "invalid IPv6 address"
  | .hostCharacter => "invalid domain character"

namespace Host

/-! ## Percent signs -/

def percent (b : UInt8) : List Char := '%' :: (Text.hexByte b).map Char.toUpper

/-- Writes the characters of a set, and all that are not printable ASCII, with percent signs. -/
def escape (set : List Char) (cs : List Char) : List Char :=
  cs.flatMap fun c =>
    if c.toNat < 0x20 ∨ 0x7F ≤ c.toNat ∨ c ∈ set then (Text.utf8Bytes c).flatMap percent else [c]

def fragmentSet : List Char := [' ', '"', '<', '>', '\x60']

def querySet : List Char := [' ', '"', '#', '<', '>', '\x27']

def pathSet : List Char := fragmentSet ++ ['#', '?', '\x7b', '\x7d']

def userSet : List Char := pathSet ++ ['/', ':', ';', '=', '@', '[', '\\', ']', '^', '|']

/-- The bytes of a text in which percent signs stand for bytes. -/
def unescape : List Char → List UInt8
  | '%' :: a :: b :: rest =>
    match Text.hexDigit? a, Text.hexDigit? b with
    | some x, some y => UInt8.ofNat (16 * x + y) :: unescape rest
    | _, _ => Text.utf8Bytes '%' ++ unescape (a :: b :: rest)
  | c :: rest => Text.utf8Bytes c ++ unescape rest
  | [] => []

/-! ## Hosts -/

/-- A number of an IPv4 address, in base 8, 10 or 16. -/
def ipv4Number? (cs : List Char) : Option Nat :=
  let value (base : Nat) (ds : List Char) : Option Nat :=
    ds.foldlM (fun n c =>
      match Text.hexDigit? c with
      | some d => if d < base then some (base * n + d) else none
      | none => none) 0
  match cs with
  | [] => none
  | '0' :: 'x' :: ds | '0' :: 'X' :: ds => value 16 ds
  | '0' :: d :: ds => value 8 (d :: ds)
  | ds => value 10 ds

/-- Whether the last part of a host, before a final dot, is a number. -/
def endsInNumber (cs : List Char) : Bool :=
  let last? := match (Text.pieces '.' cs).reverse with
    | [] :: last :: _ => some last
    | [[]] => none
    | last :: _ => some last
    | [] => none
  match last? with
  | some last =>
    (!last.isEmpty && last.all fun c => (Text.decDigit? c).isSome) || (ipv4Number? last).isSome
  | none => false

/-- The numbers of an address; the last of them fills all bytes that the others leave. -/
def ipv4? (cs : List Char) : Option Nat :=
  let parts := match (Text.pieces '.' cs).reverse with
    | [] :: rest => rest.reverse
    | rest => rest.reverse
  if 4 < parts.length then none
  else do
    let numbers ← parts.mapM ipv4Number?
    let last ← numbers.getLast?
    let front := numbers.dropLast
    if front.any (255 < ·) ∨ Nat.pow 256 (4 - front.length) ≤ last then none
    else some (front.zipIdx.foldl (fun sum (n, i) => sum + n * Nat.pow 256 (3 - i)) last)

def ipv4Text (n : Nat) : List Char :=
  Text.join '.' ([n / Nat.pow 256 3, n / Nat.pow 256 2 % 256, n / 256 % 256, n % 256].map Text.digits)

/-- A host in brackets; the opening one has been read. -/
def bracketed (cs : List Char) : Except UrlFault (List Char) :=
  match cs.getLast?, Address.ofText? (String.ofList cs.dropLast) with
  | some ']', some a => .ok ('[' :: Address.compressed a.groups ++ [']'])
  | _, _ => .error .ipv6

/-- The normal form of the host of a web address. -/
def ofDomain (cs : List Char) : Except UrlFault (List Char) :=
  match cs with
  | '[' :: rest => bracketed rest
  | cs =>
    match (Text.ofUtf8? (unescape cs)).bind Domain.toAscii? with
    | none => .error .domainName
    | some [] => .error .emptyHost
    | some name =>
      if endsInNumber name then
        match ipv4? name with
        | some n => .ok (ipv4Text n)
        | none => .error .ipv4
      else .ok name

/-- The host of a scheme whose hosts need not be domain names. -/
def ofOpaque (cs : List Char) : Except UrlFault (List Char) :=
  match cs with
  | '[' :: rest => bracketed rest
  | cs =>
    if cs.any fun c => ['\x00', ' ', '#', '/', ':', '<', '>', '?', '@', '[', '\\', ']', '^',
        '|'].contains c then .error .hostCharacter
    else .ok (escape [] cs)

end Host

end LeaseRoutes
