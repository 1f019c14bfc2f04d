import LeaseRoutes.Text.Decimal
import LeaseRoutes.Text.Pieces
/-!
IPv6 addresses and their texts. An address is written in its canonical form: lower-case groups
without leading zeros, the first longest run of two or more zero groups as `::`, and an address
that maps an IPv4 address with that address in dotted form. Every standard form is read.
-/

namespace LeaseRoutes

/-- Eight groups of 16 bits, the most significant first. -/
structure Address where
  groups : List UInt16
  eight : groups.length = 8
  deriving DecidableEq, Repr

namespace Address

def ofGroups? (groups : List UInt16) : Option Address :=
  if h : groups.length = 8 then some ⟨groups, h⟩ else none

/-- A group has one to four hexadecimal digits. -/
def group? (cs : List Char) : Option UInt16 :=
  if cs.isEmpty ∨ 4 < cs.length then none
  else (Text.hexNat? 0 cs).map UInt16.ofNat

/-- Part of a dotted address: a number up to 255 without leading zeros. -/
def octet? (cs : List Char) : Option Nat :=
  match cs with
  | [] | '0' :: _ :: _ | '+' :: _ => none
  | cs => match Text.bounded 256 cs with
    | .ok n => some n
    | .error _ => none

/-- The two groups of a dotted address. -/
def dotted? (cs : List Char) : Option (List UInt16) :=
  match Text.pieces '.' cs with
  | [a, b, c, d] => do
    let high := 256 * (← octet? a) + (← octet? b)
    let low := 256 * (← octet? c) + (← octet? d)
    return [UInt16.ofNat high, UInt16.ofNat low]
  | _ => none

/-- The groups between colons. The last of them may be a dotted address, if `dotted` is set. -/
def pieceGroups (dotted : Bool) : List (List Char) → Option (List UInt16)
  | [] => some []
  | [piece] =>
    if dotted ∧ '.' ∈ piece then dotted? piece else (group? piece).map ([·])
  | piece :: more => do return (← group? piece) :: (← pieceGroups dotted more)

/-- The groups on one side of a gap. -/
def sideGroups (dotted : Bool) (cs : List Char) : Option (List UInt16) :=
  if cs.isEmpty then some [] else pieceGroups dotted (Text.pieces ':' cs)

/-- The two sides of the first `::`. -/
def splitGap : List Char → Option (List Char × List Char)
  | [] => none
  | c :: rest =>
    if c = ':' ∧ rest.head? = some ':' then some ([], rest.tail)
    else (splitGap rest).map fun (left, right) => (c :: left, right)

/-- Reads an address. A gap stands for at least one group. -/
def ofText? (s : String) : Option Address :=
  match splitGap s.toList with
  | none => (sideGroups true s.toList).bind ofGroups?
  | some (left, right) => do
    let high ← sideGroups false left
    let low ← sideGroups true right
    if high.length + low.length < 8 then
      ofGroups? (high ++ List.replicate (8 - high.length - low.length) 0 ++ low)
    else none

/-- Said of a text that is no address. -/
def refusal : String := "invalid IPv6 address syntax"

/-- The number of zeros at the start. -/
def leadingZeros : List UInt16 → Nat
  | [] => 0
  | g :: rest => if g = 0 then leadingZeros rest + 1 else 0

/-- Where the first longest run of zeros begins, and its length. -/
def zeroRun : List UInt16 → Nat × Nat
  | [] => (0, 0)
  | g :: rest =>
    let here := leadingZeros (g :: rest)
    let later := zeroRun rest
    if later.2 ≤ here then (0, here) else (later.1 + 1, later.2)

def groupTexts (groups : List UInt16) : List Char :=
  Text.join ':' (groups.map fun g => Text.hexDigits g.toNat)

/-- The dotted form of two groups. -/
def dottedText (high low : UInt16) : List Char :=
  Text.join '.' ([high.toNat / 256, high.toNat % 256, low.toNat / 256, low.toNat % 256].map
    Text.digits)

/-- The groups with the first longest run of two or more zeros left out. -/
def compressed (groups : List UInt16) : List Char :=
  let (start, length) := zeroRun groups
  if 1 < length then
    groupTexts (groups.take start) ++ [':', ':'] ++ groupTexts (groups.drop (start + length))
  else groupTexts groups

def chars (a : Address) : List Char :=
  match a.groups with
  | [0, 0, 0, 0, 0, 0xffff, high, low] =>
    [':', ':', 'f', 'f', 'f', 'f', ':'] ++ dottedText high low
  | groups => compressed groups

/-- The canonical text of an address. -/
def text (a : Address) : String := String.ofList a.chars

/-! ## The characters of a text

A text consists of hexadecimal digits, colons and full stops. -/

theorem notMem_groupTexts {c : Char} (colon : c ≠ ':') (digit : Text.hexDigit? c = none)
    (groups : List UInt16) : c ∉ groupTexts groups := by
  refine Text.notMem_join colon fun piece member => ?_
  obtain ⟨g, -, rfl⟩ := List.mem_map.1 member
  exact Text.notMem_hexDigits digit _

theorem notMem_compressed {c : Char} (colon : c ≠ ':') (digit : Text.hexDigit? c = none)
    (groups : List UInt16) : c ∉ compressed groups := by
  unfold compressed
  split
  split
  · simp [notMem_groupTexts colon digit, colon]
  · exact notMem_groupTexts colon digit groups

theorem notMem_dottedText {c : Char} (dot : c ≠ '.') (digit : c.isDigit = false)
    (high low : UInt16) : c ∉ dottedText high low := by
  refine Text.notMem_join dot fun piece member => ?_
  obtain ⟨n, -, rfl⟩ := List.mem_map.1 member
  exact Text.notMem_digits digit n

theorem notMem_text {c : Char} (colon : c ≠ ':') (dot : c ≠ '.')
    (digit : Text.hexDigit? c = none) (a : Address) : c ∉ a.text.toList := by
  have decimal : c.isDigit = false := by
    simp only [Text.hexDigit?] at digit
    simp only [Char.isDigit, Char.le_def] at digit ⊢
    grind
  have letter : c ≠ 'f' := by
    rintro rfl
    exact absurd digit (by decide)
  rw [text, String.toList_ofList]
  unfold chars
  split
  · simp [notMem_dottedText dot decimal, colon, letter]
  · exact notMem_compressed colon digit _

end Address

/-- Where a route leads: an address with the number of its bits that count. -/
structure Destination where
  address : Address
  length : UInt8
  deriving DecidableEq, Repr

namespace Destination

/-- The route to one address alone. -/
def host (a : Address) : Destination := ⟨a, 128⟩

def text (d : Destination) : String := d.address.text ++ "/" ++ Text.decimal d.length.toNat

theorem text_host (a : Address) : (host a).text = a.text ++ "/128" := by
  have whole : "/128" = "/" ++ Text.decimal 128 := by decide
  rw [whole, ← String.append_assoc]
  rfl

theorem space_notMem_text (d : Destination) : ' ' ∉ d.text.toList := by
  have address := d.address.notMem_text (c := ' ') (by decide) (by decide) (by decide)
  simp [text, Text.decimal, address, Text.notMem_digits]

end Destination

end LeaseRoutes
