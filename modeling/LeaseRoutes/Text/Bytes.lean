import LeaseRoutes.Text.Hex

namespace LeaseRoutes.Text

/-! ## UTF-8 -/

/-- The bytes of a character. -/
def utf8Bytes (c : Char) : List UInt8 := (String.singleton c).toUTF8.toList

def utf8 (cs : List Char) : List UInt8 := cs.flatMap utf8Bytes

/-- The number of bytes that follow a first byte, with the range of the first of them. Overlong
forms, surrogates and numbers beyond the last character are out of range. -/
def followers? (b : UInt8) : Option (Nat × UInt8 × UInt8) :=
  if 0xC2 ≤ b ∧ b ≤ 0xDF then some (1, 0x80, 0xBF)
  else if b = 0xE0 then some (2, 0xA0, 0xBF)
  else if b = 0xED then some (2, 0x80, 0x9F)
  else if 0xE1 ≤ b ∧ b ≤ 0xEF then some (2, 0x80, 0xBF)
  else if b = 0xF0 then some (3, 0x90, 0xBF)
  else if b = 0xF4 then some (3, 0x80, 0x8F)
  else if 0xF1 ≤ b ∧ b ≤ 0xF3 then some (3, 0x80, 0xBF)
  else none

/-- The bits of a first byte that belong to the character. -/
def firstBits (b : UInt8) (count : Nat) : Nat :=
  b.toNat % (if count = 1 then 0x20 else if count = 2 then 0x10 else 0x08)

/-- A character of which bytes are missing: its bits so far, the number of missing bytes and the
range of the next one. -/
structure Pending where
  bits : Nat
  missing : Nat
  low : UInt8
  high : UInt8

/-- What a byte begins: a character of its own, nothing, or a longer character. -/
def utf8Begin (b : UInt8) : List (Option Char) × Option Pending :=
  if b < 0x80 then ([some (Char.ofNat b.toNat)], none)
  else match followers? b with
    | some (count, low, high) => ([], some ⟨firstBits b count, count, low, high⟩)
    | none => ([none], none)

/-- What a byte adds to the character that is pending. -/
def utf8Step (pending : Option Pending) (b : UInt8) : List (Option Char) × Option Pending :=
  match pending with
  | none => utf8Begin b
  | some p =>
    if p.low ≤ b ∧ b ≤ p.high then
      let bits := p.bits * 0x40 + b.toNat % 0x40
      if p.missing = 1 then ([some (Char.ofNat bits)], none)
      else ([], some ⟨bits, p.missing - 1, 0x80, 0xBF⟩)
    else
      let (cs, next) := utf8Begin b
      (none :: cs, next)

/-- The characters of bytes, after those of which one is pending. -/
def utf8Decode (pending : Option Pending) : List UInt8 → List (Option Char)
  | [] => if pending.isSome then [none] else []
  | b :: rest =>
    let (cs, next) := utf8Step pending b
    cs ++ utf8Decode next rest

/-- The text of valid bytes. -/
def ofUtf8? (bytes : List UInt8) : Option (List Char) := (utf8Decode none bytes).mapM id

/-- The text of any bytes, with a replacement character for what is not valid. -/
def ofUtf8Lossy (bytes : List UInt8) : List Char :=
  (utf8Decode none bytes).map fun c => c.getD '\uFFFD'

/-! ## Base 64 -/

/-- The character of six bits. -/
def base64Digit (n : Nat) : Char :=
  if n < 26 then Char.ofNat ('A'.toNat + n)
  else if n < 52 then Char.ofNat ('a'.toNat + (n - 26))
  else if n < 62 then Char.ofNat ('0'.toNat + (n - 52))
  else if n = 62 then '+'
  else '/'

/-- The last `count` digits of a number, the most significant first. -/
def base64Digits (count n : Nat) : List Char :=
  (List.range count).reverse.map fun i => base64Digit (n / Nat.pow 64 i % 64)

def base64 : List UInt8 → List Char
  | [] => []
  | [a] => base64Digits 2 (a.toNat * 16) ++ ['=', '=']
  | [a, b] => base64Digits 3 ((a.toNat * 256 + b.toNat) * 4) ++ ['=']
  | a :: b :: c :: rest =>
    base64Digits 4 ((a.toNat * 256 + b.toNat) * 256 + c.toNat) ++ base64 rest

end LeaseRoutes.Text
