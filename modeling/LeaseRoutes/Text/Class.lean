import LeaseRoutes.Text.Hex
/-!
Classes of characters: white space, the digits of all scripts, and classes that are given by a
table of ranges.
-/

namespace LeaseRoutes.Text

/-- The characters with the property White_Space. -/
def isBlank (c : Char) : Bool :=
  let n := c.toNat
  (0x9 ≤ n && n ≤ 0xD) || n == 0x20 || n == 0x85 || n == 0xA0 || n == 0x1680 ||
  (0x2000 ≤ n && n ≤ 0x200A) || n == 0x2028 || n == 0x2029 || n == 0x202F || n == 0x205F ||
  n == 0x3000

/-- The text without the white space at its two ends. -/
def trim (cs : List Char) : List Char :=
  ((cs.dropWhile isBlank).reverse.dropWhile isBlank).reverse

/-- Nothing is left of the text after trimming. -/
def Blank (s : String) : Prop := trim s.toList = []

instance (s : String) : Decidable (Blank s) := inferInstanceAs (Decidable (_ = _))

/-- Decimal digits come in runs of ten, from zero to nine. These are the zeros of all scripts. -/
def digitZeros : List Nat :=
  [0x30, 0x660, 0x6F0, 0x7C0, 0x966, 0x9E6, 0xA66, 0xAE6, 0xB66, 0xBE6, 0xC66, 0xCE6, 0xD66, 0xDE6,
   0xE50, 0xED0, 0xF20, 0x1040, 0x1090, 0x17E0, 0x1810, 0x1946, 0x19D0, 0x1A80, 0x1A90, 0x1B50,
   0x1BB0, 0x1C40, 0x1C50, 0xA620, 0xA8D0, 0xA900, 0xA9D0, 0xA9F0, 0xAA50, 0xABF0, 0xFF10, 0x104A0,
   0x10D30, 0x10D40, 0x11066, 0x110F0, 0x11136, 0x111D0, 0x112F0, 0x11450, 0x114D0, 0x11650,
   0x116C0, 0x116D0, 0x116DA, 0x11730, 0x118E0, 0x11950, 0x11BF0, 0x11C50, 0x11D50, 0x11DA0,
   0x11F50, 0x16130, 0x16A60, 0x16AC0, 0x16B50, 0x16D70, 0x1CCF0, 0x1D7CE, 0x1D7D8,
   0x1D7E2, 0x1D7EC, 0x1D7F6, 0x1E140, 0x1E2F0, 0x1E4F0, 0x1E5F1, 0x1E950, 0x1FBF0]

def isDigit (c : Char) : Bool :=
  digitZeros.any fun start => start ≤ c.toNat && c.toNat < start + 10

/-- What is read of a table, the last row and the last number of a row first. The numbers of a table
are in base 16 with commas between them, a semicolon ends each row, and blanks do not count. -/
structure TableReading where
  rows : List (List Nat)
  row : List Nat
  number : Nat

def TableReading.step (r : TableReading) (c : Char) : TableReading :=
  match c with
  | ' ' | '\n' => r
  | ',' => { r with row := r.number :: r.row, number := 0 }
  | ';' => ⟨(r.number :: r.row).reverse :: r.rows, [], 0⟩
  | c => { r with number := 16 * r.number + (hexDigit? c).getD 0 }

/-- The rows of a table. -/
def tableRows (table : String) : List (List Nat) :=
  (table.toList.foldl TableReading.step ⟨[], [], 0⟩).rows.reverse

/-- The ranges of a table: its rows are the first and the last character of each. -/
def tableRanges (table : String) : List (Nat × Nat) :=
  (tableRows table).filterMap fun row =>
    match row with
    | [first, last] => some (first, last)
    | _ => none

def inRanges (ranges : List (Nat × Nat)) (c : Char) : Bool :=
  ranges.any fun r => r.1 ≤ c.toNat && c.toNat ≤ r.2

end LeaseRoutes.Text
