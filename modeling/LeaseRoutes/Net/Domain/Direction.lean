import LeaseRoutes.Text.Mark
/-!
The directions in which characters are written, and what labels may mix. Once a name has a
character from right to left, each of its labels is read in one direction, which its first letter
tells.
-/

namespace LeaseRoutes.Domain

inductive Direction
  | rightward
  | leftward
  | number
  | arabicNumber
  | mark
  | neutral
  deriving DecidableEq, Repr

/-- Letters from right to left. -/
def leftwardLetters : List (Nat × Nat) := Text.tableRanges
  "5BE,5F4; 608,608; 60B,60B; 60D,60D; 61B,64A; 66D,6D5; 6E5,6E6; 6EE,6EF; 6FA,7F5; 7FA,8C9;
   FBB2,FBC2; FE73,FE73; 10800,1091B; 10920,10B35; 10B40,10D23; 10D4A,10D4F; 10D6F,10D8F;
   10E80,10EC7; 10F00,10FF6; 1E800,1ED3D;"

def arabicNumbers : List (Nat × Nat) := Text.tableRanges
  "660,669; 66B,66C; 10D30,10D49; 10E60,10E7E;"

def numbers : List (Nat × Nat) := Text.tableRanges
  "30,39; 6F0,6F9; 102E1,102FB;"

def neutrals : List (Nat × Nat) := Text.tableRanges
  "0,2F; 3A,60; 7B,D7; F7,F7; 2B9,2BA; 2C2,2CF; 2D2,2ED; 2EF,2FF; 375,375; 3F6,3F6; 58A,58F;
   606,607; 609,60A; 60C,60C; 60E,60F; 66A,66A; 6DE,6DE; 6E9,6E9; 7F6,7F9; 9F2,9F3; 9FB,9FB;
   AF1,AF1; BF3,BFA; C78,C7E; E3F,E3F; F3A,F3D; 1390,1399; 1400,1400; 169B,169C; 17DB,17DB;
   17F0,180A; 1940,1945; 19DE,19FF; 200C,214D; 218A,2335; 237B,2394; 2396,26AB; 26AD,27FF;
   2900,2BFF; 2CE5,2CEA; 2CF9,2CFF; 2E00,3004; 3008,3020; 3030,3030; 3037,3037; 303D,303F;
   30A0,30A0; 30FB,30FB; 31C0,31E5; 4DC0,4DFF; A490,A4C6; A60D,A60F; A673,A67F; A700,A721;
   A788,A788; A828,A82B; A838,A839; A874,A877; AB6A,AB6B; FBC3,FE46; 10101,10101; 10140,1018C;
   10190,101A0; 1091F,1091F; 10B39,10B3F; 10D6E,10D6E; 10ED0,10ED8; 11052,11065; 11660,1166C;
   11FD5,11FF1; 16FE2,16FE2; 1CC00,1CEF0; 1D1E9,1D245; 1D300,1D356; 1E2FF,1E2FF; 1EEF0,1F12F;
   1F16D,1F16F; 1F1AD,1F1AD; 1F260,1FBFA;"

/-- Marks written like the letters from left to right. -/
def rightwardMarks : List Nat := [0xCBF, 0xCC6, 0x11A07, 0x11A08, 0x11C3F]

def Direction.ofChar (c : Char) : Direction :=
  if Text.isNonspacing c then if rightwardMarks.contains c.toNat then .rightward else .mark
  else if Text.inRanges leftwardLetters c then .leftward
  else if Text.inRanges arabicNumbers c then .arabicNumber
  else if Text.inRanges numbers c then .number
  else if Text.inRanges neutrals c then .neutral
  else .rightward

def isLeftward (c : Char) : Bool :=
  match Direction.ofChar c with
  | .leftward | .arabicNumber => true
  | _ => false

/-- Whether a label is read in one direction. Marks at its end do not count, and a label from right
to left has numbers of one kind. -/
def hasOneDirection (label : List Char) : Bool :=
  let all := label.map Direction.ofChar
  let last? := all.reverse.find? (· ≠ .mark)
  match all with
  | [] => true
  | .rightward :: _ =>
    !all.contains .leftward && !all.contains .arabicNumber &&
      (last? == some .rightward || last? == some .number)
  | .leftward :: _ =>
    !all.contains .rightward && !(all.contains .number && all.contains .arabicNumber) &&
      last? != some .neutral
  | _ => false

end LeaseRoutes.Domain
