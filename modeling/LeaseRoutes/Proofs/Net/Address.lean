import LeaseRoutes.Net.Address
import Mathlib.Algebra.Group.Nat.Defs

namespace LeaseRoutes

namespace Text

theorem hexNat?_append (high : Nat) (cs ds : List Char) :
    hexNat? high (cs ++ ds) = (hexNat? high cs).bind fun n => hexNat? n ds := by
  induction cs generalizing high with
  | nil => rfl
  | cons c cs ih =>
    rw [List.cons_append, hexNat?, hexNat?]
    split
    · exact ih _
    · rfl

theorem hexNat?_hexDigits (n : Nat) : hexNat? 0 (hexDigits n) = some n := by
  fun_induction hexDigits n with
  | case1 n low => simp [hexNat?, hexDigit?_hexDigit low]
  | case2 n high ih =>
    have value : 16 * (n / 16) + n % 16 = n := Nat.div_add_mod n 16
    simp [hexNat?_append, ih, hexNat?, hexDigit?_hexDigit (Nat.mod_lt n (by decide)), value]

theorem hexDigits_ne_nil (n : Nat) : hexDigits n ≠ [] := by
  fun_cases hexDigits n <;> simp

theorem length_hexDigits_le {n count : Nat} (h : n < 16 ^ (count + 1)) :
    (hexDigits n).length ≤ count + 1 := by
  induction count generalizing n with
  | zero => simp [hexDigits, show n < 16 by simpa using h]
  | succ count ih =>
    unfold hexDigits
    split
    · simp
    · have shorter := ih (n := n / 16) (by rw [Nat.pow_succ] at h; omega)
      simpa using shorter

end Text

open Text

namespace Address

/-! ## Groups -/

theorem group?_hexDigits (g : UInt16) : group? (hexDigits g.toNat) = some g := by
  have length : (hexDigits g.toNat).length ≤ 3 + 1 := length_hexDigits_le g.toNat_lt
  simp [group?, hexDigits_ne_nil, Nat.not_lt.2 length, hexNat?_hexDigits]

theorem colon_notMem_hexDigits (n : Nat) : ':' ∉ hexDigits n := notMem_hexDigits (by decide) n

theorem dot_notMem_hexDigits (n : Nat) : '.' ∉ hexDigits n := notMem_hexDigits (by decide) n

theorem pieceGroups_hexDigits (dotted : Bool) (groups : List UInt16) :
    pieceGroups dotted (groups.map fun g => hexDigits g.toNat) = some groups := by
  induction groups with
  | nil => rfl
  | cons g groups ih =>
    cases groups with
    | nil => simp [pieceGroups, dot_notMem_hexDigits, group?_hexDigits]
    | cons h groups =>
      rw [List.map_cons] at ih
      rw [List.map_cons, List.map_cons, pieceGroups, ih, group?_hexDigits]
      · rfl
      · exact nofun

theorem pieces_groupTexts {groups : List UInt16} (filled : groups ≠ []) :
    pieces ':' (groupTexts groups) = groups.map fun g => hexDigits g.toNat := by
  refine pieces_join (by simpa using filled) fun piece member => ?_
  obtain ⟨g, -, rfl⟩ := List.mem_map.1 member
  exact colon_notMem_hexDigits _

theorem groupTexts_ne_nil {groups : List UInt16} (filled : groups ≠ []) :
    groupTexts groups ≠ [] := by
  match groups with
  | [g] => exact hexDigits_ne_nil _
  | g :: h :: more => simp [groupTexts, join]

theorem sideGroups_groupTexts (dotted : Bool) (groups : List UInt16) :
    sideGroups dotted (groupTexts groups) = some groups := by
  by_cases filled : groups = []
  · subst filled
    rfl
  · rw [sideGroups, if_neg (by simpa using groupTexts_ne_nil filled), pieces_groupTexts filled,
      pieceGroups_hexDigits]

/-! ## The gap -/

/-- No gap begins in a piece without colons. -/
theorem splitGap_append {piece : List Char} (clean : ':' ∉ piece) (rest : List Char) :
    splitGap (piece ++ rest) =
      (splitGap rest).map fun (left, right) => (piece ++ left, right) := by
  induction piece with
  | nil => simp
  | cons c piece ih =>
    rw [List.mem_cons, not_or] at clean
    rw [List.cons_append, splitGap, if_neg fun colon => clean.1 colon.1.symm, ih clean.2,
      Option.map_map]
    rfl

/-- No gap begins with a colon that a digit follows. -/
theorem splitGap_colon (n : Nat) (rest : List Char) :
    splitGap (':' :: (hexDigits n ++ rest)) =
      (splitGap (hexDigits n ++ rest)).map fun (left, right) => (':' :: left, right) := by
  have head : (hexDigits n ++ rest).head? ≠ some ':' := by
    cases shape : hexDigits n with
    | nil => exact absurd shape (hexDigits_ne_nil n)
    | cons c cs =>
      intro colon
      have member : c ∈ hexDigits n := shape ▸ List.mem_cons_self
      rw [List.cons_append, List.head?_cons, Option.some.injEq] at colon
      exact colon_notMem_hexDigits n (colon ▸ member)
  rw [splitGap, if_neg fun gap => head gap.2]

theorem groupTexts_head (g : UInt16) (more : List UInt16) :
    ∃ tail, groupTexts (g :: more) = hexDigits g.toNat ++ tail := by
  cases more with
  | nil => exact ⟨[], (List.append_nil _).symm⟩
  | cons h more => exact ⟨_, rfl⟩

/-- The first gap is behind the last of the groups that stand in front of it. -/
theorem splitGap_groupTexts (groups : List UInt16) (rest : List Char) :
    splitGap (groupTexts groups ++ rest) =
      (splitGap rest).map fun (left, right) => (groupTexts groups ++ left, right) := by
  induction groups with
  | nil => simp [groupTexts, join]
  | cons g groups ih =>
    cases groups with
    | nil => exact splitGap_append (colon_notMem_hexDigits _) rest
    | cons h more =>
      obtain ⟨tail, shape⟩ := groupTexts_head h more
      have texts : groupTexts (g :: h :: more) =
          hexDigits g.toNat ++ ':' :: groupTexts (h :: more) := rfl
      rw [texts, List.append_assoc, splitGap_append (colon_notMem_hexDigits _), List.cons_append]
      rw [shape, List.append_assoc] at ih ⊢
      rw [splitGap_colon, ih, Option.map_map, Option.map_map]
      refine congrFun (congrArg Option.map (funext fun sides => ?_)) _
      cases sides with
      | mk left right => simp

/-! ## The longest run of zeros -/

theorem take_leadingZeros (groups : List UInt16) :
    leadingZeros groups ≤ groups.length ∧
      groups.take (leadingZeros groups) = List.replicate (leadingZeros groups) 0 := by
  induction groups with
  | nil => exact ⟨Nat.le_refl 0, rfl⟩
  | cons g groups ih =>
    rw [leadingZeros]
    split
    · next zero =>
      obtain ⟨le, zeros⟩ := ih
      exact ⟨Nat.succ_le_succ le, by rw [List.take_succ_cons, zeros, zero, List.replicate_succ]⟩
    · exact ⟨Nat.zero_le _, rfl⟩

/-- The run lies within the groups, and there are only zeros in it. -/
theorem zeroRun_spec (groups : List UInt16) :
    (zeroRun groups).1 + (zeroRun groups).2 ≤ groups.length ∧
      groups = groups.take (zeroRun groups).1 ++ List.replicate (zeroRun groups).2 0 ++
        groups.drop ((zeroRun groups).1 + (zeroRun groups).2) := by
  induction groups with
  | nil => exact ⟨Nat.le_refl 0, rfl⟩
  | cons g groups ih =>
    obtain ⟨le, parts⟩ := ih
    simp only [zeroRun]
    split
    · obtain ⟨le, zeros⟩ := take_leadingZeros (g :: groups)
      refine ⟨by simpa using le, ?_⟩
      rw [List.take_zero, List.nil_append, Nat.zero_add, ← zeros, List.take_append_drop]
    · refine ⟨by rw [List.length_cons]; omega, ?_⟩
      rw [Nat.add_right_comm, List.take_succ_cons, List.drop_succ_cons, List.cons_append,
        List.cons_append, ← parts]

/-! ## The whole text -/

theorem ofGroups?_groups (a : Address) : ofGroups? a.groups = some a := dif_pos a.eight

/-- The gap is where the longest run of zeros is, and it is as long. -/
theorem ofText?_compressed (a : Address) :
    ofText? (String.ofList (compressed a.groups)) = some a := by
  obtain ⟨le, parts⟩ := zeroRun_spec a.groups
  have eight := a.eight
  cases run : zeroRun a.groups with
  | mk start length =>
  rw [run] at le parts
  simp only at le parts
  rw [ofText?, String.toList_ofList, compressed, run]
  by_cases long : 1 < length
  · let right := groupTexts (a.groups.drop (start + length))
    have gap : splitGap (groupTexts (a.groups.take start) ++ ([':', ':'] ++ right)) =
        some (groupTexts (a.groups.take start) ++ [], right) :=
      splitGap_groupTexts (a.groups.take start) ([':', ':'] ++ right)
    have missing : 8 - min start a.groups.length - (a.groups.length - (start + length)) = length := by
      omega
    simp only [if_pos long, List.append_assoc, gap, List.append_nil, right, sideGroups_groupTexts,
      Option.bind_eq_bind, Option.bind_some, List.length_take, List.length_drop, missing]
    rw [if_pos (by omega), ← List.append_assoc, ← parts, ofGroups?_groups]
  · have whole := splitGap_groupTexts a.groups []
    rw [List.append_nil] at whole
    simp only [if_neg long, whole, splitGap, Option.map_none, sideGroups_groupTexts,
      Option.bind_some, ofGroups?_groups]

theorem octet?_digits {n : Nat} (h : n < 256) : octet? (digits n) = some n := by
  have all : ∀ m : Fin 256, octet? (digits m) = some m.val := by decide +kernel
  exact all ⟨n, h⟩

/-- A word is put together again from its two octets. -/
theorem word_octets (g : UInt16) :
    g.toNat / 256 < 256 ∧ UInt16.ofNat (256 * (g.toNat / 256) + g.toNat % 256) = g := by
  have small : g.toNat < 65536 := g.toNat_lt
  rw [Nat.div_add_mod, UInt16.ofNat_toNat]
  exact ⟨by omega, rfl⟩

theorem dotted?_dottedText (high low : UInt16) :
    dotted? (dottedText high low) = some [high, low] := by
  have clean : ∀ piece ∈ [high.toNat / 256, high.toNat % 256, low.toNat / 256,
      low.toNat % 256].map digits, '.' ∉ piece := by
    rintro _ member
    obtain ⟨n, -, rfl⟩ := List.mem_map.1 member
    exact notMem_digits rfl n
  have cut : pieces '.' (dottedText high low) = [high.toNat / 256, high.toNat % 256,
      low.toNat / 256, low.toNat % 256].map digits :=
    pieces_join (List.cons_ne_nil _ _) clean
  rw [dotted?, cut]
  simp only [List.map_cons, List.map_nil, octet?_digits (word_octets high).1,
    octet?_digits (word_octets low).1, octet?_digits (Nat.mod_lt _ (by decide : 0 < 256)),
    Option.bind_eq_bind, Option.bind_some, Option.pure_def, word_octets]

theorem ofText?_mapped (high low : UInt16) :
    ofText? (String.ofList ([':', ':', 'f', 'f', 'f', 'f', ':'] ++ dottedText high low)) =
      ofGroups? [0, 0, 0, 0, 0, 0xffff, high, low] := by
  have clean : ':' ∉ dottedText high low := by
    refine notMem_join (by decide) fun piece member => ?_
    obtain ⟨n, -, rfl⟩ := List.mem_map.1 member
    exact notMem_digits rfl n
  have dot : '.' ∈ dottedText high low := mem_join (by simp)
  have cut : pieces ':' (['f', 'f', 'f', 'f'] ++ ':' :: dottedText high low) =
      [['f', 'f', 'f', 'f'], dottedText high low] := by
    rw [pieces_append_cons (by decide), pieces_of_notMem clean]
  have side : sideGroups true (['f', 'f', 'f', 'f'] ++ ':' :: dottedText high low) =
      some [0xffff, high, low] := by
    rw [sideGroups, if_neg (by simp), cut]
    simp [pieceGroups, dot, dotted?_dottedText, show group? ['f', 'f', 'f', 'f'] = some 0xffff by decide]
  have gap : splitGap ([':', ':', 'f', 'f', 'f', 'f', ':'] ++ dottedText high low) =
      some ([], ['f', 'f', 'f', 'f'] ++ ':' :: dottedText high low) := rfl
  rw [ofText?, String.toList_ofList, gap]
  simp only [side]
  rfl

/-- Every address is read back from its text. -/
theorem ofText?_text (a : Address) : ofText? a.text = some a := by
  rw [text, chars]
  split
  · next high low mapped =>
    rw [ofText?_mapped, ← mapped, ofGroups?_groups]
  · exact ofText?_compressed a

end Address

end LeaseRoutes
