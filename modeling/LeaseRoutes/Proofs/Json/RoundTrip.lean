import LeaseRoutes.Proofs.Json.Grammar

namespace LeaseRoutes.Json

open Document

mutual

/-- All numbers are whole and fit 64 bits. -/
def Exact : Json → Prop
  | .num (.whole n) => Fits n
  | .num (.real _) => False
  | .arr items => ExactItems items
  | .obj members => ExactMembers members
  | .null | .bool _ | .str _ => True

def ExactItems : List Json → Prop
  | [] => True
  | x :: xs => Exact x ∧ ExactItems xs

def ExactMembers : List (String × Json) → Prop
  | [] => True
  | (_, x) :: xs => Exact x ∧ ExactMembers xs

end

mutual

/-- How deep arrays and objects are nested. -/
def depth : Json → Nat
  | .arr items => depthItems items + 1
  | .obj members => depthMembers members + 1
  | .null | .bool _ | .num _ | .str _ => 0

def depthItems : List Json → Nat
  | [] => 0
  | x :: xs => max (depth x) (depthItems xs)

def depthMembers : List (String × Json) → Nat
  | [] => 0
  | (_, x) :: xs => max (depth x) (depthMembers xs)

end

mutual

/-- The value with the members of its objects in order. -/
def normal : Json → Json
  | .arr items => .arr (normalItems items)
  | .obj members => object (normalMembers members)
  | .null => .null
  | .bool b => .bool b
  | .num n => .num n
  | .str s => .str s

def normalItems : List Json → List Json
  | [] => []
  | x :: xs => normal x :: normalItems xs

def normalMembers : List (String × Json) → List (String × Json)
  | [] => []
  | (k, x) :: xs => (k, normal x) :: normalMembers xs

end

/-! ## Members of arrays and objects -/

theorem exactItems_iff {xs : List Json} : ExactItems xs ↔ ∀ x ∈ xs, Exact x := by
  induction xs with
  | nil => simp [ExactItems]
  | cons x xs ih => rw [ExactItems, ih, List.forall_mem_cons]

theorem exactMembers_iff {xs : List (String × Json)} :
    ExactMembers xs ↔ ∀ m ∈ xs, Exact m.2 := by
  induction xs with
  | nil => simp [ExactMembers]
  | cons m xs ih => rw [ExactMembers, ih, List.forall_mem_cons]

theorem depthItems_le_iff {xs : List Json} {n : Nat} :
    depthItems xs ≤ n ↔ ∀ x ∈ xs, depth x ≤ n := by
  induction xs with
  | nil => simp [depthItems]
  | cons x xs ih => rw [depthItems, Nat.max_le, ih, List.forall_mem_cons]

theorem depthMembers_le_iff {xs : List (String × Json)} {n : Nat} :
    depthMembers xs ≤ n ↔ ∀ m ∈ xs, depth m.2 ≤ n := by
  induction xs with
  | nil => simp [depthMembers]
  | cons m xs ih => rw [depthMembers, Nat.max_le, ih, List.forall_mem_cons]

theorem normalItems_eq_map (xs : List Json) : normalItems xs = xs.map normal := by
  induction xs with
  | nil => rfl
  | cons x xs ih => rw [normalItems, ih, List.map_cons]

theorem normalMembers_eq_map (xs : List (String × Json)) :
    normalMembers xs = xs.map fun m => (m.1, normal m.2) := by
  induction xs with
  | nil => rfl
  | cons m xs ih => rw [normalMembers, ih, List.map_cons]

theorem keys_normalMembers (xs : List (String × Json)) :
    (normalMembers xs).map Prod.fst = xs.map Prod.fst := by
  rw [normalMembers_eq_map, List.map_map]
  rfl

theorem get?_normal_of_mem {members : List (String × Json)} {key : String} {value : Json}
    (distinct : (members.map Prod.fst).Nodup) (member : (key, value) ∈ members) :
    (normal (.obj members)).get? key = some (normal value) := by
  rw [← keys_normalMembers] at distinct
  refine get?_object_of_mem distinct ?_
  rw [normalMembers_eq_map]
  exact List.mem_map_of_mem member

theorem get?_normal_of_notMem {members : List (String × Json)} {key : String}
    (absent : key ∉ members.map Prod.fst) : (normal (.obj members)).get? key = none := by
  rw [← keys_normalMembers] at absent
  exact get?_object_of_notMem absent

/-! ## From the text to the tree -/

theorem written_member (k : String) {d : Document} {cs : List Char}
    (value : Written (.value d) cs) : Written (.member (.str k) d) (quote k ++ ':' :: cs) :=
  .member (Written.str (quoted_quote k)).bare rfl value.bare

mutual

/-- The text of a value follows the grammar. -/
theorem written_print (j : Json) (exact : Exact j) : Written (.value (ofJson j)) (print j) := by
  match j with
  | .null => exact .null
  | .bool true => exact .true
  | .bool false => exact .false
  | .num (.whole n) =>
    obtain ⟨l, numeral, number⟩ := numeral_signed exact
    exact .num numeral number
  | .str s => exact .str (quoted_quote s)
  | .arr [] => exact .emptyArr nofun
  | .arr (x :: xs) => exact .arr (written_printItems (x :: xs) nofun exact)
  | .obj [] => exact .emptyObj nofun
  | .obj (m :: ms) => exact .obj (written_printMembers (m :: ms) nofun exact)

theorem written_printItems (items : List Json) (filled : items ≠ []) (exact : ExactItems items) :
    Written (.elements (ofItems items)) (printItems items) := by
  match items with
  | [x] => exact .lastElement (written_print x exact.1).bare
  | x :: y :: xs =>
    exact .nextElement (written_print x exact.1).bare (written_printItems (y :: xs) nofun exact.2)

theorem written_printMembers (members : List (String × Json)) (filled : members ≠ [])
    (exact : ExactMembers members) :
    Written (.members (ofMembers members)) (printMembers members) := by
  match members with
  | [(k, x)] => exact .lastMember (written_member k (written_print x exact.1))
  | (k, x) :: m :: ms =>
    have first := written_member k (written_print x exact.1)
    exact .nextMember first (written_printMembers (m :: ms) nofun exact.2)

end

/-- The text of a value is one of its tree. -/
theorem writtenAs_text {j : Json} (exact : Exact j) : (ofJson j).WrittenAs j.text := by
  rw [WrittenAs, text, String.toList_ofList]
  exact (written_print j exact).bare

/-! ## From the tree to the value -/

mutual

theorem toJson?_ofJson (j : Json) {n : Nat} (shallow : depth j ≤ n) :
    toJson? n (ofJson j) = some (normal j) := by
  match j with
  | .null | .bool _ | .num _ | .str _ => simp only [ofJson, toJson?, normal]
  | .arr items =>
    rw [depth] at shallow
    obtain ⟨n, rfl⟩ : ∃ m, n = m + 1 := ⟨n - 1, by omega⟩
    rw [ofJson, toJson?, toItems?_ofItems items (by omega), normal, Option.map_some]
  | .obj members =>
    rw [depth] at shallow
    obtain ⟨n, rfl⟩ : ∃ m, n = m + 1 := ⟨n - 1, by omega⟩
    rw [ofJson, toJson?, toMembers?_ofMembers members (by omega), normal, Option.map_some]

theorem toItems?_ofItems (xs : List Json) {n : Nat} (shallow : depthItems xs ≤ n) :
    toItems? n (ofItems xs) = some (normalItems xs) := by
  match xs with
  | [] => rfl
  | x :: xs =>
    obtain ⟨first, others⟩ := Nat.max_le.1 shallow
    rw [ofItems, toItems?, toJson?_ofJson x first, toItems?_ofItems xs others]
    rfl

theorem toMembers?_ofMembers (xs : List (String × Json)) {n : Nat}
    (shallow : depthMembers xs ≤ n) :
    toMembers? n (ofMembers xs) = some (normalMembers xs) := by
  match xs with
  | [] => rfl
  | (k, x) :: xs =>
    obtain ⟨first, others⟩ := Nat.max_le.1 shallow
    rw [ofMembers, toMembers?, toJson?_ofJson x first, toMembers?_ofMembers xs others]
    rfl

end

/-- A value is read back from its text, the members of its objects in order. -/
theorem ofText?_text {j : Json} (exact : Exact j) (shallow : depth j ≤ depthLimit) :
    ofText? j.text = some (normal j) := by
  rw [ofText?, ofText_of_writtenAs (writtenAs_text exact)]
  exact toJson?_ofJson j shallow

/-! ## Trees that have a value -/

mutual

/-- How deep the arrays and objects of a tree are nested. -/
def Document.levels : Document → Nat
  | .arr items _ => levelsItems items + 1
  | .obj members _ => levelsMembers members + 1
  | .null | .bool _ | .num _ | .hugeNum | .str _ | .badStr | .broken => 0

def Document.levelsItems : List Document → Nat
  | [] => 0
  | x :: xs => max (levels x) (levelsItems xs)

def Document.levelsMembers : List (Document × Document) → Nat
  | [] => 0
  | (_, x) :: xs => max (levels x) (levelsMembers xs)

end

mutual

/-- No number is beyond the doubles and no surrogate stands alone. -/
def Document.ordinary : Document → Bool
  | .arr items closed => ordinaryItems items && closed
  | .obj members closed => ordinaryMembers members && closed
  | .null | .bool _ | .num _ | .str _ => true
  | .hugeNum | .badStr | .broken => false

def Document.ordinaryItems : List Document → Bool
  | [] => true
  | x :: xs => ordinary x && ordinaryItems xs

def Document.ordinaryMembers : List (Document × Document) → Bool
  | [] => true
  | (.str _, x) :: xs => ordinary x && ordinaryMembers xs
  | _ :: _ => false

end

mutual

/-- A tree has a value if nothing in it is out of range and it is not nested too deep. -/
theorem toJson?_isSome_iff (d : Document) (n : Nat) :
    (d.toJson? n).isSome ↔ d.levels ≤ n ∧ d.ordinary := by
  match d, n with
  | .null, _ | .bool _, _ | .num _, _ | .str _, _ => simp [toJson?, levels, ordinary]
  | .hugeNum, _ | .badStr, _ | .broken, _ => simp [toJson?, ordinary]
  | .arr items false, _ | .obj members false, _ => simp [toJson?, ordinary]
  | .arr items true, 0 | .obj members true, 0 => simp [toJson?, levels]
  | .arr items true, n + 1 =>
    simp [toJson?, levels, ordinary, toItems?_isSome_iff items n]
  | .obj members true, n + 1 =>
    simp [toJson?, levels, ordinary, toMembers?_isSome_iff members n]

theorem toItems?_isSome_iff (ds : List Document) (n : Nat) :
    (toItems? n ds).isSome ↔ levelsItems ds ≤ n ∧ ordinaryItems ds := by
  match ds with
  | [] => simp [toItems?, levelsItems, ordinaryItems]
  | x :: xs =>
    have both : (toItems? n (x :: xs)).isSome ↔ (x.toJson? n).isSome ∧ (toItems? n xs).isSome := by
      rw [toItems?]
      cases x.toJson? n <;> cases toItems? n xs <;> simp
    rw [both, toJson?_isSome_iff x n, toItems?_isSome_iff xs n, levelsItems, ordinaryItems,
      Nat.max_le, Bool.and_eq_true]
    exact and_and_and_comm

theorem toMembers?_isSome_iff (ms : List (Document × Document)) (n : Nat) :
    (toMembers? n ms).isSome ↔ levelsMembers ms ≤ n ∧ ordinaryMembers ms := by
  match ms with
  | [] => simp [toMembers?, levelsMembers, ordinaryMembers]
  | (.str k, x) :: xs =>
    have both : (toMembers? n ((.str k, x) :: xs)).isSome ↔
        (x.toJson? n).isSome ∧ (toMembers? n xs).isSome := by
      rw [toMembers?]
      cases x.toJson? n <;> cases toMembers? n xs <;> simp
    rw [both, toJson?_isSome_iff x n, toMembers?_isSome_iff xs n, levelsMembers, ordinaryMembers,
      Nat.max_le, Bool.and_eq_true]
    exact and_and_and_comm
  | (.null, _) :: _ | (.bool _, _) :: _ | (.num _, _) :: _ | (.hugeNum, _) :: _
  | (.badStr, _) :: _ | (.arr _ _, _) :: _ | (.obj _ _, _) :: _ | (.broken, _) :: _ =>
    simp [toMembers?, ordinaryMembers]

end

end LeaseRoutes.Json
