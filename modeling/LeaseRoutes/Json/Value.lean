import LeaseRoutes.Decimal.Double
/-!
JSON values. Whole numbers of 64 bits, signed or unsigned, are kept exactly and all other numbers
as doubles. The members of an object stand in the order of their keys and no key occurs twice.
-/

namespace LeaseRoutes

/-- A key is looked up in one entry after the other. -/
theorem lookup_cons_eq [DecidableEq α] (other k : α) (v : β) (rest : List (α × β)) :
    ((k, v) :: rest).lookup other = if other = k then some v else rest.lookup other := by
  by_cases h : other = k
  · simp [h]
  · simp [List.lookup_cons, h, beq_eq_false_iff_ne.mpr h]

/-- A computation gives a result if both its steps do. -/
theorem bind_eq_ok_iff {ε α β : Type} {x : Except ε α} {f : α → Except ε β} {b : β} :
    (x >>= f) = .ok b ↔ ∃ a, x = .ok a ∧ f a = .ok b := by
  cases x with
  | error => exact ⟨nofun, nofun⟩
  | ok a => exact ⟨fun h => ⟨a, rfl, h⟩, fun ⟨_, same, h⟩ => Except.ok.inj same ▸ h⟩

/-- A number is whole when it was written without point and exponent and fits 64 bits. -/
inductive Number
  | whole (n : Int)
  | real (d : Double)
  deriving DecidableEq, Repr

inductive Json
  | null
  | bool (b : Bool)
  | num (n : Number)
  | str (s : String)
  | arr (items : List Json)
  | obj (members : List (String × Json))
  deriving Repr, Inhabited

namespace Json

mutual

def decEq : (a b : Json) → Decidable (a = b)
  | .null, b => match b with
    | .null => isTrue rfl
    | .bool _ | .num _ | .str _ | .arr _ | .obj _ => isFalse nofun
  | .bool x, b => match b with
    | .bool y => decidable_of_iff (x = y) (by simp)
    | .null | .num _ | .str _ | .arr _ | .obj _ => isFalse nofun
  | .num x, b => match b with
    | .num y => decidable_of_iff (x = y) (by simp)
    | .null | .bool _ | .str _ | .arr _ | .obj _ => isFalse nofun
  | .str x, b => match b with
    | .str y => decidable_of_iff (x = y) (by simp)
    | .null | .bool _ | .num _ | .arr _ | .obj _ => isFalse nofun
  | .arr xs, b => match b with
    | .arr ys => have := decEqItems xs ys; decidable_of_iff (xs = ys) (by simp)
    | .null | .bool _ | .num _ | .str _ | .obj _ => isFalse nofun
  | .obj xs, b => match b with
    | .obj ys => have := decEqMembers xs ys; decidable_of_iff (xs = ys) (by simp)
    | .null | .bool _ | .num _ | .str _ | .arr _ => isFalse nofun

def decEqItems : (xs ys : List Json) → Decidable (xs = ys)
  | [], [] => isTrue rfl
  | [], _ :: _ | _ :: _, [] => isFalse nofun
  | x :: xs, y :: ys =>
    have := decEq x y
    have := decEqItems xs ys
    decidable_of_iff (x = y ∧ xs = ys) (by simp)

def decEqMembers : (xs ys : List (String × Json)) → Decidable (xs = ys)
  | [], [] => isTrue rfl
  | [], _ :: _ | _ :: _, [] => isFalse nofun
  | (k, x) :: xs, (l, y) :: ys =>
    have := decEq x y
    have := decEqMembers xs ys
    decidable_of_iff ((k = l ∧ x = y) ∧ xs = ys) (by simp)

end

instance : DecidableEq Json := decEq

/-- Sets one member: a key that is there gets the new value. -/
def setMember (key : String) (value : Json) : List (String × Json) → List (String × Json)
  | [] => [(key, value)]
  | (k, v) :: rest =>
    if key = k then (key, value) :: rest
    else if key < k then (key, value) :: (k, v) :: rest
    else (k, v) :: setMember key value rest

/-- The object with these members; of a repeated key the last value stays. -/
def object (members : List (String × Json)) : Json :=
  .obj (members.foldl (fun sorted m => setMember m.1 m.2 sorted) [])

/-- The member of an object. Other values have none. -/
def get? (key : String) : Json → Option Json
  | .obj members => members.lookup key
  | _ => none

def ofNat (n : Nat) : Json := .num (.whole n)

def ofInt (n : Int) : Json := .num (.whole n)

/-- `null` stands for a value that is absent. -/
def ofOption (f : α → Json) : Option α → Json
  | some a => f a
  | none => .null

theorem lookup_setMember (key other : String) (value : Json) (members : List (String × Json)) :
    (setMember key value members).lookup other =
      if other = key then some value else members.lookup other := by
  induction members with
  | nil => simp [setMember, lookup_cons_eq]
  | cons m rest ih =>
    obtain ⟨k, v⟩ := m
    unfold setMember
    split
    · next h => subst h; grind [lookup_cons_eq]
    · split <;> grind [lookup_cons_eq]

theorem setMember_of_lt {key k : String} (before : key < k) (value v : Json)
    (rest : List (String × Json)) :
    setMember key value ((k, v) :: rest) = (key, value) :: (k, v) :: rest := by
  rw [setMember, if_neg (String.ne_of_lt before), if_pos before]

theorem setMember_of_gt {key k : String} (behind : k < key) (value v : Json)
    (rest : List (String × Json)) :
    setMember key value ((k, v) :: rest) = (k, v) :: setMember key value rest := by
  rw [setMember, if_neg (String.ne_of_lt behind).symm, if_neg (String.lt_asymm behind)]

/-- Members with other keys change nothing. -/
theorem lookup_foldl_setMember {key : String} {members : List (String × Json)}
    (absent : key ∉ members.map Prod.fst) (sorted : List (String × Json)) :
    (members.foldl (fun sorted m => setMember m.1 m.2 sorted) sorted).lookup key =
      sorted.lookup key := by
  induction members generalizing sorted with
  | nil => rfl
  | cons m rest ih =>
    rw [List.map_cons, List.mem_cons, not_or] at absent
    rw [List.foldl_cons, ih absent.2, lookup_setMember, if_neg absent.1]

theorem get?_object_of_notMem {key : String} {members : List (String × Json)}
    (absent : key ∉ members.map Prod.fst) : (object members).get? key = none :=
  lookup_foldl_setMember absent []

theorem get?_object_of_mem {key : String} {value : Json} {members : List (String × Json)}
    (distinct : (members.map Prod.fst).Nodup) (member : (key, value) ∈ members) :
    (object members).get? key = some value := by
  rw [object, get?]
  generalize [] = sorted
  induction members generalizing sorted with
  | nil => cases member
  | cons m rest ih =>
    rw [List.map_cons, List.nodup_cons] at distinct
    rw [List.foldl_cons]
    rcases List.mem_cons.1 member with rfl | member
    · rw [lookup_foldl_setMember distinct.1, lookup_setMember, if_pos rfl]
    · exact ih distinct.2 member _

end Json

end LeaseRoutes
