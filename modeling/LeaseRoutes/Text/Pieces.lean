namespace LeaseRoutes.Text

/-- The pieces of a text between the occurrences of `sep`. -/
def pieces (sep : Char) : List Char → List (List Char)
  | [] => [[]]
  | c :: rest =>
    if c = sep then [] :: pieces sep rest
    else match pieces sep rest with
      | [] => [[c]]
      | piece :: more => (c :: piece) :: more

/-- Writes the pieces one after the other with `sep` between them. -/
def join (sep : Char) : List (List Char) → List Char
  | [] => []
  | [piece] => piece
  | piece :: more => piece ++ sep :: join sep more

theorem pieces_ne_nil (sep : Char) (cs : List Char) : pieces sep cs ≠ [] := by
  cases cs with
  | nil => simp [pieces]
  | cons c rest =>
    unfold pieces
    split
    · simp
    · split <;> simp

theorem join_pieces (sep : Char) (cs : List Char) : join sep (pieces sep cs) = cs := by
  induction cs with
  | nil => rfl
  | cons c rest ih =>
    unfold pieces
    split
    · next h =>
      cases hp : pieces sep rest with
      | nil => exact absurd hp (pieces_ne_nil sep rest)
      | cons piece more => rw [hp] at ih; simp [join, ih, h]
    · cases hp : pieces sep rest with
      | nil => exact absurd hp (pieces_ne_nil sep rest)
      | cons piece more =>
        rw [hp] at ih
        cases more with
        | nil => simpa [join] using ih
        | cons next more => simpa [join] using ih

theorem pieces_of_notMem {sep : Char} {piece : List Char} (clean : sep ∉ piece) :
    pieces sep piece = [piece] := by
  induction piece with
  | nil => rfl
  | cons c piece ih =>
    rw [List.mem_cons, not_or] at clean
    rw [pieces, if_neg (Ne.symm clean.1), ih clean.2]

theorem pieces_append_cons {sep : Char} {piece : List Char} (clean : sep ∉ piece)
    (rest : List Char) : pieces sep (piece ++ sep :: rest) = piece :: pieces sep rest := by
  induction piece with
  | nil => rw [List.nil_append, pieces, if_pos rfl]
  | cons c piece ih =>
    rw [List.mem_cons, not_or] at clean
    rw [List.cons_append, pieces, if_neg (Ne.symm clean.1), ih clean.2]

/-- What was joined is cut again, if the separator is in no piece. -/
theorem pieces_join {sep : Char} {groups : List (List Char)} (filled : groups ≠ [])
    (clean : ∀ group ∈ groups, sep ∉ group) : pieces sep (join sep groups) = groups := by
  fun_induction join sep groups with
  | case1 => exact absurd rfl filled
  | case2 piece => exact pieces_of_notMem (clean piece (by simp))
  | case3 piece more more_ne ih =>
    have others := ih (fun none => more_ne none) fun group member =>
      clean group (List.mem_cons_of_mem _ member)
    rw [pieces_append_cons (clean piece (by simp)), others]

theorem mem_join {sep : Char} {groups : List (List Char)} (several : 1 < groups.length) :
    sep ∈ join sep groups := by
  match groups with
  | piece :: next :: more => simp [join]

theorem mem_join_of_mem {c sep : Char} {groups : List (List Char)} {group : List Char}
    (among : group ∈ groups) (member : c ∈ group) : c ∈ join sep groups := by
  fun_induction join sep groups with
  | case1 => cases among
  | case2 piece => exact List.mem_singleton.1 among ▸ member
  | case3 piece more _ ih =>
    rw [List.mem_append, List.mem_cons]
    rcases List.mem_cons.1 among with rfl | later
    · exact .inl member
    · exact .inr (.inr (ih later))

theorem notMem_join {c sep : Char} (other : c ≠ sep) {pieces : List (List Char)}
    (h : ∀ piece ∈ pieces, c ∉ piece) : c ∉ join sep pieces := by
  fun_induction join sep pieces with
  | case1 => exact List.not_mem_nil
  | case2 piece => exact h piece (by simp)
  | case3 piece more _ ih =>
    have later := ih fun p member => h p (List.mem_cons_of_mem _ member)
    simp [h piece (by simp), other, later]

end LeaseRoutes.Text
