import LeaseRoutes.Rpc.Batch

namespace LeaseRoutes.Rpc

/-- The command with this id and this text. -/
def Command.ofPair (p : Int64 × String) : Command := ⟨p.1, p.2⟩

namespace Batch

def ids (b : Batch) : List Int64 := b.commands.map Command.id

/-! ## One command -/

theorem any_id_iff (b : Batch) (id : Int64) :
    (b.commands.any fun c => c.id = id) = true ↔ id ∈ b.ids := by
  simp [ids]

theorem push_of_mem {b : Batch} {id : Int64} (there : id ∈ b.ids) (command : String) :
    b.push id command = .error ⟨id⟩ :=
  if_pos ((b.any_id_iff id).2 there)

theorem push_of_notMem {b : Batch} {id : Int64} (absent : id ∉ b.ids) (command : String) :
    b.push id command = .ok ⟨b.commands ++ [⟨id, command⟩]⟩ :=
  if_neg (mt (b.any_id_iff id).1 absent)

theorem offer_of_mem {b : Batch} {id : Int64} (there : id ∈ b.ids) (command : String) :
    b.offer id command = (some ⟨id⟩, b) := by
  rw [offer, push_of_mem there]

theorem offer_of_notMem {b : Batch} {id : Int64} (absent : id ∉ b.ids) (command : String) :
    b.offer id command = (none, ⟨b.commands ++ [⟨id, command⟩]⟩) := by
  rw [offer, push_of_notMem absent]

theorem nodup_offer {b : Batch} (h : b.ids.Nodup) (id : Int64) (command : String) :
    (b.offer id command).2.ids.Nodup := by
  by_cases there : id ∈ b.ids
  · rwa [offer_of_mem there]
  · rw [offer_of_notMem there, ids, List.map_append, List.nodup_append]
    refine ⟨h, List.pairwise_singleton _ _, fun old member new same => ?_⟩
    rw [List.mem_singleton.1 same]
    rintro rfl
    exact there member

/-- Whether the command is taken or not, the batch then has its id. -/
theorem mem_ids_offer (b : Batch) (id other : Int64) (command : String) :
    other ∈ (b.offer id command).2.ids ↔ other ∈ b.ids ∨ other = id := by
  by_cases there : id ∈ b.ids
  · rw [offer_of_mem there]
    constructor
    · exact .inl
    · rintro (old | rfl)
      · exact old
      · exact there
  · rw [offer_of_notMem there, ids, List.map_append, List.mem_append]
    exact or_congr_right List.mem_singleton

/-! ## Many commands -/

/-- Offers commands one after the other, whether or not some of them are refused. -/
def offerAll (b : Batch) : List (Int64 × String) → List (Option DuplicateId) × Batch
  | [] => ([], b)
  | (id, command) :: rest =>
    let (refusal, b) := b.offer id command
    let (refusals, b) := b.offerAll rest
    (refusal :: refusals, b)

/-- The commands that were not refused, in their order. -/
def taken (offers : List (Int64 × String)) (refusals : List (Option DuplicateId)) : List Command :=
  ((offers.zip refusals).filter fun o => o.2.isNone).map fun o => .ofPair o.1

theorem nodup_offerAll {b : Batch} (h : b.ids.Nodup) (offers : List (Int64 × String)) :
    (b.offerAll offers).2.ids.Nodup := by
  induction offers generalizing b with
  | nil => exact h
  | cons o offers ih => exact ih (nodup_offer h o.1 o.2)

theorem commands_offerAll (b : Batch) (offers : List (Int64 × String)) :
    (b.offerAll offers).2.commands = b.commands ++ taken offers (b.offerAll offers).1 := by
  induction offers generalizing b with
  | nil => exact (List.append_nil _).symm
  | cons o offers ih =>
    obtain ⟨id, command⟩ := o
    change ((b.offer id command).2.offerAll offers).2.commands = _
    rw [ih]
    by_cases there : id ∈ b.ids
    · simp [offerAll, offer_of_mem there, taken]
    · simp [offerAll, offer_of_notMem there, taken, Command.ofPair]

/-- An offer is refused for the ids of the batch and of the offers before it. -/
theorem refusals_offerAll (b : Batch) (before after : List (Int64 × String)) (id : Int64)
    (command : String) :
    (b.offerAll (before ++ (id, command) :: after)).1[before.length]? =
      some (if id ∈ b.ids ∨ id ∈ before.map Prod.fst then some ⟨id⟩ else none) := by
  induction before generalizing b with
  | nil =>
    simp only [List.nil_append, List.map_nil, List.not_mem_nil, or_false]
    by_cases there : id ∈ b.ids
    · simp [offerAll, offer_of_mem there, there]
    · simp [offerAll, offer_of_notMem there, there]
  | cons o before ih =>
    obtain ⟨first, text⟩ := o
    change ((b.offer first text).2.offerAll
      (before ++ (id, command) :: after)).1[before.length]? = _
    simp only [ih, mem_ids_offer, List.map_cons, List.mem_cons, or_assoc]

/-! ## All at once -/

/-- Pushes commands one after the other up to the first that is refused. -/
def pushAll (b : Batch) (pairs : List (Int64 × String)) : Except DuplicateId Batch :=
  pairs.foldlM (fun b p => b.push p.1 p.2) b

theorem pushAll_cons_of_mem {b : Batch} {id : Int64} (there : id ∈ b.ids) (command : String)
    (pairs : List (Int64 × String)) : b.pushAll ((id, command) :: pairs) = .error ⟨id⟩ := by
  rw [pushAll, List.foldlM_cons, push_of_mem there]
  rfl

theorem pushAll_cons_of_notMem {b : Batch} {id : Int64} (absent : id ∉ b.ids) (command : String)
    (pairs : List (Int64 × String)) :
    b.pushAll ((id, command) :: pairs) = (b.offer id command).2.pushAll pairs := by
  rw [pushAll, List.foldlM_cons, push_of_notMem absent, offer_of_notMem absent]
  rfl

/-- The set of ids that were seen is all that pushing needs to know of the batch. -/
theorem pushAll_eq_distinct (pairs : List (Int64 × String)) {seen : List Int64} {b : Batch}
    (same : ∀ id, id ∈ seen ↔ id ∈ b.ids) :
    b.pushAll pairs = (distinct seen pairs).map fun cs => ⟨b.commands ++ cs⟩ := by
  induction pairs generalizing seen b with
  | nil => simp [pushAll, distinct, Except.map, pure, Except.pure]
  | cons p pairs ih =>
    obtain ⟨id, command⟩ := p
    by_cases there : id ∈ b.ids
    · rw [pushAll_cons_of_mem there, distinct, if_pos ((same id).2 there)]
      rfl
    · have later : ∀ other, other ∈ id :: seen ↔ other ∈ (b.offer id command).2.ids := by
        intro other
        rw [List.mem_cons, mem_ids_offer, same, or_comm]
      rw [pushAll_cons_of_notMem there, ih later, distinct, if_neg (mt (same id).1 there),
        offer_of_notMem there]
      cases distinct (id :: seen) pairs with
      | error e => rfl
      | ok cs => simp [Except.map, bind, Except.bind, pure, Except.pure]

theorem ofPairs_eq_pushAll (pairs : List (Int64 × String)) :
    ofPairs pairs = empty.pushAll pairs := by
  have same : ∀ id, id ∈ ([] : List Int64) ↔ id ∈ empty.ids := fun _ => Iff.rfl
  rw [pushAll_eq_distinct pairs same]
  rfl

/-- What is pushed without a fault is there. -/
theorem offerAll_of_pushAll {b c : Batch} {pairs : List (Int64 × String)}
    (h : b.pushAll pairs = .ok c) :
    (b.offerAll pairs).2 = c ∧ c.commands = b.commands ++ pairs.map .ofPair := by
  induction pairs generalizing b with
  | nil =>
    obtain rfl := Except.ok.inj h
    exact ⟨rfl, (List.append_nil _).symm⟩
  | cons p pairs ih =>
    obtain ⟨id, command⟩ := p
    by_cases there : id ∈ b.ids
    · rw [pushAll_cons_of_mem there] at h
      cases h
    · rw [pushAll_cons_of_notMem there] at h
      obtain ⟨same, commands⟩ := ih h
      refine ⟨same, ?_⟩
      rw [commands, offer_of_notMem there, List.map_cons, List.append_assoc]
      rfl

/-- The fault is that of the first push that fails. -/
theorem pushAll_eq_error_iff {b : Batch} {pairs : List (Int64 × String)} {e : DuplicateId} :
    b.pushAll pairs = .error e ↔ ∃ before id command after c,
      pairs = before ++ (id, command) :: after ∧ b.pushAll before = .ok c ∧
      c.push id command = .error e := by
  constructor
  · intro h
    induction pairs generalizing b with
    | nil => cases h
    | cons p pairs ih =>
      obtain ⟨id, command⟩ := p
      by_cases there : id ∈ b.ids
      · rw [pushAll_cons_of_mem there] at h
        exact ⟨[], id, command, pairs, b, rfl, rfl, (push_of_mem there command).trans h⟩
      · rw [pushAll_cons_of_notMem there] at h
        obtain ⟨before, other, text, after, c, rfl, pushed, failed⟩ := ih h
        refine ⟨(id, command) :: before, other, text, after, c, rfl, ?_, failed⟩
        rw [pushAll_cons_of_notMem there, pushed]
  · rintro ⟨before, id, command, after, c, rfl, pushed, failed⟩
    rw [pushAll, List.foldlM_append]
    change (b.pushAll before >>= fun d => d.pushAll ((id, command) :: after)) = _
    rw [pushed]
    change (c.push id command >>= fun d => d.pushAll after) = _
    rw [failed]
    rfl

/-! ## Batches that were built -/

/-- A batch with no command, with one, or with those of some pairs. -/
inductive Begun : Batch → Prop
  | empty : Begun .empty
  | single (command : String) : Begun (.single command)
  | ofPairs {pairs : List (Int64 × String)} {b : Batch} (h : ofPairs pairs = .ok b) : Begun b

theorem Begun.nodup {b : Batch} (h : Begun b) : b.ids.Nodup := by
  cases h with
  | empty => exact List.nodup_nil
  | single command => exact List.pairwise_singleton _ _
  | @ofPairs pairs b built =>
    rw [ofPairs_eq_pushAll] at built
    have none : Batch.empty.ids.Nodup := List.nodup_nil
    rw [← (offerAll_of_pushAll built).1]
    exact nodup_offerAll none pairs

/-- Both ways to build a batch take the same pairs, give the same commands and have the same fault.
Whatever is pushed to a batch that was built, its ids are distinct, it has the commands that it
took in their order, and what it refuses leaves it as it is. -/
theorem builders_agree :
    (∀ pairs : List (Int64 × String), ofPairs pairs = empty.pushAll pairs ∧
      (∀ b, ofPairs pairs = .ok b → b.commands = pairs.map .ofPair) ∧
      ∀ e, ofPairs pairs = .error e ↔ ∃ before id command after b,
        pairs = before ++ (id, command) :: after ∧ empty.pushAll before = .ok b ∧
          b.push id command = .error e) ∧
    ∀ (b : Batch) (offers : List (Int64 × String)), Begun b →
      let (refusals, c) := b.offerAll offers
      c.ids.Nodup ∧ c.commands = b.commands ++ taken offers refusals ∧
      (∀ before id command after, offers = before ++ (id, command) :: after →
        refusals[before.length]? =
          some (if id ∈ b.ids ∨ id ∈ before.map Prod.fst then some ⟨id⟩ else none)) ∧
      ∀ id command,
        (∀ e, c.push id command = .error e ↔ e = ⟨id⟩ ∧ id ∈ c.ids) ∧
        (∀ e, c.push id command = .error e → c.offer id command = (some e, c)) ∧
        ∀ d, c.push id command = .ok d →
          c.offer id command = (none, d) ∧ d.commands = c.commands ++ [⟨id, command⟩] := by
  refine ⟨fun pairs => ⟨ofPairs_eq_pushAll pairs, ?_, ?_⟩, fun b offers begun => ?_⟩
  · intro b built
    rw [ofPairs_eq_pushAll] at built
    exact (offerAll_of_pushAll built).2
  · intro e
    rw [ofPairs_eq_pushAll]
    exact pushAll_eq_error_iff
  · refine ⟨nodup_offerAll begun.nodup offers, commands_offerAll b offers, ?_, ?_⟩
    · rintro before id command after rfl
      exact refusals_offerAll b before after id command
    · intro id command
      by_cases there : id ∈ (b.offerAll offers).2.ids
      · simp [push_of_mem there, offer_of_mem there, there, eq_comm]
      · simp [push_of_notMem there, offer_of_notMem there, there, eq_comm]

/-- The second command with the id 2 is refused and the batch goes on. -/
theorem builders_agree_refused :
    ofPairs [(1, "a"), (2, "b")] = .ok ⟨[⟨1, "a"⟩, ⟨2, "b"⟩]⟩ ∧
    ofPairs [(1, "a"), (2, "b"), (1, "c"), (2, "d")] = .error ⟨1⟩ ∧
    (offerAll ⟨[⟨1, "a"⟩, ⟨2, "b"⟩]⟩ [(2, "c"), (3, "d")]).2.commands =
      [⟨1, "a"⟩, ⟨2, "b"⟩, ⟨3, "d"⟩] := by
  obtain ⟨agree, built⟩ := builders_agree
  have pairs : ofPairs [(1, "a"), (2, "b")] = .ok ⟨[⟨1, "a"⟩, ⟨2, "b"⟩]⟩ := rfl
  refine ⟨pairs, ?_, ?_⟩
  · obtain ⟨-, -, fault⟩ := agree [(1, "a"), (2, "b"), (1, "c"), (2, "d")]
    exact (fault ⟨1⟩).2 ⟨[(1, "a"), (2, "b")], 1, "c", [(2, "d")], _, rfl, rfl, rfl⟩
  · obtain ⟨-, commands, -⟩ := built _ [(2, "c"), (3, "d")] (.ofPairs pairs)
    exact commands

end Batch

end LeaseRoutes.Rpc
