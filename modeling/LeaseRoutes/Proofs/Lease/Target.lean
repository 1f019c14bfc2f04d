import LeaseRoutes.Resync

namespace LeaseRoutes

open Switch

/-! ## Events -/

theorem Lease.payload_of_intent {l : Lease} {transaction : Option UInt32} {p : Payload} {i : Intent}
    (h : some <$> l.intent transaction p = .ok (some i)) : i.payload = p := by
  cases made : Intent.make transaction l.iaid l.duid p with
  | error e =>
    simp only [Lease.intent, made] at h
    cases h
  | ok j =>
    simp only [Lease.intent, made] at h
    cases h
    exact Intent.payload_of_make made

theorem Selection.target_of_consequence {store : LeaseStore} {s : Selection} {i : Intent}
    (h : s.consequence store = .ok (some i)) : i.payload.destination = s.lease.target := by
  unfold Selection.consequence at h
  unfold Lease.target
  split at h
  · cases h
  · cases h
  · next association =>
    rw [Lease.payload_of_intent h, association]
    rfl
  · next na _ association =>
    cases hop : s.nextHop? store na with
    | none =>
      rw [hop] at h
      cases h
    | some address =>
      rw [hop] at h
      rw [Lease.payload_of_intent h, association]
      rfl

/-- Only a selection has a route applied, and that is the route to its lease. -/
theorem LeaseEvent.target_of_consequence {store : LeaseStore} {e : LeaseEvent} {i : Intent}
    (h : e.consequence store = .ok (some (i, .apply))) :
    e.hook = .select ∧ i.payload.destination = e.lease.target := by
  have removal (l : Lease) :
      l.withdrawal.map (fun i => i.map fun i => (i, Direction.remove)) ≠
        .ok (some (i, .apply)) := by
    cases l.withdrawal with
    | error e => exact nofun
    | ok found => cases found <;> exact nofun
  cases e with
  | select s =>
    simp only [consequence] at h
    cases outcome : s.consequence store with
    | error e =>
      rw [outcome] at h
      cases h
    | ok found =>
      rw [outcome] at h
      cases found with
      | none => cases h
      | some j =>
        cases h
        exact ⟨rfl, Selection.target_of_consequence outcome⟩
  | release l | expire l | decline l => exact absurd h (removal l)

/-! ## Resyncs -/

namespace Resync

/-- An intent of a resync is that of its lease. It belongs to no transaction. -/
theorem intent?_eq_ok {l : Lease} {p : Payload} {i : Intent} (h : intent? l p = .ok i) :
    i.transaction = none ∧ i.iaid = l.iaid ∧ i.duid = l.duid ∧ i.payload = p := by
  unfold intent? Intent.make at h
  split at h
  · next made =>
    split at made
    · obtain rfl := Except.ok.inj made
      obtain rfl := Except.ok.inj h
      exact ⟨rfl, rfl, rfl, rfl⟩
    · cases made
  · cases h

/-- Only two kinds of leases are routed: an address whose host was seen, to its interface, and a
prefix with a sibling, to the address of that. -/
theorem decide_eq_ok {store : LeaseStore} {map : HardwareMap} {l : Lease} {i : Intent}
    (h : decide store map l = .ok i) :
    l.isActive = true ∧
      ((l.association = .na ∧ ∃ interface,
          (l.hardware.bind fun mac => map.lookup mac) = some interface ∧
            intent? l (.naApplyTo interface l.address) = .ok i) ∨
        l.association = .pd ∧ ∃ sibling, store.sibling l.duid l.iaid = some sibling ∧
          intent? l (.pdApply sibling.address ⟨l.address, l.length⟩) = .ok i) := by
  unfold decide at h
  cases active : l.isActive with
  | false => simp [active] at h
  | true =>
    refine ⟨rfl, ?_⟩
    simp only [active, Bool.not_true, Bool.false_eq_true, ↓reduceIte] at h
    cases association : l.association with
    | na =>
      simp only [association, na] at h
      split at h
      · next interface seen => exact .inl ⟨rfl, interface, seen, h⟩
      · cases h
    | pd =>
      simp only [association, pd] at h
      split at h
      · next sibling found => exact .inr ⟨rfl, sibling, found, h⟩
      · cases h
    | ta =>
      simp only [association] at h
      cases h

/-- What is applied for a lease leads to it. -/
theorem target_of_decide {store : LeaseStore} {map : HardwareMap} {l : Lease} {i : Intent}
    (h : decide store map l = .ok i) :
    l.isActive = true ∧ i.payload.destination = l.target := by
  unfold Lease.target
  obtain ⟨active, ⟨association, _, -, made⟩ | ⟨association, _, -, made⟩⟩ := decide_eq_ok h
  · obtain ⟨-, -, -, payload⟩ := intent?_eq_ok made
    rw [payload, association]
    exact ⟨active, rfl⟩
  · obtain ⟨-, -, -, payload⟩ := intent?_eq_ok made
    rw [payload, association]
    exact ⟨active, rfl⟩

theorem mem_intents_iff {store : LeaseStore} {map : HardwareMap} {i : Intent} :
    i ∈ intents store map ↔ ∃ l ∈ store.toList, decide store map l = .ok i := by
  unfold intents decisions
  rw [List.filterMap_map, List.mem_filterMap]
  refine exists_congr fun l => and_congr_right fun _ => ?_
  cases outcome : decide store map l <;> simp [outcome, Except.toOption]

end Resync

end LeaseRoutes
