import LeaseRoutes.Proofs.Exporter.Restoration
import LeaseRoutes.Proofs.Lease.Target

namespace LeaseRoutes

open Switch

/-! ## What is asked for a delegated prefix -/

namespace Lease

/-- The destination of a delegated prefix. -/
def delegated (l : Lease) : Destination := ⟨l.address, l.length⟩

/-- The command that installs its route. -/
def routeVia (l : Lease) (hop : Address) : String := installRoute l.delegated.text hop.text

theorem valid_pdApply {l : Lease} (short : l.length ≤ 128) (hop : Address) :
    (Payload.pdApply hop l.delegated).fault = none :=
  if_neg (UInt8.not_lt.2 short)

theorem valid_pdRemove {l : Lease} (short : l.length ≤ 128) :
    (Payload.pdRemove l.delegated).fault = none :=
  if_neg (UInt8.not_lt.2 short)

theorem intent_of_valid (l : Lease) (transaction : Option UInt32) {p : Payload}
    (valid : p.fault = none) :
    l.intent transaction p = .ok ⟨transaction, l.iaid, l.duid, p, valid⟩ := by
  simp only [intent, Intent.make_of_valid transaction l.iaid l.duid valid]

end Lease

theorem Switch.Stage.request_plan_pdApply (store : LeaseStore) {i : Intent} {l : Lease}
    {hop : Address} (h : i.payload = .pdApply hop l.delegated) :
    (plan store i .apply).request = some (.single (l.routeVia hop)) := by
  rw [plan_pdApply store .apply h]
  rfl

/-! ## Selections -/

namespace Selection

/-- A selection of the lease that is real and whose query asks for an address and a prefix. -/
structure Asks (s : Selection) (l : Lease) (na : NaOption) : Prop where
  lease : s.lease = l
  real : s.fake = false
  na : s.query.na = some na
  pd : s.query.pd.isSome = true

variable {store : LeaseStore} {s : Selection} {l : Lease} {na : NaOption}

theorem Asks.eligible (h : s.Asks l na) : s.eligible? = some na := by
  have asked : s.query.pd.isNone = false := Option.isNone_eq_false_iff.2 h.pd
  simp [eligible?, h.real, asked, h.na]

/-- The selection installs the route to the hop that it finds. -/
theorem Asks.consequence (h : s.Asks l na) (association : l.association = .pd)
    (short : l.length ≤ 128) {hop : Address} (found : s.nextHop? store na = some hop) :
    ∃ i, (LeaseEvent.select s).consequence store = .ok (some (i, .apply)) ∧
      i.payload = .pdApply hop l.delegated := by
  obtain rfl := h.lease
  have valid := Lease.valid_pdApply short hop
  have made := s.lease.intent_of_valid (some s.query.transaction) valid
  refine ⟨⟨some s.query.transaction, s.lease.iaid, s.lease.duid, _, valid⟩, ?_, rfl⟩
  simp only [LeaseEvent.consequence, Selection.consequence, h.eligible, association, found]
  rw [← Lease.delegated, made]
  rfl

theorem Asks.missing (h : s.Asks l na) (association : l.association = .pd)
    (found : s.nextHop? store na = none) :
    (LeaseEvent.select s).consequence store = .error (.missingSibling l.duid l.iaid) := by
  obtain rfl := h.lease
  simp only [LeaseEvent.consequence, Selection.consequence, h.eligible, association, found]
  rfl

end Selection

/-! ## Removals -/

namespace LeaseEvent

/-- The event takes the lease away. -/
def Removes (e : LeaseEvent) (l : Lease) : Prop := e = .release l ∨ e = .expire l ∨ e = .decline l

theorem Removes.consequence {e : LeaseEvent} {l : Lease} (h : e.Removes l) (store : LeaseStore)
    (association : l.association = .pd) (short : l.length ≤ 128) :
    e.consequence store = .ok (some
      (⟨none, l.iaid, l.duid, .pdRemove l.delegated, Lease.valid_pdRemove short⟩, .remove)) := by
  have withdrawal : l.withdrawal = .ok (some
      ⟨none, l.iaid, l.duid, .pdRemove l.delegated, Lease.valid_pdRemove short⟩) := by
    simp only [Lease.withdrawal, association]
    rw [← Lease.delegated, Lease.intent_of_valid l none (Lease.valid_pdRemove short)]
    rfl
  rcases h with rfl | rfl | rfl
  all_goals
    simp only [LeaseEvent.consequence, withdrawal]
    rfl

end LeaseEvent

/-! ## Resyncs -/

namespace Resync

variable {store : LeaseStore} {map : HardwareMap} {l : Lease}

theorem decide_of_sibling (map : HardwareMap) (active : l.isActive = true)
    (association : l.association = .pd) (short : l.length ≤ 128) {sibling : Lease}
    (found : store.sibling l.duid l.iaid = some sibling) :
    ∃ i, decide store map l = .ok i ∧ i.payload = .pdApply sibling.address l.delegated := by
  have valid := Lease.valid_pdApply short sibling.address
  refine ⟨⟨none, l.iaid, l.duid, _, valid⟩, ?_, rfl⟩
  simp only [decide, active, association, Bool.not_true, Bool.false_eq_true, ↓reduceIte, pd, found]
  rw [← Lease.delegated, intent?, Intent.make_of_valid none l.iaid l.duid valid]

theorem decide_of_no_sibling (map : HardwareMap) (active : l.isActive = true)
    (association : l.association = .pd) (absent : store.sibling l.duid l.iaid = none) :
    decide store map l = .error .noSibling := by
  simp only [decide, active, association, Bool.not_true, Bool.false_eq_true, ↓reduceIte, pd, absent]

/-- Only a client with a sibling has the route to a prefix asserted. -/
theorem sibling_of_mem_intents {i : Intent} (h : i ∈ intents store map)
    (association : i.payload.association = .pd) : store.sibling i.duid i.iaid ≠ none := by
  obtain ⟨m, -, decided⟩ := mem_intents_iff.1 h
  obtain ⟨-, ⟨-, _, -, made⟩ | ⟨-, sibling, found, made⟩⟩ := decide_eq_ok decided
  · obtain ⟨-, -, -, payload⟩ := intent?_eq_ok made
    rw [payload] at association
    cases association
  · obtain ⟨-, iaid, duid, -⟩ := intent?_eq_ok made
    rw [duid, iaid, found]
    exact nofun

end Resync

/-! ## The next hop of a lease -/

namespace Lease

/-- All routes to the prefix lead to `hop`, and a removal withdraws the route that a selection or a
resync installs. -/
structure LeadsTo (store : LeaseStore) (l : Lease) (hop : Address) : Prop where
  installed : ∀ s na, s.Asks l na → ∃ i,
    (LeaseEvent.select s).consequence store = .ok (some (i, .apply)) ∧
      i.payload = .pdApply hop l.delegated ∧
      (Stage.plan store i .apply).request = some (.single (l.routeVia hop))
  withdrawn : ∀ e : LeaseEvent, e.Removes l → ∃ i,
    e.consequence store = .ok (some (i, .remove)) ∧
      Stage.plan store i .remove = .change (.pd .remove l.delegated hop.text) ∧
      (Stage.plan store i .remove).request = some (.single ("no " ++ l.routeVia hop))
  asserted : ∀ map, l ∈ store.toList → l.isActive = true → ∃ i ∈ Resync.intents store map,
    Resync.decide store map l = .ok i ∧ i.payload = .pdApply hop l.delegated ∧
      (Stage.plan store i .apply).request = some (.single (l.routeVia hop))

/-- The snapshot does not know where the routes to the prefix lead. -/
structure HopUnknown (store : LeaseStore) (l : Lease) : Prop where
  asked : ∀ s na hop, s.Asks l na → na.address = some hop → ∃ i,
    (LeaseEvent.select s).consequence store = .ok (some (i, .apply)) ∧
      i.payload = .pdApply hop l.delegated
  refused : ∀ s na, s.Asks l na → na.address = none →
    (LeaseEvent.select s).consequence store = .error (.missingSibling l.duid l.iaid)
  searched : ∀ e : LeaseEvent, e.Removes l → ∃ i,
    e.consequence store = .ok (some (i, .remove)) ∧
      Stage.plan store i .remove = .lookup (.nextHop l.delegated) .remove ∧
      (Stage.plan store i .remove).request =
        some (.single ("show ipv6 route " ++ l.delegated.text)) ∧
      ∀ r look d, (Stage.plan store i .remove).next r ≠ .lookup look d
  skipped : ∀ map, (l.isActive = true → Resync.decide store map l = .error .noSibling) ∧
    ∀ i ∈ Resync.intents store map, i.payload.association = .pd →
      ¬(i.duid = l.duid ∧ i.iaid = l.iaid)

variable {store : LeaseStore} {l : Lease}

theorem leadsTo_sibling (association : l.association = .pd) (short : l.length ≤ 128)
    {sibling : Lease} (found : store.sibling l.duid l.iaid = some sibling) :
    l.LeadsTo store sibling.address where
  installed s na asks := by
    have hop : s.nextHop? store na = some sibling.address := by
      simp only [Selection.nextHop?, asks.lease, found]
    obtain ⟨i, consequence, payload⟩ := asks.consequence association short hop
    exact ⟨i, consequence, payload, Stage.request_plan_pdApply store payload⟩
  withdrawn e removes := by
    refine ⟨_, removes.consequence store association short, ?_⟩
    rw [LeaseStore.sibling_eq_find?] at found
    rw [Stage.plan_pdRemove_of_sibling store rfl found]
    refine ⟨rfl, ?_⟩
    rw [routeVia, ← withdrawRoute_eq]
    rfl
  asserted map member active := by
    obtain ⟨i, decided, payload⟩ :=
      Resync.decide_of_sibling map active association short found
    exact ⟨i, Resync.mem_intents_iff.2 ⟨l, member, decided⟩, decided, payload,
      Stage.request_plan_pdApply store payload⟩

theorem hopUnknown_of_no_sibling (association : l.association = .pd) (short : l.length ≤ 128)
    (absent : store.sibling l.duid l.iaid = none) : l.HopUnknown store where
  asked s na hop asks address := by
    have found : s.nextHop? store na = some hop := by
      simp only [Selection.nextHop?, asks.lease, absent, address]
    exact asks.consequence association short found
  refused s na asks address := by
    have found : s.nextHop? store na = none := by
      simp only [Selection.nextHop?, asks.lease, absent, address]
    exact asks.missing association found
  searched e removes := by
    refine ⟨_, removes.consequence store association short, ?_⟩
    rw [LeaseStore.sibling_eq_find?] at absent
    rw [Stage.plan_pdRemove_of_no_sibling store rfl absent]
    refine ⟨rfl, rfl, fun r look d again => ?_⟩
    have nearer := Stage.rank_next_lt (s := .lookup (.nextHop l.delegated) .remove) r rfl
    rw [again] at nearer
    exact Nat.lt_irrefl _ nearer
  skipped map := by
    refine ⟨fun active => Resync.decide_of_no_sibling map active association absent, ?_⟩
    rintro i member prefixed ⟨duid, iaid⟩
    refine Resync.sibling_of_mem_intents member prefixed ?_
    rw [duid, iaid, absent]

/-- The routes to a prefix of at most 128 bits lead to the first active address of its client in
the order of the snapshot; if there is none, to none that the snapshot knows. -/
theorem next_hops_agree (leases : List Lease) (l : Lease) (association : l.association = .pd)
    (short : l.length ≤ 128) :
    match (LeaseStore.bySubnet leases).find? (LeaseStore.isSibling l.duid l.iaid) with
    | some sibling => l.LeadsTo (.ofList leases) sibling.address
    | none => l.HopUnknown (.ofList leases) := by
  have first := LeaseStore.sibling_eq_find? (.ofList leases) l.duid l.iaid
  rw [LeaseStore.toList_ofList] at first
  split
  · next sibling found => exact leadsTo_sibling association short (first.trans found)
  · next absent => exact hopUnknown_of_no_sibling association short (first.trans absent)

end Lease

/-! ## A client with several addresses -/

namespace Sample

/-- The address of the client in the second subnet. -/
def early : Lease :=
  { host with address := ⟨[0x2001, 0xdb8, 0, 0, 0, 0, 0, 0x12], rfl⟩, subnet := 2 }

/-- The first address by subnet was declined, and the first that was listed is not the first by
subnet. -/
def several : List Lease := [net, host, { host with state := .declined, subnet := 1 }, early]

end Sample

open Sample in
theorem Lease.next_hops_agree_several :
    net.association = .pd ∧ net.length ≤ 128 ∧ net.LeadsTo (.ofList several) early.address ∧
      net.HopUnknown (.ofList [net]) := by
  have found : (LeaseStore.bySubnet several).find? (LeaseStore.isSibling net.duid net.iaid) =
      some early := by
    rw [← LeaseStore.toList_ofList]
    decide +kernel
  have absent : (LeaseStore.bySubnet [net]).find? (LeaseStore.isSibling net.duid net.iaid) =
      none := by
    rw [← LeaseStore.toList_ofList]
    decide +kernel
  have together := next_hops_agree several net rfl (by decide)
  have alone := next_hops_agree [net] net rfl (by decide)
  rw [found] at together
  rw [absent] at alone
  exact ⟨rfl, by decide, together, alone⟩

end LeaseRoutes
