import LeaseRoutes.Proofs.Lease.Snapshot
import LeaseRoutes.Service

namespace LeaseRoutes

namespace LeaseStore

/-! ## Groups -/

/-- The group of a subnet holds the leases of the subnet. -/
theorem Grouped.lookup_eq {subnets : List (UInt32 × List Lease)} (h : Grouped subnets)
    (id : UInt32) : (subnets.lookup id).getD [] =
      (subnets.flatMap Prod.snd).filter fun l => l.subnet = id := by
  induction subnets with
  | nil => rfl
  | cons g rest ih =>
    obtain ⟨key, leases⟩ := g
    have first : ∀ a ∈ rest, key < a.1 := fun _ ha => List.rel_of_pairwise_cons h.ordered ha
    have own : ∀ l ∈ leases, l.subnet = key := h.own (key, leases) List.mem_cons_self
    rw [lookup_cons_eq, List.flatMap_cons, List.filter_append]
    by_cases same : id = key
    · subst same
      have all : leases.filter (fun l => l.subnet = id) = leases :=
        List.filter_eq_self.2 fun l member => decide_eq_true (own l member)
      rw [if_pos rfl, all, h.tail.filter_eq_nil first, List.append_nil]
      rfl
    · have none : leases.filter (fun l => l.subnet = id) = [] :=
        List.filter_eq_nil_iff.2 fun l member found =>
          same ((of_decide_eq_true found).symm.trans (own l member))
      rw [if_neg same, none, List.nil_append, ih h.tail]

/-- No two groups are of one subnet. -/
theorem Grouped.lookup_of_mem {subnets : List (UInt32 × List Lease)} (h : Grouped subnets)
    {g : UInt32 × List Lease} (member : g ∈ subnets) : subnets.lookup g.1 = some g.2 := by
  obtain ⟨before, after, rfl⟩ := List.append_of_mem member
  refine List.lookup_eq_some_iff.2 ⟨before, after, rfl, fun a earlier => ?_⟩
  have less : a.1 < g.1 := (List.pairwise_append.1 h.ordered).2.2 a earlier g List.mem_cons_self
  exact bne_iff_ne.2 (UInt32.ne_of_lt less).symm

section Groups

variable (leases : List Lease)

theorem inSubnet_ofList (id : UInt32) :
    (ofList leases).inSubnet id = leases.filter fun l => l.subnet = id := by
  rw [inSubnet, (grouped_ofList leases).lookup_eq]
  exact filter_toList_ofList leases id

theorem subnets_eq_map : (ofList leases).subnets =
    (ofList leases).subnetIds.map fun id => (id, (ofList leases).inSubnet id) := by
  have groups : ∀ g ∈ (ofList leases).subnets, g = (g.1, (ofList leases).inSubnet g.1) := by
    intro g member
    rw [inSubnet, (grouped_ofList leases).lookup_of_mem member]
    rfl
  rw [subnetIds, List.map_map]
  exact (List.map_id _).symm.trans (List.map_congr_left groups)

theorem flatMap_inSubnet :
    (ofList leases).subnetIds.flatMap (ofList leases).inSubnet = (ofList leases).toList := by
  rw [toList, subnets_eq_map, List.flatMap_map]

theorem subnetIds_increasing : (ofList leases).subnetIds.Pairwise (· < ·) :=
  List.pairwise_map.2 (grouped_ofList leases).ordered

theorem mem_subnetIds_iff (id : UInt32) :
    id ∈ (ofList leases).subnetIds ↔ ∃ l ∈ leases, l.subnet = id := by
  have h := grouped_ofList leases
  constructor
  · intro member
    obtain ⟨g, group, rfl⟩ := List.mem_map.1 member
    obtain ⟨l, first⟩ := List.exists_mem_of_ne_nil _ (h.inhabited g group)
    have held : l ∈ (ofList leases).toList := List.mem_flatMap.2 ⟨g, group, first⟩
    exact ⟨l, (toList_ofList_perm leases).mem_iff.1 held, h.own g group l first⟩
  · rintro ⟨l, member, rfl⟩
    obtain ⟨g, group, held⟩ := List.mem_flatMap.1 ((toList_ofList_perm leases).mem_iff.2 member)
    exact List.mem_map.2 ⟨g, group, (h.own g group l held).symm⟩

end Groups

/-! ## The order of the list -/

/-- The leases of every subnet stand in the same order in both lists. -/
def SameOrder (leases others : List Lease) : Prop :=
  ∀ id : UInt32, leases.filter (fun l => l.subnet = id) = others.filter fun l => l.subnet = id

/-- Leases of different subnets may change places. -/
theorem sameOrder_swap {a b : Lease} (different : a.subnet ≠ b.subnet) (before after : List Lease) :
    SameOrder (before ++ a :: b :: after) (before ++ b :: a :: after) := by
  intro id
  simp only [List.filter_append, List.filter_cons, decide_eq_true_eq]
  by_cases first : a.subnet = id
  · have second : b.subnet ≠ id := fun same => different (first.trans same.symm)
    simp only [if_pos first, if_neg second]
  · simp only [if_neg first]

/-- Strictly increasing lists with the same members are the same. -/
theorem eq_of_increasing {ids others : List UInt32} (h : ids.Pairwise (· < ·))
    (k : others.Pairwise (· < ·)) (same : ∀ id, id ∈ ids ↔ id ∈ others) : ids = others := by
  have distinct : ids.Nodup := h.imp UInt32.ne_of_lt
  have distinct' : others.Nodup := k.imp UInt32.ne_of_lt
  refine ((List.perm_ext_iff_of_nodup distinct distinct').2 same).eq_of_pairwise ?_ h k
  exact fun a b _ _ less greater => absurd greater (UInt32.lt_asymm less)

/-- How the subnets are interleaved makes no difference. -/
theorem SameOrder.ofList_eq {leases others : List Lease} (h : SameOrder leases others) :
    ofList others = ofList leases := by
  have groups : (ofList others).inSubnet = (ofList leases).inSubnet := by
    funext id
    rw [inSubnet_ofList, inSubnet_ofList, h id]
  have occurs (ls : List Lease) (id : UInt32) :
      id ∈ (ofList ls).subnetIds ↔ ls.filter (fun l => l.subnet = id) ≠ [] := by
    rw [mem_subnetIds_iff, ne_eq, List.filter_eq_nil_iff]
    simp
  have ids : (ofList others).subnetIds = (ofList leases).subnetIds := by
    refine eq_of_increasing (subnetIds_increasing others) (subnetIds_increasing leases) fun id => ?_
    rw [occurs, occurs, h id]
  rw [mk.injEq, subnets_eq_map others, subnets_eq_map leases, ids, groups]

/-! ## Lookups -/

theorem isSibling_none (iaid : UInt32) (l : Lease) : isSibling none iaid l = false := by
  cases duid : l.duid <;> simp [isSibling, duid]

theorem find_eq (s : LeaseStore) (duid : Option Duid) (iaid : UInt32)
    (c : Metrics.RouteCounters) : s.find duid iaid c =
      (s.toList.find? (isSibling duid iaid),
        { c with
          duplicates :=
            c.duplicates + if 2 ≤ s.toList.countP (isSibling duid iaid) then 1 else 0 }) := by
  have several : s.ambiguous duid iaid = decide (2 ≤ s.toList.countP (isSibling duid iaid)) := by
    rw [ambiguous, siblings_eq_filter, ← List.countP_eq_length_filter]
    rfl
  simp only [find, sibling_eq_find?, several, Metrics.RouteCounters.duplicate, decide_eq_true_eq]

/-- What a store tells of the leases it was made of. -/
structure Arranges (leases : List Lease) (s : LeaseStore) : Prop where
  increasing : s.subnetIds.Pairwise (· < ·)
  occurring : ∀ id, id ∈ s.subnetIds ↔ ∃ l ∈ leases, l.subnet = id
  inSubnet : ∀ id, s.inSubnet id = leases.filter fun l => l.subnet = id
  kept : (s.subnetIds.flatMap s.inSubnet).Perm leases
  size : (s.subnetIds.flatMap s.inSubnet).length = s.size
  ofIdentity : ∀ (a : Association) (duid : Duid) (iaid : UInt32), s.ofIdentity a duid iaid =
    (s.subnetIds.flatMap s.inSubnet).filter fun l =>
      l.association = a ∧ l.iaid = iaid ∧ l.duid = some duid
  found : ∀ (duid : Option Duid) (iaid : UInt32) (c : Metrics.RouteCounters),
    (s.find duid iaid c).1 = (s.subnetIds.flatMap s.inSubnet).find? (isSibling duid iaid)
  missing : ∀ (duid : Option Duid) (iaid : UInt32) (c : Metrics.RouteCounters),
    (s.find duid iaid c).1 = none ↔ duid = none ∨ ∀ l ∈ leases, ¬isSibling duid iaid l
  counted : ∀ (duid : Option Duid) (iaid : UInt32) (c : Metrics.RouteCounters),
    (s.find duid iaid c).2 = { c with
      duplicates := c.duplicates + if 2 ≤ leases.countP (isSibling duid iaid) then 1 else 0 }

/-- A store keeps all its leases, those of every subnet in the order of the list, and finds the
siblings of a client in the order of the subnets. Lists that differ in how the subnets are
interleaved make the same store. -/
theorem ofList_arranges (leases : List Lease) : Arranges leases (ofList leases) ∧
    ∀ others, SameOrder leases others → ofList others = ofList leases := by
  have perm := toList_ofList_perm leases
  have order := flatMap_inSubnet leases
  refine ⟨?_, fun others same => same.ofList_eq⟩
  refine ⟨subnetIds_increasing leases, mem_subnetIds_iff leases, inSubnet_ofList leases,
    order ▸ perm, congrArg List.length order, ?_, ?_, ?_, ?_⟩
  · intro a duid iaid
    rw [order]
    rfl
  · intro duid iaid c
    rw [find_eq, order]
  · intro duid iaid c
    simp only [find_eq, List.find?_eq_none, perm.mem_iff]
    constructor
    · exact .inr
    · rintro (rfl | none)
      · exact fun l _ => by simp [isSibling_none]
      · exact none
  · intro duid iaid c
    rw [find_eq, perm.countP_eq]

end LeaseStore

namespace Sample

/-- An address that one client has in a subnet. -/
def rented (subnet : UInt32) (host : UInt16) : Lease :=
  ⟨⟨[0x2001, 0xdb8, 0, 0, 0, 0, 0, host], rfl⟩, 128, .na, 7, some ⟨[1]⟩, none, subnet, .active⟩

end Sample

namespace LeaseStore

open Sample

/-- The lease of the smaller subnet is found wherever it is listed, and the three count once. -/
theorem ofList_arranges_interleaved :
    let leases := [rented 9 1, rented 5 2, rented 9 3]
    let found := (ofList leases).find (some ⟨[1]⟩) 7 .zero
    (ofList leases).subnetIds = [5, 9] ∧ found.1 = some (rented 5 2) ∧ found.2.duplicates = 1 ∧
      ofList [rented 9 1, rented 9 3, rented 5 2] = ofList leases := by
  intro leases found
  obtain ⟨arranges, order⟩ := ofList_arranges leases
  have ids : (ofList leases).subnetIds = [5, 9] := rfl
  refine ⟨ids, ?_, ?_, ?_⟩
  · rw [arranges.found, ids]
    simp only [List.flatMap_cons, List.flatMap_nil, arranges.inSubnet]
    decide
  · rw [arranges.counted]
    decide
  · exact order _ (sameOrder_swap (by decide) [rented 9 1] [])

end LeaseStore

/-! ## Lookups of an exporter -/

namespace Exporter

open Switch

variable {σ : Type} (store : LeaseStore) (x : Exporter σ)

/-- Whoever plans to remove a prefix looks for its sibling once. -/
theorem plan_eq_find {i : Intent} {target : Destination} (h : i.payload = .pdRemove target) :
    x.plan store i .remove =
      (match (store.find i.duid i.iaid x.counters).1 with
        | some l => .change (.pd .remove target l.address.text)
        | none => .lookup (.nextHop target) .remove,
        { x with counters := (store.find i.duid i.iaid x.counters).2 }) := by
  simp only [plan, Stage.plan, Stage.ambiguous, h]
  rfl

/-- So does the selection of a prefix, and no other event does. -/
theorem handle_counters (e : LeaseEvent) : (x.handle store e).2.counters =
    match e with
    | .select s => if s.eligible?.isSome ∧ s.lease.association = .pd
        then (store.find s.lease.duid s.lease.iaid x.counters).2 else x.counters
    | .release _ | .expire _ | .decline _ => x.counters := by
  have submitted : (x.handle store e).2.counters =
      x.counters.duplicate (if e.ambiguous store then 1 else 0) := by
    cases outcome : e.consequence store with
    | error f => simp only [handle, outcome]; rfl
    | ok o => cases o <;> simp only [handle, outcome] <;> rfl
  rw [submitted]
  cases e with
  | release | expire | decline => rfl
  | select s =>
    by_cases looks : s.eligible?.isSome ∧ s.lease.association = .pd
    · simp [LeaseEvent.ambiguous, looks, LeaseStore.find]
    · have silent : (LeaseEvent.select s).ambiguous store = false := by
        rw [LeaseEvent.ambiguous, Bool.and_eq_false_iff]
        exact .inl (by simpa using looks)
      rw [silent]
      exact (if_neg looks).symm

/-- A resync looks once for every active prefix. -/
theorem planResync_counters (map : HardwareMap) : (x.planResync store map).2.counters =
    (store.toList.filter fun l => l.isActive && l.association = .pd).foldl
      (fun c l => (store.find l.duid l.iaid c).2) x.counters := by
  have counted (ls : List Lease) (c : Metrics.RouteCounters) :
      ls.foldl (fun c l => (store.find l.duid l.iaid c).2) c =
        c.duplicate (ls.countP fun l => store.ambiguous l.duid l.iaid) := by
    induction ls generalizing c with
    | nil => rfl
    | cons l ls ih =>
      rw [List.foldl_cons, ih, List.countP_cons]
      simp only [LeaseStore.find, Metrics.RouteCounters.duplicate, Nat.add_assoc, Nat.add_comm]
  rw [counted, List.countP_filter]
  change x.counters.duplicate (Resync.ambiguities store) = _
  rw [Resync.ambiguities]
  congr 2
  funext l
  rw [Bool.and_comm]

end Exporter

end LeaseRoutes
