import LeaseRoutes.Proofs.Exporter.Queue
import LeaseRoutes.Proofs.Lease.Target

namespace LeaseRoutes

open Switch

namespace Resync

/-- What becomes of a lease: a route to its address or to its prefix, or a cause for none. -/
inductive Fate
  | na
  | pd
  | noMapping
  | noSibling
  | inactive
  | invalid
  | temporary
  deriving DecidableEq, Repr

/-- The host of a lease was seen on an interface. -/
def SeenOn (map : HardwareMap) (l : Lease) (interface : String) : Prop :=
  ∃ mac, l.hardware = some mac ∧ map.lookup mac = some interface

/-- The lease has no hardware address or one that is not in the map. -/
def Unseen (map : HardwareMap) (l : Lease) : Prop :=
  ∀ mac, l.hardware = some mac → ∀ e ∈ map, e.1 ≠ mac

/-- The snapshot has an active address lease of the client of a lease. -/
def HasSibling (leases : List Lease) (l : Lease) : Prop :=
  l.duid ≠ none ∧ ∃ m ∈ leases,
    m.state = .active ∧ m.association = .na ∧ m.iaid = l.iaid ∧ m.duid = l.duid

/-- When a lease of a snapshot has a fate. -/
def Fate.Holds (leases : List Lease) (map : HardwareMap) (l : Lease) : Fate → Prop
  | .inactive => l.state ≠ .active
  | .temporary => l.state = .active ∧ l.association = .ta
  | .noMapping => l.state = .active ∧ l.association = .na ∧ Unseen map l
  | .noSibling => l.state = .active ∧ l.association = .pd ∧ ¬HasSibling leases l
  | .invalid => l.state = .active ∧
      (l.association = .na ∧ (∃ interface, SeenOn map l interface ∧ Text.Blank interface) ∨
        l.association = .pd ∧ HasSibling leases l ∧ 128 < l.length)
  | .na => l.state = .active ∧ l.association = .na ∧
      ∃ interface, SeenOn map l interface ∧ ¬Text.Blank interface
  | .pd => l.state = .active ∧ l.association = .pd ∧ HasSibling leases l ∧ l.length ≤ 128

/-- The fate that a decision is. -/
def fate : Except Skip Intent → Fate
  | .ok i =>
    match i.payload.association with
    | .pd => .pd
    | .na | .ta => .na
  | .error .noMapping => .noMapping
  | .error .noSibling => .noSibling
  | .error .inactive => .inactive
  | .error .invalid => .invalid
  | .error .temporary => .temporary

/-! ## The fate of a lease -/

theorem fate_intent?_of_valid {l : Lease} {p : Payload} (valid : p.fault = none) :
    fate (intent? l p) = if p.association = .pd then .pd else .na := by
  rw [intent?, Intent.make_of_valid none l.iaid l.duid valid]
  cases p <;> rfl

theorem fate_intent?_of_fault {l : Lease} {p : Payload} {e : IntentFault}
    (fault : p.fault = some e) : fate (intent? l p) = .invalid := by
  rw [intent?, Intent.make_of_fault none l.iaid l.duid fault]
  rfl

theorem seenOn_iff {map : HardwareMap} {l : Lease} {interface : String} :
    SeenOn map l interface ↔ (l.hardware.bind fun mac => map.lookup mac) = some interface :=
  Option.bind_eq_some_iff.symm

theorem unseen_iff {map : HardwareMap} {l : Lease} :
    Unseen map l ↔ (l.hardware.bind fun mac => map.lookup mac) = none := by
  rw [Option.bind_eq_none_iff]
  unfold Unseen
  refine forall_congr' fun mac => imp_congr_right fun _ => ?_
  rw [List.lookup_eq_none_iff]
  refine forall_congr' fun e => imp_congr_right fun _ => ?_
  rw [bne_iff_ne, ne_comm]

theorem hasSibling_toList_iff {store : LeaseStore} {l : Lease} :
    HasSibling store.toList l ↔ store.sibling l.duid l.iaid ≠ none := by
  rw [LeaseStore.sibling_eq_find?, ← Option.isSome_iff_ne_none, List.find?_isSome]
  unfold HasSibling
  constructor
  · rintro ⟨known, m, member, active, association, iaid, duid⟩
    refine ⟨m, member, ?_⟩
    simp [LeaseStore.isSibling, Lease.isActive, active, association, iaid, duid,
      Option.isSome_iff_ne_none, known]
  · rintro ⟨m, member, sibling⟩
    simp only [LeaseStore.isSibling, Lease.isActive, Bool.and_eq_true, decide_eq_true_eq] at sibling
    obtain ⟨⟨⟨⟨active, association⟩, iaid⟩, known⟩, duid⟩ := sibling
    exact ⟨duid ▸ Option.isSome_iff_ne_none.1 known, m, member, active, association, iaid, duid⟩

theorem hasSibling_iff {leases : List Lease} {l : Lease} :
    HasSibling leases l ↔ (LeaseStore.ofList leases).sibling l.duid l.iaid ≠ none := by
  rw [← hasSibling_toList_iff]
  unfold HasSibling
  simp only [(LeaseStore.toList_ofList_perm leases).mem_iff]

section Fates

variable (leases : List Lease) {map : HardwareMap} {l : Lease}

theorem fate_na_iff (active : l.state = .active) (association : l.association = .na) (f : Fate) :
    fate (na map l) = f ↔ f.Holds leases map l := by
  unfold na
  cases seen : l.hardware.bind fun mac => map.lookup mac with
  | none =>
    have unseen : Unseen map l := unseen_iff.2 seen
    have nowhere : ∀ interface, ¬SeenOn map l interface := by
      intro interface
      rw [seenOn_iff, seen]
      exact nofun
    cases f <;> simp [fate, Fate.Holds, active, association, unseen, nowhere]
  | some interface =>
    have known : ¬Unseen map l := by
      rw [unseen_iff, seen]
      exact nofun
    have only : ∀ other, SeenOn map l other ↔ interface = other := by
      intro other
      rw [seenOn_iff, seen, Option.some.injEq]
    by_cases blank : Text.Blank interface
    · have fault : (Payload.naApplyTo interface l.address).fault = some .blankInterface :=
        if_pos blank
      simp only [fate_intent?_of_fault fault]
      cases f <;> simp [Fate.Holds, active, association, known, only, blank]
    · have valid : (Payload.naApplyTo interface l.address).fault = none := if_neg blank
      simp only [fate_intent?_of_valid valid]
      cases f <;> simp [Payload.association, Fate.Holds, active, association, known, only, blank]

theorem fate_pd_iff (active : l.state = .active) (association : l.association = .pd) (f : Fate) :
    fate (pd (.ofList leases) l) = f ↔ f.Holds leases map l := by
  unfold pd
  cases found : (LeaseStore.ofList leases).sibling l.duid l.iaid with
  | none =>
    have alone : ¬HasSibling leases l := by simp [hasSibling_iff, found]
    cases f <;> simp [fate, Fate.Holds, active, association, alone]
  | some sibling =>
    have joined : HasSibling leases l := by simp [hasSibling_iff, found]
    by_cases short : l.length ≤ 128
    · have valid : (Payload.pdApply sibling.address ⟨l.address, l.length⟩).fault = none :=
        if_neg (UInt8.not_lt.2 short)
      have fits : ¬128 < l.length := UInt8.not_lt.2 short
      simp only [fate_intent?_of_valid valid]
      cases f <;> simp [Payload.association, Fate.Holds, active, association, joined, short, fits]
    · have long : 128 < l.length := UInt8.not_le.1 short
      have fault : (Payload.pdApply sibling.address ⟨l.address, l.length⟩).fault =
          some (.tooLong l.length) := if_pos long
      simp only [fate_intent?_of_fault fault]
      cases f <;> simp [Fate.Holds, active, association, joined, short, long]

/-- A lease has the fate that is decided for it and no other. -/
theorem fate_decide_iff (f : Fate) :
    fate (decide (.ofList leases) map l) = f ↔ f.Holds leases map l := by
  cases state : l.state with
  | declined | reclaimed =>
    simp only [decide, Lease.isActive, state]
    cases f <;> simp [fate, Fate.Holds, state]
  | active =>
    cases association : l.association with
    | na =>
      simp only [decide, Lease.isActive, state, association]
      exact fate_na_iff leases state association f
    | pd =>
      simp only [decide, Lease.isActive, state, association]
      exact fate_pd_iff leases state association f
    | ta =>
      simp only [decide, Lease.isActive, state, association]
      cases f <;> simp [fate, Fate.Holds, state, association]

end Fates

instance (leases : List Lease) (map : HardwareMap) (l : Lease) (f : Fate) :
    Decidable (f.Holds leases map l) :=
  decidable_of_iff _ (fate_decide_iff leases f)

/-! ## Counts -/

/-- The leases that a report counts under a fate. Temporary addresses are not counted. -/
def Report.count (r : Report) : Fate → Nat
  | .na => r.na
  | .pd => r.pd
  | .noMapping => r.noMapping
  | .noSibling => r.noSibling
  | .inactive => r.inactive
  | .invalid => r.invalid
  | .temporary => 0

theorem count_add (r : Report) (decision : Except Skip Intent) {f : Fate} (h : f ≠ .temporary) :
    (r.add decision).count f = r.count f + if fate decision = f then 1 else 0 := by
  cases decision with
  | ok i =>
    cases association : i.payload.association <;> cases f <;>
      simp [Report.add, Report.count, fate, association] at h ⊢
  | error s => cases s <;> cases f <;> simp [Report.add, Report.count, fate] at h ⊢

theorem count_foldl (decisions : List (Except Skip Intent)) (r : Report) {f : Fate}
    (h : f ≠ .temporary) :
    (decisions.foldl Report.add r).count f =
      r.count f + decisions.countP (fun decision => fate decision = f) := by
  induction decisions generalizing r with
  | nil => rfl
  | cons decision decisions ih =>
    rw [List.foldl_cons, ih, count_add r decision h, List.countP_cons]
    simp only [decide_eq_true_eq]
    omega

theorem countP_decisions (leases : List Lease) (map : HardwareMap) (f : Fate) :
    (decisions (.ofList leases) map).countP (fun decision => fate decision = f) =
      leases.countP fun l => f.Holds leases map l := by
  rw [decisions, List.countP_map, (LeaseStore.toList_ofList_perm leases).countP_eq]
  refine List.countP_congr fun l _ => ?_
  simp only [Function.comp_apply, decide_eq_true_eq]
  exact fate_decide_iff leases f

/-- The report counts the leases of a fate. -/
theorem count_report (leases : List Lease) (map : HardwareMap) {f : Fate} (h : f ≠ .temporary) :
    (report (.ofList leases) map).count f = leases.countP fun l => f.Holds leases map l := by
  have counted := count_foldl (decisions (.ofList leases) map) .empty h
  rw [countP_decisions] at counted
  rw [report, counted]
  cases f <;> exact Nat.zero_add _

theorem length_eq_sum {α : Type} (fateOf : α → Fate) (items : List α) :
    let count f := items.countP fun a => fateOf a = f
    items.length = count .na + count .pd + count .noMapping + count .noSibling + count .inactive +
      count .invalid + count .temporary := by
  induction items with
  | nil => rfl
  | cons a items ih =>
    simp only [List.length_cons, List.countP_cons] at ih ⊢
    cases fateOf a <;> simp <;> omega

/-- The intents for addresses and for prefixes stand for the leases of these two fates. -/
theorem countP_toOption (decisions : List (Except Skip Intent)) :
    let planned := decisions.filterMap Except.toOption
    (planned.countP (·.payload.association = .na) =
        decisions.countP fun decision => fate decision = .na) ∧
      planned.countP (·.payload.association = .pd) =
        decisions.countP fun decision => fate decision = .pd := by
  simp only [List.countP_filterMap]
  constructor <;> refine List.countP_congr fun decision _ => ?_
  all_goals
    cases decision with
    | ok i =>
      cases payload : i.payload <;> simp [Except.toOption, fate, payload, Payload.association]
    | error s => cases s <;> simp [Except.toOption, fate]

theorem length_toOption (decisions : List (Except Skip Intent)) :
    (decisions.filterMap Except.toOption).length =
      (decisions.countP fun decision => fate decision = .na) +
        decisions.countP fun decision => fate decision = .pd := by
  obtain ⟨na, pd⟩ := countP_toOption decisions
  rw [← na, ← pd, List.length_eq_countP_add_countP (fun i : Intent => i.payload.association = .na)]
  congr 1
  refine List.countP_congr fun i _ => ?_
  cases i.payload <;> simp [Payload.association]

/-! ## Intents -/

/-- The intent asserts the route to the lease. It is valid, and it belongs to the client of the
lease and to no transaction. -/
structure Asserts (l : Lease) (i : Intent) : Prop where
  valid : i.payload.fault = none
  association : i.payload.association = l.association
  destination : i.payload.destination = l.target
  iaid : i.iaid = l.iaid
  duid : i.duid = l.duid
  transaction : i.transaction = none

theorem asserts_of_decide {store : LeaseStore} {map : HardwareMap} {l : Lease} {i : Intent}
    (h : decide store map l = .ok i) : Asserts l i := by
  obtain ⟨-, destination⟩ := target_of_decide h
  obtain ⟨-, ⟨association, _, -, made⟩ | ⟨association, _, -, made⟩⟩ := decide_eq_ok h
  all_goals
    obtain ⟨transaction, iaid, duid, payload⟩ := intent?_eq_ok made
    refine ⟨i.valid, ?_, destination, iaid, duid, transaction⟩
    rw [payload, association]
    rfl

/-- The lease has a route. -/
def Routed (leases : List Lease) (map : HardwareMap) (l : Lease) : Prop :=
  Fate.na.Holds leases map l ∨ Fate.pd.Holds leases map l

instance (leases : List Lease) (map : HardwareMap) (l : Lease) : Decidable (Routed leases map l) :=
  inferInstanceAs (Decidable (_ ∨ _))

theorem routed_iff {leases : List Lease} {map : HardwareMap} {l : Lease} :
    Routed leases map l ↔ ∃ i, decide (.ofList leases) map l = .ok i := by
  unfold Routed
  rw [← fate_decide_iff, ← fate_decide_iff]
  cases outcome : decide (.ofList leases) map l with
  | ok i => cases association : i.payload.association <;> simp [fate, association]
  | error s => cases s <;> simp [fate]

/-- The intents of a resync stand for the leases that have a route, one for one and in order. -/
theorem asserts_intents (leases : List Lease) (map : HardwareMap) (items : List Lease) :
    List.Forall₂ Asserts (items.filter fun l => Routed leases map l)
      ((items.map (decide (.ofList leases) map)).filterMap Except.toOption) := by
  induction items with
  | nil => exact .nil
  | cons l items ih =>
    cases outcome : decide (.ofList leases) map l with
    | ok i =>
      have routed : Routed leases map l := routed_iff.2 ⟨i, outcome⟩
      simp only [List.filter_cons, routed, decide_true, ↓reduceIte, List.map_cons, outcome,
        List.filterMap_cons, Except.toOption]
      exact .cons (asserts_of_decide outcome) ih
    | error s =>
      have skipped : ¬Routed leases map l := by simp [routed_iff, outcome]
      simp only [List.filter_cons, skipped, decide_false, Bool.false_eq_true, ↓reduceIte,
        List.map_cons, outcome, List.filterMap_cons, Except.toOption]
      exact ih

/-- A report counts every lease under its fate, and the intents stand for the leases that are
counted as routed. -/
structure Partition (leases : List Lease) (map : HardwareMap) (intents : List Intent)
    (report : Report) : Prop where
  fate : ∀ l : Lease, ∃! f : Fate, f.Holds leases map l
  na : report.na = leases.countP fun l => Fate.na.Holds leases map l
  pd : report.pd = leases.countP fun l => Fate.pd.Holds leases map l
  noMapping : report.noMapping = leases.countP fun l => Fate.noMapping.Holds leases map l
  noSibling : report.noSibling = leases.countP fun l => Fate.noSibling.Holds leases map l
  inactive : report.inactive = leases.countP fun l => Fate.inactive.Holds leases map l
  invalid : report.invalid = leases.countP fun l => Fate.invalid.Holds leases map l
  total : (LeaseStore.ofList leases).size =
    report.na + report.pd + report.noMapping + report.noSibling + report.inactive +
      report.invalid + leases.countP fun l => l.state = .active ∧ l.association = .ta
  planned : intents.length = report.na + report.pd
  asserted : List.Forall₂ Asserts
    ((LeaseStore.ofList leases).toList.filter fun l => Routed leases map l) intents

theorem partition (leases : List Lease) (map : HardwareMap) :
    Partition leases map (intents (.ofList leases) map) (report (.ofList leases) map) := by
  have na := count_report leases map (f := .na) nofun
  have pd := count_report leases map (f := .pd) nofun
  have noMapping := count_report leases map (f := .noMapping) nofun
  have noSibling := count_report leases map (f := .noSibling) nofun
  have inactive := count_report leases map (f := .inactive) nofun
  have invalid := count_report leases map (f := .invalid) nofun
  simp only [Report.count] at na pd noMapping noSibling inactive invalid
  have asserted := asserts_intents leases map (LeaseStore.ofList leases).toList
  refine ⟨fun l => ?_, na, pd, noMapping, noSibling, inactive, invalid, ?_, ?_, asserted⟩
  · refine ⟨_, (fate_decide_iff leases _).1 rfl, fun f holds => ?_⟩
    exact ((fate_decide_iff leases f).2 holds).symm
  · have all := length_eq_sum fate (decisions (.ofList leases) map)
    have temporary : (leases.countP fun l => Fate.temporary.Holds leases map l) =
        leases.countP fun l => l.state = .active ∧ l.association = .ta :=
      List.countP_congr fun l _ => by rw [decide_eq_true_eq, decide_eq_true_eq, Fate.Holds]
    simp only [countP_decisions, temporary] at all
    rw [decisions, List.length_map] at all
    rw [na, pd, noMapping, noSibling, inactive, invalid]
    exact all
  · rw [na, pd, ← countP_decisions, ← countP_decisions]
    exact length_toOption _

end Resync

namespace Exporter

variable {σ : Type}

/-- A resync over any snapshot and any map partitions the leases. What it plans is what it submits
and reports, and the leases without a mapping, without a sibling or without a valid intent are
added to those that were skipped before. -/
theorem resync_partitions (leases : List Lease) (map : HardwareMap) (x : Exporter σ) :
    let (intents, report) := (x.planResync (.ofList leases) map).1
    let (reported, y) := x.resync (.ofList leases) map
    Resync.Partition leases map intents report ∧ reported = report ∧
      y.counters.skipped =
        x.counters.skipped + (report.noMapping + report.noSibling + report.invalid) := by
  let store := LeaseStore.ofList leases
  have counters : ((x.planResync store map).2.submitRoutes (Resync.intents store map)).counters =
      (x.planResync store map).2.counters := by
    rw [submitRoutes_eq]
  refine ⟨Resync.partition leases map, rfl, ?_⟩
  change ((x.planResync store map).2.submitRoutes (Resync.intents store map)).counters.skipped +
    (Resync.report store map).skipped = _
  rw [counters]
  rfl

end Exporter

end LeaseRoutes
