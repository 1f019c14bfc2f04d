import LeaseRoutes.Proofs.Lease.NextHop
import LeaseRoutes.Proofs.Resync.Partition

namespace LeaseRoutes

open Switch

/-! ## Payloads and directions -/

/-- Planning fails only for a removal that is to be applied. -/
theorem Switch.Stage.plan_failed_iff (store : LeaseStore) (i : Intent) (d : Direction) :
    (∃ f, plan store i d = .failed f) ↔
      d = .apply ∧ ((∃ leased, i.payload = .naRemove leased) ∨
        ∃ target, i.payload = .pdRemove target) := by
  constructor
  · rintro ⟨f, failed⟩
    cases payload : i.payload with
    | naApply link leased =>
      rw [plan_naApply store d payload] at failed
      cases failed
    | pdApply hop target =>
      rw [plan_pdApply store d payload] at failed
      cases failed
    | naApplyTo interface leased =>
      rw [plan_naApplyTo store d payload] at failed
      cases failed
    | naRemove leased =>
      cases d with
      | apply => exact ⟨rfl, .inl ⟨leased, rfl⟩⟩
      | remove =>
        rw [plan_naRemove store payload] at failed
        cases failed
    | pdRemove target =>
      cases d with
      | apply => exact ⟨rfl, .inr ⟨target, rfl⟩⟩
      | remove =>
        cases sibling : store.toList.find? (LeaseStore.isSibling i.duid i.iaid) with
        | some l =>
          rw [plan_pdRemove_of_sibling store payload sibling] at failed
          cases failed
        | none =>
          rw [plan_pdRemove_of_no_sibling store payload sibling] at failed
          cases failed
  · rintro ⟨rfl, removal⟩
    exact ⟨_, plan_unsupported store removal⟩

/-- What a resync asserts is planned without a failure. -/
theorem Resync.planned_of_mem_intents {store : LeaseStore} {map : HardwareMap} {i : Intent}
    (h : i ∈ intents store map) (other : LeaseStore) (f : Fault) :
    Stage.plan other i .apply ≠ .failed f := by
  intro failed
  obtain ⟨-, removal⟩ := (Stage.plan_failed_iff other i .apply).1 ⟨f, failed⟩
  obtain ⟨l, -, decided⟩ := mem_intents_iff.1 h
  obtain ⟨-, ⟨-, _, -, made⟩ | ⟨-, _, -, made⟩⟩ := decide_eq_ok decided
  all_goals
    obtain ⟨-, -, -, payload⟩ := intent?_eq_ok made
    rw [payload] at removal
    obtain ⟨_, other⟩ | ⟨_, other⟩ := removal <;> cases other

/-! ## Intents of a lease -/

/-- An intent for a lease is refused for the fault of what it asks, or it is made as asked. -/
theorem Lease.intent_cases (l : Lease) (transaction : Option UInt32) (p : Payload) :
    (∃ f, p.fault = some f ∧ l.intent transaction p = .error (.invalid f)) ∨
      p.fault = none ∧ ∃ i, l.intent transaction p = .ok i ∧ i.transaction = transaction ∧
        i.iaid = l.iaid ∧ i.duid = l.duid ∧ i.payload = p := by
  cases fault : p.fault with
  | some f =>
    refine .inl ⟨f, rfl, ?_⟩
    rw [intent, Intent.make_of_fault transaction l.iaid l.duid fault]
  | none => exact .inr ⟨rfl, _, l.intent_of_valid transaction fault, rfl, rfl, rfl, rfl⟩

namespace LeaseEvent

/-! ## Kinds of events -/

def direction : LeaseEvent → Direction
  | .select _ => .apply
  | .release _ | .expire _ | .decline _ => .remove

/-- The transaction of the client's query. A removal belongs to none. -/
def transaction : LeaseEvent → Option UInt32
  | .select s => some s.query.transaction
  | .release _ | .expire _ | .decline _ => none

/-- The event has nothing to do with routes: its address is temporary, or the selection is fake or
its query does not ask for both an address and a prefix. -/
def Ignored : LeaseEvent → Prop
  | .select s => s.lease.association = .ta ∨ s.fake = true ∨ s.query.na = none ∨ s.query.pd = none
  | .release l | .expire l | .decline l => l.association = .ta

/-- Nobody knows where the route to a selected prefix leads: its client has no active address in
the snapshot, and asks for none. -/
def Stranded (store : LeaseStore) : LeaseEvent → Prop
  | .select s => s.lease.association = .pd ∧ ¬Resync.HasSibling store.toList s.lease ∧
      ∃ na, s.query.na = some na ∧ na.address = none
  | .release _ | .expire _ | .decline _ => False

/-- The prefix has more bits than an address. -/
def Overlong (e : LeaseEvent) : Prop := e.lease.association = .pd ∧ 128 < e.lease.length

/-- What is asked of the switch after an event. -/
inductive Wants : LeaseEvent → Payload → Prop
  | address {s : Selection} : s.lease.association = .na →
      Wants (.select s) (.naApply s.query.link s.lease.address)
  | delegation {s : Selection} (hop : Address) : s.lease.association = .pd →
      Wants (.select s) (.pdApply hop s.lease.delegated)
  | freedAddress {e : LeaseEvent} : e.Removes e.lease → e.lease.association = .na →
      Wants e (.naRemove e.lease.address)
  | freedDelegation {e : LeaseEvent} : e.Removes e.lease → e.lease.association = .pd →
      Wants e (.pdRemove e.lease.delegated)

namespace Wants

variable {e : LeaseEvent} {p : Payload}

theorem destination (h : e.Wants p) :
    (e.lease.association = .na ∧ p.destination.text = e.lease.address.text ++ "/128") ∨
      (e.lease.association = .pd ∧
        p.destination.text = e.lease.address.text ++ "/" ++ Text.decimal e.lease.length.toNat) := by
  cases h with
  | address association => exact .inl ⟨association, Destination.text_host _⟩
  | delegation hop association => exact .inr ⟨association, rfl⟩
  | freedAddress removes association => exact .inl ⟨association, Destination.text_host _⟩
  | freedDelegation removes association => exact .inr ⟨association, rfl⟩

/-- Only the length of a prefix can be wrong. -/
theorem fault_eq_some_iff (h : e.Wants p) (f : IntentFault) :
    p.fault = some f ↔ e.Overlong ∧ f = .tooLong e.lease.length := by
  have delegated (l : Lease) (association : l.association = .pd) :
      (if 128 < l.length then some (IntentFault.tooLong l.length) else none) = some f ↔
        (l.association = .pd ∧ 128 < l.length) ∧ f = .tooLong l.length := by
    by_cases long : 128 < l.length
    · rw [if_pos long, Option.some.injEq, eq_comm]
      exact ⟨fun same => ⟨⟨association, long⟩, same⟩, And.right⟩
    · rw [if_neg long]
      exact ⟨nofun, fun wrong => absurd wrong.1.2 long⟩
  have single (l : Lease) (association : l.association = .na) :
      (none : Option IntentFault) = some f ↔
        (l.association = .pd ∧ 128 < l.length) ∧ f = .tooLong l.length := by
    simp [association]
  cases h with
  | address association => exact single _ association
  | delegation hop association => exact delegated _ association
  | freedAddress removes association => exact single _ association
  | freedDelegation removes association => exact delegated _ association

/-- Planning what is wanted does not fail, whatever the snapshot is by then. -/
theorem planned (h : e.Wants p) {i : Intent} (payload : i.payload = p) (store : LeaseStore)
    (f : Fault) : Stage.plan store i e.direction ≠ .failed f := by
  intro failed
  obtain ⟨applied, removal⟩ := (Stage.plan_failed_iff store i e.direction).1 ⟨f, failed⟩
  cases h with
  | address | delegation =>
    rw [payload] at removal
    obtain ⟨_, other⟩ | ⟨_, other⟩ := removal <;> cases other
  | freedAddress removes | freedDelegation removes =>
    rcases removes with same | same | same
    all_goals
      rw [same] at applied
      cases applied

end Wants

/-! ## Outcomes -/

/-- An event that is not ignored asks for one thing, unless it is not known where the route
leads. -/
theorem consequence_of_wants {store : LeaseStore} {e : LeaseEvent} (heeded : ¬e.Ignored)
    (known : ¬e.Stranded store) :
    ∃ p, e.Wants p ∧ e.consequence store =
      (e.lease.intent e.transaction p).map fun i => some (i, e.direction) := by
  have removal (l : Lease) (lasting : l.association ≠ .ta) (e : LeaseEvent) (removes : e.Removes l)
      (lease : e.lease = l) :
      ∃ p, e.Wants p ∧ l.withdrawal.map (fun i => i.map fun i => (i, Direction.remove)) =
        (l.intent none p).map fun i => some (i, .remove) := by
    subst lease
    cases association : e.lease.association with
    | na =>
      refine ⟨_, .freedAddress removes association, ?_⟩
      simp only [Lease.withdrawal, association]
      cases e.lease.intent none (.naRemove e.lease.address) <;> rfl
    | pd =>
      refine ⟨_, .freedDelegation removes association, ?_⟩
      simp only [Lease.withdrawal, association, Lease.delegated]
      cases e.lease.intent none (.pdRemove ⟨e.lease.address, e.lease.length⟩) <;> rfl
    | ta => exact absurd association lasting
  cases e with
  | release l => exact removal l heeded _ (.inl rfl) rfl
  | expire l => exact removal l heeded _ (.inr (.inl rfl)) rfl
  | decline l => exact removal l heeded _ (.inr (.inr rfl)) rfl
  | select s =>
    simp only [Ignored, not_or, Bool.not_eq_true, ← ne_eq] at heeded
    obtain ⟨lasting, real, asked, prefixed⟩ := heeded
    obtain ⟨na, asked⟩ := Option.ne_none_iff_exists'.1 asked
    have asks : s.Asks s.lease na :=
      ⟨rfl, real, asked, Option.isSome_iff_ne_none.2 prefixed⟩
    cases association : s.lease.association with
    | na =>
      refine ⟨_, .address association, ?_⟩
      simp only [consequence, Selection.consequence, asks.eligible, association]
      change Except.map _ (some <$> s.lease.intent (some s.query.transaction) _) = Except.map _
        (s.lease.intent (some s.query.transaction) _)
      cases s.lease.intent (some s.query.transaction)
        (.naApply s.query.link s.lease.address) <;> rfl
    | pd =>
      cases found : s.nextHop? store na with
      | none =>
        refine absurd ?_ known
        unfold Selection.nextHop? at found
        split at found
        · cases found
        · next absent =>
          have alone : ¬Resync.HasSibling store.toList s.lease := fun joined =>
            Resync.hasSibling_toList_iff.1 joined absent
          exact ⟨association, alone, na, asked, found⟩
      | some hop =>
        refine ⟨_, .delegation hop association, ?_⟩
        simp only [consequence, Selection.consequence, asks.eligible, association, found,
          transaction, direction, lease, Lease.delegated]
        cases s.lease.intent (some s.query.transaction)
          (.pdApply hop ⟨s.lease.address, s.lease.length⟩) <;> rfl
    | ta => exact absurd association lasting

theorem consequence_of_ignored (store : LeaseStore) {e : LeaseEvent} (h : e.Ignored) :
    e.consequence store = .ok none := by
  cases e with
  | release l | expire l | decline l =>
    have temporary : l.association = .ta := h
    simp only [consequence, Lease.withdrawal, temporary]
    rfl
  | select s =>
    have nothing : s.consequence store = .ok none := by
      cases eligible : s.eligible? with
      | none => simp only [Selection.consequence, eligible]
      | some na =>
        rcases h with temporary | fake | unasked | unprefixed
        · simp only [Selection.consequence, eligible, temporary]
        · simp [Selection.eligible?, fake] at eligible
        · simp [Selection.eligible?, unasked] at eligible
        · simp [Selection.eligible?, unprefixed] at eligible
    simp only [consequence, nothing]
    rfl

theorem consequence_of_stranded {store : LeaseStore} {e : LeaseEvent} (heeded : ¬e.Ignored)
    (h : e.Stranded store) :
    e.consequence store = .error (.missingSibling e.lease.duid e.lease.iaid) := by
  cases e with
  | release | expire | decline => exact h.elim
  | select s =>
    simp only [Ignored, not_or, Bool.not_eq_true] at heeded
    obtain ⟨lasting, real, -, prefixed⟩ := heeded
    obtain ⟨association, alone, na, asked, nowhere⟩ := h
    have asks : s.Asks s.lease na :=
      ⟨rfl, real, asked, Option.isSome_iff_ne_none.2 prefixed⟩
    have absent : store.sibling s.lease.duid s.lease.iaid = none :=
      not_not.1 fun joined => alone (Resync.hasSibling_toList_iff.2 joined)
    have hopless : s.nextHop? store na = none := by
      simp only [Selection.nextHop?, absent, nowhere]
    exact asks.missing association hopless

/-- The intent routes the lease of the event: it asks for what is wanted, for the client of the
lease and within the transaction of the query. -/
structure Routes (e : LeaseEvent) (i : Intent) : Prop where
  wanted : e.Wants i.payload
  destination : (e.lease.association = .na ∧
      i.payload.destination.text = e.lease.address.text ++ "/128") ∨
    (e.lease.association = .pd ∧ i.payload.destination.text =
      e.lease.address.text ++ "/" ++ Text.decimal e.lease.length.toNat)
  transaction : i.transaction = e.transaction
  iaid : i.iaid = e.lease.iaid
  duid : i.duid = e.lease.duid

/-- The outcomes in the order in which they are decided. -/
theorem consequence_cases (store : LeaseStore) (e : LeaseEvent) :
    (e.Ignored ∧ e.consequence store = .ok none) ∨
    (¬e.Ignored ∧ e.Stranded store ∧
      e.consequence store = .error (.missingSibling e.lease.duid e.lease.iaid)) ∨
    (¬e.Ignored ∧ ¬e.Stranded store ∧ e.Overlong ∧
      e.consequence store = .error (.invalid (.tooLong e.lease.length))) ∨
    (¬e.Ignored ∧ ¬e.Stranded store ∧ ¬e.Overlong ∧
      ∃ i, e.consequence store = .ok (some (i, e.direction)) ∧ e.Routes i) := by
  by_cases ignored : e.Ignored
  · exact .inl ⟨ignored, consequence_of_ignored store ignored⟩
  by_cases stranded : e.Stranded store
  · exact .inr (.inl ⟨ignored, stranded, consequence_of_stranded ignored stranded⟩)
  obtain ⟨p, wanted, outcome⟩ := consequence_of_wants ignored stranded
  rcases e.lease.intent_cases e.transaction p with ⟨f, fault, refused⟩ | ⟨valid, i, made, rest⟩
  · obtain ⟨overlong, rfl⟩ := (wanted.fault_eq_some_iff f).1 fault
    rw [refused] at outcome
    exact .inr (.inr (.inl ⟨ignored, stranded, overlong, outcome⟩))
  · have fits : ¬e.Overlong := by
      intro overlong
      have fault := (wanted.fault_eq_some_iff _).2 ⟨overlong, rfl⟩
      rw [valid] at fault
      cases fault
    obtain ⟨transaction, iaid, duid, rfl⟩ := rest
    rw [made] at outcome
    exact .inr (.inr (.inr ⟨ignored, stranded, fits, i, outcome,
      wanted, wanted.destination, transaction, iaid, duid⟩))

/-- An event has no consequence exactly if it is ignored; of the others, those are refused that do
not tell where the route leads, and then those with too long a prefix, each with its own fault;
every other has exactly one intent, which routes its lease. Neither that intent nor one of a resync
is refused when it is planned, on whatever snapshot. -/
theorem consequence_exact (store : LeaseStore) (e : LeaseEvent) :
    (e.consequence store = .ok none ↔ e.Ignored) ∧
    (∀ duid iaid, e.consequence store = .error (.missingSibling duid iaid) ↔
      ¬e.Ignored ∧ e.Stranded store ∧ duid = e.lease.duid ∧ iaid = e.lease.iaid) ∧
    (∀ f, e.consequence store = .error (.invalid f) ↔
      ¬e.Ignored ∧ ¬e.Stranded store ∧ e.Overlong ∧ f = .tooLong e.lease.length) ∧
    ((∃ i, e.consequence store = .ok (some (i, e.direction))) ↔
      ¬e.Ignored ∧ ¬e.Stranded store ∧ ¬e.Overlong) ∧
    (∀ i d, e.consequence store = .ok (some (i, d)) →
      d = e.direction ∧ e.Routes i ∧ ∀ other f, Stage.plan other i d ≠ .failed f) ∧
    ∀ map, ∀ i ∈ Resync.intents store map, ∀ other f, Stage.plan other i .apply ≠ .failed f := by
  have resynced (map : HardwareMap) (i : Intent) (h : i ∈ Resync.intents store map)
      (other : LeaseStore) (f : Fault) : Stage.plan other i .apply ≠ .failed f :=
    Resync.planned_of_mem_intents h other f
  rcases consequence_cases store e with ⟨ignored, outcome⟩ | ⟨heeded, stranded, outcome⟩ |
    ⟨heeded, known, overlong, outcome⟩ | ⟨heeded, known, fits, i, outcome, routes⟩
  · rw [outcome]
    exact ⟨by simp [ignored], by simp [ignored], by simp [ignored], by simp [ignored],
      (fun _ _ other => by cases other), resynced⟩
  · rw [outcome]
    refine ⟨by simp [heeded], fun duid iaid => ?_, by simp [stranded], by simp [stranded],
      (fun _ _ other => by cases other), resynced⟩
    simp [heeded, stranded, eq_comm]
  · rw [outcome]
    refine ⟨by simp [heeded], by simp [known], fun f => ?_, by simp [overlong],
      (fun _ _ other => by cases other), resynced⟩
    simp [heeded, known, overlong, eq_comm]
  · rw [outcome]
    refine ⟨by simp [heeded], by simp [known], by simp [fits], by simp [heeded, known, fits], ?_,
      resynced⟩
    intro j d same
    cases same
    exact ⟨rfl, routes, routes.wanted.planned rfl⟩

/-! ## A client with an address and a prefix -/

open Sample in
theorem consequence_exact_release :
    let store := LeaseStore.ofList [host, net]
    ∃ i, (LeaseEvent.release net).consequence store = .ok (some (i, .remove)) ∧
      (LeaseEvent.release net).Routes i ∧ (∀ f, Stage.plan store i .remove ≠ .failed f) ∧
      (Resync.intents store [(mac, "Vlan5")]).length = 2 ∧
      ∀ j ∈ Resync.intents store [(mac, "Vlan5")], ∀ f, Stage.plan store j .apply ≠ .failed f := by
  intro store
  obtain ⟨-, -, -, routed, planned, resynced⟩ := consequence_exact store (.release net)
  have fits : ¬(LeaseEvent.release net).Overlong := fun overlong => absurd overlong.2 (by decide)
  obtain ⟨i, outcome⟩ := routed.2 ⟨nofun, nofun, fits⟩
  obtain ⟨-, routes, executable⟩ := planned i _ outcome
  exact ⟨i, outcome, routes, executable store, by decide +kernel, fun j member =>
    resynced _ j member store⟩

end LeaseEvent

end LeaseRoutes
