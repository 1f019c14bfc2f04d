import LeaseRoutes.Proofs.Exporter.Frame
import LeaseRoutes.Proofs.Lease.Snapshot

namespace LeaseRoutes

namespace Switch

namespace Lookup

/-- Where the route leads according to a table: to its first interface, its first VLAN interface,
or its first next hop. -/
def found? (l : Lookup) (t : RouteTable) : Option String :=
  match l with
  | .linkInterface .. => (t.firstInterface fun _ => true).toOption
  | .leasedInterface _ => (t.firstInterface isVlan).toOption
  | .nextHop _ => t.firstNextHop

/-- The change that was looked up for, once it is known where the route leads. -/
def change (l : Lookup) (d : Direction) (via : String) : Change :=
  match l with
  | .linkInterface _ leased | .leasedInterface leased => .na d leased via
  | .nextHop target => .pd d target via

/-- The reply is accepted, its body is a route table, and the route of the table leads to `via`. -/
def Finds (l : Lookup) (r : Reply) (via : String) : Prop :=
  ∃ response table, r.lookup = .ok response ∧ RouteTable.output.parse response.result = .ok table ∧
    l.found? table = some via

theorem Finds.unique {l : Lookup} {r : Reply} {v w : String} (h : l.Finds r v) (k : l.Finds r w) :
    v = w := by
  obtain ⟨response, table, accepted, parsed, found⟩ := h
  obtain ⟨response', table', accepted', parsed', found'⟩ := k
  obtain rfl := Except.ok.inj (accepted.symm.trans accepted')
  obtain rfl := Except.ok.inj (parsed.symm.trans parsed')
  exact Option.some.inj (found.symm.trans found')

end Lookup

/-- A command that changes something on the switch. -/
def Configures (command : String) : Prop :=
  ∃ rest, command = "ipv6 route " ++ rest ∨ command = "no ipv6 route " ++ rest ∨
    command = "clear ipv6 neighbor " ++ rest

theorem configures_installRoute (destination via : String) :
    Configures (installRoute destination via) := by
  refine ⟨destination ++ " " ++ via, .inl ?_⟩
  unfold installRoute
  simp only [String.append_assoc]

theorem configures_withdrawRoute (destination via : String) :
    Configures (withdrawRoute destination via) := by
  refine ⟨destination ++ " " ++ via, .inr (.inl ?_)⟩
  unfold withdrawRoute
  simp only [String.append_assoc]

theorem configures_clearNeighbor (interface : String) : Configures (clearNeighbor interface) := by
  refine ⟨interface ++ " force-delete", .inr (.inr ?_)⟩
  unfold clearNeighbor
  exact String.append_assoc ..

theorem not_configures_showRoute (d : Destination) : ¬Configures (showRoute d) := by
  unfold showRoute
  rintro ⟨rest, h | h | h⟩
  all_goals
    have first := congrArg (fun s => s.toList.head?) h
    simp at first

/-- A change consists of nothing but changes. -/
theorem configures_batch (c : Change) {command : Rpc.Command} (h : command ∈ c.batch.commands) :
    Configures command.text := by
  unfold Change.batch at h
  split at h
  · rw [List.mem_singleton.1 h]
    exact configures_installRoute _ _
  · rw [List.mem_singleton.1 h]
    exact configures_withdrawRoute _ _
  · simp only [List.mem_cons, List.not_mem_nil, or_false] at h
    rcases h with rfl | rfl
    · exact configures_withdrawRoute _ _
    · exact configures_clearNeighbor _

namespace Stage

/-! ## First stages -/

section Plan

variable (store : LeaseStore) {i : Intent}

theorem plan_naApply {link leased : Address} (d : Direction) (h : i.payload = .naApply link leased) :
    plan store i d = .lookup (.linkInterface link leased) d := by
  simp only [plan, h]

theorem plan_naApplyTo {interface : String} {leased : Address} (d : Direction)
    (h : i.payload = .naApplyTo interface leased) :
    plan store i d = .change (.na d leased interface) := by
  simp only [plan, h]

theorem plan_pdApply {hop : Address} {target : Destination} (d : Direction)
    (h : i.payload = .pdApply hop target) : plan store i d = .change (.pd d target hop.text) := by
  simp only [plan, h]

theorem plan_naRemove {leased : Address} (h : i.payload = .naRemove leased) :
    plan store i .remove = .lookup (.leasedInterface leased) .remove := by
  simp only [plan, h]

theorem plan_pdRemove_of_sibling {target : Destination} {l : Lease}
    (h : i.payload = .pdRemove target)
    (found : store.toList.find? (LeaseStore.isSibling i.duid i.iaid) = some l) :
    plan store i .remove = .change (.pd .remove target l.address.text) := by
  simp only [plan, h, LeaseStore.sibling_eq_find?, found]

theorem plan_pdRemove_of_no_sibling {target : Destination} (h : i.payload = .pdRemove target)
    (absent : store.toList.find? (LeaseStore.isSibling i.duid i.iaid) = none) :
    plan store i .remove = .lookup (.nextHop target) .remove := by
  simp only [plan, h, LeaseStore.sibling_eq_find?, absent]

/-- A removal cannot be applied. -/
theorem plan_unsupported
    (h : (∃ leased, i.payload = .naRemove leased) ∨ ∃ target, i.payload = .pdRemove target) :
    plan store i .apply = .failed (.unsupported i.payload) := by
  rcases h with ⟨_, h⟩ | ⟨_, h⟩ <;> simp only [plan, h]

end Plan

/-! ## Replies to a lookup -/

theorem firstNextHop_of_no_prefixes {t : RouteTable} (h : t.prefixes.isEmpty = true) :
    t.firstNextHop = none := by
  simp [RouteTable.firstNextHop, List.isEmpty_iff.1 h]

theorem request_resolve (l : Lookup) (d : Direction) (t : RouteTable) :
    (resolve l d t).request = (l.found? t).map fun via => (l.change d via).batch := by
  cases l with
  | linkInterface link leased =>
    cases h : t.firstInterface fun _ => true <;>
      simp [resolve, Lookup.found?, Lookup.change, h, request, Except.toOption]
  | leasedInterface leased =>
    cases h : t.firstInterface isVlan <;>
      simp [resolve, Lookup.found?, Lookup.change, h, request, Except.toOption]
  | nextHop target =>
    cases e : t.prefixes.isEmpty with
    | true => simp [resolve, Lookup.found?, e, firstNextHop_of_no_prefixes e, request]
    | false =>
      cases h : t.firstNextHop <;> simp [resolve, Lookup.found?, Lookup.change, e, h, request]

theorem next_of_parsed {l : Lookup} {d : Direction} {r : Reply} {x : Rpc.Response} {t : RouteTable}
    (accepted : r.lookup = .ok x) (parsed : RouteTable.output.parse x.result = .ok t) :
    (lookup l d).next r = resolve l d t := by
  simp only [next, Reply.output_of_parsed accepted parsed]

theorem request_next_of_finds {l : Lookup} {d : Direction} {r : Reply} {via : String}
    (h : l.Finds r via) : ((lookup l d).next r).request = some (l.change d via).batch := by
  obtain ⟨response, table, accepted, parsed, found⟩ := h
  rw [next_of_parsed accepted parsed, request_resolve, found, Option.map_some]

theorem request_next_of_not_finds {l : Lookup} {d : Direction} {r : Reply}
    (h : ∀ via, ¬l.Finds r via) : ((lookup l d).next r).request = none := by
  cases accepted : r.lookup with
  | error e => simp only [next, Reply.output_of_refused _ accepted, request]
  | ok response =>
    cases parsed : RouteTable.output.parse response.result with
    | error e => simp only [next, Reply.output_of_unparsed accepted parsed, request]
    | ok table =>
      rw [next_of_parsed accepted parsed, request_resolve, Option.map_eq_none_iff]
      cases found : l.found? table with
      | none => rfl
      | some via => exact absurd ⟨response, table, accepted, parsed, found⟩ (h via)

/-- A lookup that is followed by a change has found where the route leads. -/
theorem finds_of_request_next {l : Lookup} {d : Direction} {r : Reply} {b : Rpc.Batch}
    (h : ((lookup l d).next r).request = some b) : ∃ via, b = (l.change d via).batch := by
  by_cases found : ∃ via, l.Finds r via
  · obtain ⟨via, found⟩ := found
    rw [request_next_of_finds found] at h
    exact ⟨via, (Option.some.inj h).symm⟩
  · rw [request_next_of_not_finds (not_exists.1 found)] at h
    cases h

/-- All that is sent from a stage on, given the reply to its own batch. -/
def batches (answer : Rpc.Batch → Reply) (s : Stage) : List Rpc.Batch :=
  match s with
  | .lookup l d =>
    .single l.command :: ((lookup l d).next (answer (.single l.command))).request.toList
  | s => s.request.toList

theorem length_batches_le (answer : Rpc.Batch → Reply) (s : Stage) :
    (s.batches answer).length ≤ s.rank := by
  cases s with
  | lookup l d => simp [batches, rank, Option.length_toList]; split <;> simp
  | change => simp [batches, request, rank]
  | done | failed => simp [batches, request]

/-- Whatever is sent shows the routes of a destination or makes a change. -/
theorem shows_or_changes {answer : Rpc.Batch → Reply} {s : Stage} {b : Rpc.Batch}
    (member : b ∈ s.batches answer) :
    (∃ target, b = .single (showRoute target)) ∨ ∃ c : Change, b = c.batch := by
  cases s with
  | lookup l d =>
    rcases List.mem_cons.1 member with shown | changed
    · exact .inl ⟨l.destination, shown⟩
    · obtain ⟨via, same⟩ := finds_of_request_next (Option.mem_toList.1 changed)
      exact .inr ⟨_, same⟩
  | change c => exact .inr ⟨c, by simpa [batches, request] using member⟩
  | done | failed => simp [batches, request] at member

end Stage

end Switch

namespace Exporter

open Switch

variable {σ : Type} (channel : Channel σ) (store : LeaseStore)

theorem step_sent (x : Exporter σ) (s : Stage) :
    (x.step channel s).2.sent = x.sent ++ s.request.toList := by
  cases s with
  | lookup | change => rfl
  | done | failed => exact (List.append_nil _).symm

/-- A change is the last that is sent. -/
theorem settle_change (x : Exporter σ) (c : Change) :
    x.settle channel (.change c) = x.step channel (.change c) := by
  have last : (x.step channel (.change c)).1.terminal = true := by
    simp only [step, Stage.request, Stage.next]
    split <;> rfl
  rw [settle_step, settle_of_terminal channel _ last]

theorem settle_change_sent (x : Exporter σ) (c : Change) :
    (x.settle channel (.change c)).2.sent = x.sent ++ [c.batch] := by
  rw [settle_change, step_sent]
  rfl

theorem settle_sent (x : Exporter σ) (s : Stage) :
    (x.settle channel s).2.sent =
      x.sent ++ s.batches fun b => (channel.exchange x.switch b).1 := by
  cases s with
  | done | failed => rw [settle_of_terminal channel x rfl]; simp [Stage.batches, Stage.request]
  | change c => exact settle_change_sent channel x c
  | lookup l d =>
    rw [settle_step]
    have next : (x.step channel (.lookup l d)).1 =
      (Stage.lookup l d).next (channel.exchange x.switch (.single l.command)).1 := rfl
    cases after : (x.step channel (.lookup l d)).1 with
    | lookup k e =>
      have low := rank_step_lt channel x (s := .lookup l d) rfl
      simp [after, Stage.rank] at low
    | change c =>
      rw [settle_change_sent, step_sent]
      simp [Stage.batches, ← next, after, Stage.request]
    | done c =>
      rw [settle_of_terminal channel _ rfl, step_sent]
      simp [Stage.batches, ← next, after, Stage.request]
    | failed e =>
      rw [settle_of_terminal channel _ rfl, step_sent]
      simp [Stage.batches, ← next, after, Stage.request]

/-- A run sends what its first stage leads to. -/
theorem run_sent (x : Exporter σ) (i : Intent) (d : Direction) :
    (x.run channel store i d).2.sent =
      x.sent ++ (Stage.plan store i d).batches fun b => (channel.exchange x.switch b).1 :=
  settle_sent channel (x.plan store i d).2 (Stage.plan store i d)

theorem run_terminal (x : Exporter σ) (i : Intent) (d : Direction) :
    (x.run channel store i d).1.terminal = true :=
  settle_terminal channel (x.plan store i d).2 (Stage.plan store i d)

/-- A removal that is to be applied ends at once. -/
theorem run_unsupported (x : Exporter σ) {i : Intent}
    (h : (∃ leased, i.payload = .naRemove leased) ∨ ∃ target, i.payload = .pdRemove target) :
    ((Stage.plan store i .apply).batches fun b => (channel.exchange x.switch b).1) = [] ∧
      (x.run channel store i .apply).1 = .failed (.unsupported i.payload) := by
  have first := Stage.plan_unsupported store h
  refine ⟨by rw [first]; rfl, ?_⟩
  change ((x.plan store i .apply).2.settle channel (Stage.plan store i .apply)).1 = _
  rw [first, settle_of_terminal channel _ rfl]

/-- What is sent to look for a route to a destination: its routes are shown, and then the change
follows exactly if the reply tells where the route leads. -/
def Searches (x : Exporter σ) (target : Destination) (l : Lookup) (change : String → Change)
    (batches : List Rpc.Batch) : Prop :=
  let shown := Rpc.Batch.single ("show ipv6 route " ++ target.text)
  let reply := (channel.exchange x.switch shown).1
  (∃ via, l.Finds reply via ∧ batches = [shown, (change via).batch]) ∨
    (∀ via, ¬l.Finds reply via) ∧ batches = [shown] ∧
      ∀ command ∈ shown.commands, ¬Configures command.text

theorem searches_batches (x : Exporter σ) (l : Lookup) (d : Direction) :
    Searches channel x l.destination l (l.change d)
      ((Stage.lookup l d).batches fun b => (channel.exchange x.switch b).1) := by
  by_cases h : ∃ via, l.Finds (channel.exchange x.switch (.single l.command)).1 via
  · obtain ⟨via, found⟩ := h
    refine .inl ⟨via, found, ?_⟩
    simp only [Stage.batches, Stage.request_next_of_finds found]
    rfl
  · have lost := not_exists.1 h
    refine .inr ⟨lost, ?_, ?_⟩
    · simp only [Stage.batches, Stage.request_next_of_not_finds lost]
      rfl
    · intro command member
      rw [List.mem_singleton.1 member]
      exact not_configures_showRoute l.destination

/-- A run ends after two round trips at most, and every batch shows the routes of one destination or
consists of nothing but changes. A run sends nothing for a removal that is to be applied, the change
alone where it is known where the route leads, and a lookup first where it is not. -/
theorem run_sends (x : Exporter σ) (i : Intent) (d : Direction) :
    (x.run channel store i d).1.terminal = true ∧
    ∃ batches, (x.run channel store i d).2.sent = x.sent ++ batches ∧ batches.length ≤ 2 ∧
      (∀ b ∈ batches, (∃ target : Destination, b = .single ("show ipv6 route " ++ target.text)) ∨
        ∀ command ∈ b.commands, Configures command.text) ∧
      match i.payload, d with
      | .naRemove _, .apply | .pdRemove _, .apply =>
        batches = [] ∧ (x.run channel store i d).1 = .failed (.unsupported i.payload)
      | .naApplyTo interface leased, d => batches = [(Change.na d leased interface).batch]
      | .pdApply hop target, d => batches = [(Change.pd d target hop.text).batch]
      | .naApply link leased, d =>
        Searches channel x ⟨link, 128⟩ (.linkInterface link leased) (.na d leased) batches
      | .naRemove leased, .remove =>
        Searches channel x ⟨leased, 128⟩ (.leasedInterface leased) (.na .remove leased) batches
      | .pdRemove target, .remove =>
        match store.toList.find? (LeaseStore.isSibling i.duid i.iaid) with
        | some sibling => batches = [(Change.pd .remove target sibling.address.text).batch]
        | none => Searches channel x target (.nextHop target) (.pd .remove target) batches := by
  refine ⟨run_terminal channel store x i d, _, run_sent channel store x i d, ?_, ?_, ?_⟩
  · exact Nat.le_trans (Stage.length_batches_le _ _) (Stage.rank_le _)
  · intro b member
    rcases Stage.shows_or_changes member with shown | ⟨c, rfl⟩
    · exact .inl shown
    · exact .inr fun command => configures_batch c
  · cases payload : i.payload with
    | naApply link leased =>
      rw [Stage.plan_naApply store d payload]
      cases d <;> exact searches_batches channel x _ _
    | pdApply hop target =>
      rw [Stage.plan_pdApply store d payload]
      cases d <;> rfl
    | naApplyTo interface leased =>
      rw [Stage.plan_naApplyTo store d payload]
      cases d <;> rfl
    | naRemove leased =>
      cases d with
      | apply =>
        obtain ⟨nothing, failed⟩ := run_unsupported channel store x (.inl ⟨leased, payload⟩)
        exact ⟨nothing, payload ▸ failed⟩
      | remove =>
        rw [Stage.plan_naRemove store payload]
        exact searches_batches channel x _ _
    | pdRemove target =>
      cases d with
      | apply =>
        obtain ⟨nothing, failed⟩ := run_unsupported channel store x (.inr ⟨target, payload⟩)
        exact ⟨nothing, payload ▸ failed⟩
      | remove =>
        cases sibling : store.toList.find? (LeaseStore.isSibling i.duid i.iaid) with
        | some l =>
          rw [Stage.plan_pdRemove_of_sibling store payload sibling]
          rfl
        | none =>
          rw [Stage.plan_pdRemove_of_no_sibling store payload sibling]
          exact searches_batches channel x _ _

end Exporter

/-! ## A client that comes and goes -/

namespace Sample

open Switch

def gateway : Address := ⟨[0x2001, 0xdb8, 0, 0, 0, 0, 0, 1], rfl⟩

def client : Address := ⟨[0x2001, 0xdb8, 0, 0, 0, 0, 0, 0x20], rfl⟩

/-- The report of a route to an address. -/
def routed (a : Address) (interface : String) : Reply :=
  let route := Json.obj [("TABLE_path", .obj [("ROW_path", .obj [("ifname", .str interface)])]),
    ("attached", .str "true"), ("ipprefix", .str (Destination.host a).text)]
  let family := Json.obj
    [("TABLE_prefix", .obj [("ROW_prefix", route)]), ("addrf", .str "ipv6")]
  let vrf := Json.obj
    [("TABLE_addrf", .obj [("ROW_addrf", family)]), ("vrf-name-out", .str "default")]
  ⟨none, 200, [⟨.num 1, .obj [("body", .obj [("TABLE_vrf", .obj [("ROW_vrf", vrf)])])]⟩], none⟩

/-- The link and the client are on the same interface. -/
def behind (interface : String) : Channel Unit :=
  .answering fun b =>
    if b = .single "show ipv6 route 2001:db8::20/128" then routed client interface
    else routed gateway interface

def arrival : Intent := ⟨some 1, 7, none, .naApply gateway client, rfl⟩

def departure : Intent := ⟨none, 7, none, .naRemove client, rfl⟩

end Sample

namespace Exporter

open Sample Switch

/-- The switch tells the interface of the link, and the route to the client is installed there. -/
theorem run_sends_arrival :
    let run := (fresh ()).run (behind "Vlan5") (.ofList []) arrival .apply
    run.1.terminal = true ∧ run.2.sent =
      [.single "show ipv6 route 2001:db8::1/128",
        .single "ipv6 route 2001:db8::20/128 Vlan5"] := by
  intro run
  obtain ⟨ended, batches, sent, -, -, searches⟩ :=
    run_sends (behind "Vlan5") (.ofList []) (fresh ()) arrival .apply
  have shown : "show ipv6 route " ++ (⟨gateway, 128⟩ : Destination).text =
      "show ipv6 route 2001:db8::1/128" := by decide +kernel
  have installed : (Change.na .apply client "Vlan5").batch =
      .single "ipv6 route 2001:db8::20/128 Vlan5" := by decide +kernel
  have finds : (Lookup.linkInterface gateway client).Finds
      ((behind "Vlan5").exchange () (.single "show ipv6 route 2001:db8::1/128")).1 "Vlan5" :=
    ⟨_, _, rfl, rfl, rfl⟩
  change Searches (behind "Vlan5") (fresh ()) ⟨gateway, 128⟩ (.linkInterface gateway client)
    (.na .apply client) batches at searches
  simp only [Searches, shown] at searches
  refine ⟨ended, sent.trans ?_⟩
  obtain ⟨via, found, rfl⟩ | ⟨lost, -⟩ := searches
  · rw [← installed, found.unique finds]
    rfl
  · exact absurd finds (lost "Vlan5")

end Exporter

end LeaseRoutes
