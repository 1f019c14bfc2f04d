import LeaseRoutes.Proofs.Resync.Commands

namespace LeaseRoutes

open Switch

namespace Exporter

variable {σ : Type} (channel : Channel σ) (store : LeaseStore)

/-! ## Restored connections and resyncs -/

theorem restored_of_accepts (x : Exporter σ) (h : x.accepts x.offered = true) :
    x.restored.queue = x.queue ++ [.resync] ∧ SameWorld x x.restored := by
  have taken : (x.submit .resync).1 = true := h
  simp only [restored, taken, ↓reduceIte]
  exact ⟨submit_of_accepts x .resync h, rfl, rfl, rfl, rfl, rfl⟩

theorem restored_sent (x : Exporter σ) : x.restored.sent = x.sent := by
  unfold restored
  simp only
  split <;> rfl

/-- Nothing but a survey is sent if its reply gives no map. -/
theorem runJob_resync_error (x : Exporter σ) {e : Fault}
    (h : surveyed (channel.exchange x.switch surveyBatch).1 = .error e) :
    runJob channel store x .resync = (x.send channel surveyBatch).2.failed := by
  simp [runJob, survey, send, h]

theorem runJob_resync_ok (x : Exporter σ) {map : HardwareMap}
    (h : surveyed (channel.exchange x.switch surveyBatch).1 = .ok map) :
    runJob channel store x .resync = ((x.send channel surveyBatch).2.resync store map).2 := by
  simp [runJob, survey, send, h]

theorem resync_taken (x : Exporter σ) (map : HardwareMap) :
    (x.resync store map).2.queue =
      x.queue ++ (taken x.accepts x.offered (Resync.intents store map)).map fun i =>
        .route i .apply :=
  submitRoutes_taken (x.planResync store map).2 _

theorem resync_queue (x : Exporter σ) (map : HardwareMap)
    (h : x.Takes (Resync.intents store map).length) :
    (x.resync store map).2.queue =
      x.queue ++ (Resync.intents store map).map fun i => .route i .apply :=
  submitRoutes_queue (x.planResync store map).2 _ h

theorem resync_sameWorld (x : Exporter σ) (map : HardwareMap) :
    SameWorld x (x.resync store map).2 := by
  obtain ⟨switch, sent, accepts, surveys, failures⟩ :=
    submitRoutes_sameWorld (x.planResync store map).2 (Resync.intents store map)
  exact ⟨switch, sent, accepts, surveys, failures⟩

theorem resync_offered (x : Exporter σ) (map : HardwareMap) :
    (x.resync store map).2.offered = x.offered + (Resync.intents store map).length :=
  submitRoutes_offered (x.planResync store map).2 _

/-! ## Running jobs -/

theorem runJob_grows (x : Exporter σ) (job : Job) : Grows x (runJob channel store x job) := by
  cases job with
  | route i d => exact (SameWork.run channel store x i d).grows
  | survey => exact ⟨Nat.le_refl _, Nat.le_refl _, rfl⟩
  | resync =>
    cases answer : surveyed (channel.exchange x.switch surveyBatch).1 with
    | error e =>
      rw [runJob_resync_error channel store x answer]
      exact ⟨Nat.le_succ _, Nat.le_refl _, rfl⟩
    | ok map =>
      let asked := (x.send channel surveyBatch).2
      have world := resync_sameWorld store asked map
      rw [runJob_resync_ok channel store x answer]
      refine ⟨Nat.le_of_eq world.failures.symm, ?_, world.accepts⟩
      rw [resync_offered store asked map]
      exact Nat.le_add_right _ _

theorem runFirst_grows (x : Exporter σ) : Grows x (x.runFirst channel store) := by
  cases queued : x.queue with
  | nil =>
    rw [runFirst_nil channel store queued]
    exact ⟨Nat.le_refl _, Nat.le_refl _, rfl⟩
  | cons job rest =>
    obtain ⟨failures, offered, accepts⟩ := runJob_grows channel store { x with queue := rest } job
    rw [runFirst_cons channel store queued]
    exact ⟨failures, offered, accepts⟩

theorem drainUpTo_succ (bound : Nat) (x : Exporter σ) :
    (drainUpTo channel store (bound + 1) x).2 =
      (drainUpTo channel store bound (x.runFirst channel store)).2 := by
  cases queued : x.queue with
  | nil =>
    rw [runFirst_nil channel store queued, drainUpTo_nil channel store _ queued,
      drainUpTo_nil channel store _ queued]
  | cons job rest =>
    rw [drainUpTo_cons channel store bound queued, runFirst_cons channel store queued]

theorem drainUpTo_grows (bound : Nat) (x : Exporter σ) :
    Grows x (drainUpTo channel store bound x).2 := by
  induction bound generalizing x with
  | zero => exact ⟨Nat.le_refl _, Nat.le_refl _, rfl⟩
  | succ bound ih =>
    rw [drainUpTo_succ]
    exact (runFirst_grows channel store x).trans (ih _)

/-! ## To the end of the queue -/

/-- What is done on the way from `x` to `y`: the switch is asked for its neighbors. If it does not
tell them, one failure is reported and nothing else is sent; if it does, it is given the commands
of the snapshot one by one and no failure is reported. -/
structure Reasserts (leases : List Lease) (x y : Exporter σ) : Prop where
  untold : ∀ e, surveyed (channel.exchange x.switch (.single "show ipv6 neighbor")).1 = .error e →
    y.sent = x.sent ++ [.single "show ipv6 neighbor"] ∧ y.failures = x.failures + 1
  told : ∀ map, surveyed (channel.exchange x.switch (.single "show ipv6 neighbor")).1 = .ok map →
    y.sent = x.sent ++
      .single "show ipv6 neighbor" :: (Resync.commands leases map).map .single ∧
    y.failures = x.failures

/-- A resync alone in the queue whose survey fails, drained to the end. -/
theorem drainUpTo_resync_error (bound : Nat) (x : Exporter σ) (queued : x.queue = [.resync])
    {e : Fault} (untold : surveyed (channel.exchange x.switch surveyBatch).1 = .error e) :
    let y := (drainUpTo channel store (1 + bound) x).2
    y.queue = [] ∧ y.sent = x.sent ++ [surveyBatch] ∧ y.failures = x.failures + 1 := by
  intro y
  let idle : Exporter σ := { x with queue := [] }
  have first : y = (drainUpTo channel store bound (runJob channel store idle .resync)).2 := by
    simp only [y, Nat.add_comm 1, drainUpTo_cons channel store _ queued, idle]
  rw [first, runJob_resync_error channel store idle untold, drainUpTo_nil channel store _ rfl]
  exact ⟨rfl, rfl, rfl⟩

/-- A resync alone in the queue whose survey succeeds, drained to the end: the switch is given the
commands that stand for the routes that were taken. -/
theorem drainUpTo_resync_ok (leases : List Lease) (x : Exporter σ) (queued : x.queue = [.resync])
    {map : HardwareMap} (told : surveyed (channel.exchange x.switch surveyBatch).1 = .ok map) :
    let store := LeaseStore.ofList leases
    let y := (drainUpTo channel store (1 + store.size) x).2
    y.queue = [] ∧ y.failures = x.failures ∧
      y.sent = x.sent ++
        surveyBatch :: (taken x.accepts x.offered (Resync.commands leases map)).map .single := by
  intro store y
  let idle : Exporter σ := { x with queue := [] }
  let asked := (idle.send channel surveyBatch).2
  have world := resync_sameWorld store asked map
  have known := taken_forall₂ (Resync.known_intents store told store.toList) x.accepts x.offered
  have enough := Nat.le_trans (taken_sublist x.accepts x.offered (Resync.intents store map)).length_le
    (Resync.length_intents_le store map)
  obtain ⟨empty, sent, failures⟩ := drainUpTo_known channel store store.size
    (asked.resync store map).2 (resync_taken store asked map) known enough
  have first : y = (drainUpTo channel store store.size (runJob channel store idle .resync)).2 := by
    simp only [y, Nat.add_comm 1, drainUpTo_cons channel store _ queued, idle]
  rw [first, runJob_resync_ok channel store idle told]
  refine ⟨empty, failures.trans world.failures, ?_⟩
  rw [sent, world.sent, taken_map, LeaseStore.toList_ofList, List.append_cons]
  rfl

/-- A resync alone in the queue, drained to the end. -/
theorem drainUpTo_resync (leases : List Lease) (x : Exporter σ) (queued : x.queue = [.resync])
    (accepting : ∀ n, x.accepts n = true) :
    let store := LeaseStore.ofList leases
    let y := (drainUpTo channel store (1 + store.size) x).2
    y.queue = [] ∧ Reasserts channel leases x y := by
  intro store y
  cases answer : surveyed (channel.exchange x.switch surveyBatch).1 with
  | error e =>
    obtain ⟨empty, sent, failures⟩ :=
      drainUpTo_resync_error channel store store.size x queued answer
    refine ⟨empty, fun _ _ => ⟨sent, failures⟩, fun map told => ?_⟩
    exact absurd (answer.symm.trans told) nofun
  | ok map =>
    obtain ⟨empty, failures, sent⟩ := drainUpTo_resync_ok channel leases x queued answer
    refine ⟨empty, fun e untold => absurd (answer.symm.trans untold) nofun, fun map' told => ?_⟩
    obtain rfl : map = map' := Except.ok.inj (answer.symm.trans told)
    rw [taken_eq_self fun n _ _ => accepting n] at sent
    exact ⟨sent, failures⟩

/-- When the connection is back and the queue takes all work, the leases are asserted anew,
whatever the switch answers to the commands. -/
theorem restored_drain_reasserts (leases : List Lease) (x : Exporter σ) (idle : x.queue = [])
    (accepting : ∀ n, x.accepts n = true) :
    let y := (x.restored.drain channel (.ofList leases)).2
    y.queue = [] ∧ Reasserts channel leases x y := by
  obtain ⟨queue, world⟩ := restored_of_accepts x (accepting x.offered)
  rw [idle, List.nil_append] at queue
  have bound : load (.ofList leases) x.restored.queue = 1 + (LeaseStore.ofList leases).size := by
    rw [queue]
    rfl
  obtain ⟨empty, untold, told⟩ := drainUpTo_resync channel leases x.restored queue
    fun n => (congrFun world.accepts n).trans (accepting n)
  simp only [world.switch, world.sent, world.failures] at untold told
  simp only [drain, bound]
  exact ⟨empty, untold, told⟩

end Exporter

/-! ## A client with an address and a prefix -/

namespace Sample

def mac : Mac := ⟨[0x02, 0x42, 0, 0, 0, 1], rfl⟩

def host : Lease where
  address := ⟨[0x2001, 0xdb8, 0, 0, 0, 0, 0, 0x10], rfl⟩
  length := 128
  association := .na
  iaid := 7
  duid := some ⟨[0, 1]⟩
  hardware := some mac
  subnet := 5
  state := .active

def net : Lease :=
  { host with
    address := ⟨[0x2001, 0xdb8, 1, 0, 0, 0, 0, 0], rfl⟩, length := 56, association := .pd, subnet := 3 }

/-- The client is seen on one interface. -/
def neighbors : Reply :=
  let adjacency := Json.obj [("intf-out", .str "Vlan5"), ("mac", .str "0242.0000.0001")]
  let family := Json.obj
    [("TABLE_adj", .obj [("ROW_adj", adjacency)]), ("afi", .str "ipv6")]
  let vrf := Json.obj
    [("TABLE_afi", .obj [("ROW_afi", family)]), ("vrf-name-out", .str "default")]
  ⟨none, 200, [⟨.num 1, .obj [("body", .obj [("TABLE_vrf", .obj [("ROW_vrf", vrf)])])]⟩], none⟩

theorem surveyed_neighbors : surveyed neighbors = .ok [(mac, "Vlan5")] := by decide +kernel

end Sample

/-- The prefix is in the first subnet. -/
theorem Exporter.restored_drain_reasserts_sample :
    let y := ((fresh ()).restored.drain (.answering fun _ => Sample.neighbors)
      (.ofList [Sample.host, Sample.net])).2
    y.queue = [] ∧ y.failures = 0 ∧
      y.sent = [.single "show ipv6 neighbor",
        .single "ipv6 route 2001:db8:1::/56 2001:db8::10",
        .single "ipv6 route 2001:db8::10/128 Vlan5"] := by
  intro y
  obtain ⟨queue, reasserts⟩ := restored_drain_reasserts (.answering fun _ => Sample.neighbors)
    [Sample.host, Sample.net] (fresh ()) rfl fun _ => rfl
  obtain ⟨sent, failures⟩ := reasserts.told _ Sample.surveyed_neighbors
  have commands : Resync.commands [Sample.host, Sample.net] [(Sample.mac, "Vlan5")] =
      ["ipv6 route 2001:db8:1::/56 2001:db8::10", "ipv6 route 2001:db8::10/128 Vlan5"] := by
    rw [Resync.commands, ← LeaseStore.toList_ofList]
    decide +kernel
  refine ⟨queue, failures, ?_⟩
  rw [sent, commands]
  rfl

end LeaseRoutes
