import LeaseRoutes.Proofs.Exporter.Restoration
import LeaseRoutes.Proofs.Resync.Partition

namespace LeaseRoutes

open Switch

namespace Resync

/-- The report counts the intents that are made, whatever becomes of them. -/
theorem report_counts (store : LeaseStore) (map : HardwareMap) :
    (report store map).na = (intents store map).countP (·.payload.association = .na) ∧
      (report store map).pd = (intents store map).countP (·.payload.association = .pd) := by
  have na := count_foldl (decisions store map) .empty (f := .na) nofun
  have pd := count_foldl (decisions store map) .empty (f := .pd) nofun
  obtain ⟨naIntents, pdIntents⟩ := countP_toOption (decisions store map)
  exact ⟨na.trans ((Nat.zero_add _).trans naIntents.symm),
    pd.trans ((Nat.zero_add _).trans pdIntents.symm)⟩

end Resync

namespace Exporter

variable {σ : Type} (channel : Channel σ) (store : LeaseStore)

/-! ## The three ends of a restored connection -/

theorem restored_drain_refused (x : Exporter σ) (idle : x.queue = [])
    (refused : x.accepts x.offered = false) :
    let y := (x.restored.drain channel store).2
    y.queue = [] ∧ y.sent = x.sent ∧ y.failures = x.failures + 1 := by
  intro y
  have offered : (x.submit .resync).1 = false := refused
  have queue : x.restored.queue = [] := by
    simp only [restored, offered, Bool.false_eq_true, ↓reduceIte]
    simp [failed, submit, refused, idle]
  have nothing : y = x.restored := by
    simp only [y, drain, drainUpTo_nil channel store _ queue]
  rw [nothing]
  refine ⟨queue, ?_⟩
  simp only [restored, offered, Bool.false_eq_true, ↓reduceIte]
  exact ⟨rfl, rfl⟩

/-- A resync that was taken stands alone in the queue. -/
theorem restored_drain_of_accepts (x : Exporter σ) (idle : x.queue = [])
    (taken : x.accepts x.offered = true) :
    x.restored.queue = [.resync] ∧ x.restored.offered = x.offered + 1 ∧
      (x.restored.drain channel store).2 =
        (drainUpTo channel store (1 + store.size) x.restored).2 := by
  have offered : (x.submit .resync).1 = true := taken
  have queue : x.restored.queue = [.resync] := by
    rw [(restored_of_accepts x taken).1, idle, List.nil_append]
  refine ⟨queue, ?_, ?_⟩
  · simp only [restored, offered, ↓reduceIte]
    rfl
  · simp only [drain, queue]
    rfl

theorem restored_drain_untold (x : Exporter σ) (idle : x.queue = [])
    (taken : x.accepts x.offered = true) {e : Fault}
    (untold : surveyed (channel.exchange x.switch surveyBatch).1 = .error e) :
    let y := (x.restored.drain channel store).2
    y.queue = [] ∧ y.sent = x.sent ++ [surveyBatch] ∧ y.failures = x.failures + 1 := by
  intro y
  have world := (restored_of_accepts x taken).2
  obtain ⟨queue, -, drained⟩ := restored_drain_of_accepts channel store x idle taken
  obtain ⟨empty, sent, failures⟩ := drainUpTo_resync_error channel store store.size x.restored
    queue (world.switch.symm ▸ untold)
  rw [← drained] at empty sent failures
  exact ⟨empty, world.sent ▸ sent, world.failures ▸ failures⟩

theorem restored_drain_told (leases : List Lease) (x : Exporter σ) (idle : x.queue = [])
    (accepted : x.accepts x.offered = true) {map : HardwareMap}
    (told : surveyed (channel.exchange x.switch surveyBatch).1 = .ok map) :
    let y := (x.restored.drain channel (.ofList leases)).2
    y.queue = [] ∧ y.failures = x.failures ∧ y.sent = x.sent ++ surveyBatch ::
      (taken x.accepts (x.offered + 1) (Resync.commands leases map)).map .single := by
  intro y
  have world := (restored_of_accepts x accepted).2
  obtain ⟨queue, offered, drained⟩ :=
    restored_drain_of_accepts channel (.ofList leases) x idle accepted
  obtain ⟨empty, failures, sent⟩ := drainUpTo_resync_ok channel leases x.restored queue
    (world.switch.symm ▸ told)
  rw [← drained] at empty failures sent
  rw [world.sent, world.accepts, offered] at sent
  exact ⟨empty, world.failures ▸ failures, sent⟩

/-- What is done on the way from `x` to `y` for a restored connection, by a queue that may refuse
work at any time. The resync itself is the first offer and its routes are the next ones. -/
structure Restores (leases : List Lease) (x y : Exporter σ) : Prop where
  refused : x.accepts x.offered = false → y.sent = x.sent ∧ y.failures = x.failures + 1
  untold : ∀ e, x.accepts x.offered = true →
    surveyed (channel.exchange x.switch (.single "show ipv6 neighbor")).1 = .error e →
    y.sent = x.sent ++ [.single "show ipv6 neighbor"] ∧ y.failures = x.failures + 1
  told : ∀ map, x.accepts x.offered = true →
    surveyed (channel.exchange x.switch (.single "show ipv6 neighbor")).1 = .ok map →
    y.failures = x.failures ∧
    y.sent = x.sent ++ .single "show ipv6 neighbor" ::
      (taken x.accepts (x.offered + 1) (Resync.commands leases map)).map .single

/-- A refused resync and one whose survey fails are reported as one failure. Once the neighbors are
told no failure is reported any more: the routes that the queue takes are asserted, and the report
has counted all that were planned. -/
theorem restored_drain_taken (leases : List Lease) (x : Exporter σ) (idle : x.queue = []) :
    let store := LeaseStore.ofList leases
    let y := (x.restored.drain channel store).2
    y.queue = [] ∧ Restores channel leases x y ∧
      ∀ map, let planned := Resync.intents store map
        (Resync.report store map).na = planned.countP (·.payload.association = .na) ∧
          (Resync.report store map).pd = planned.countP (·.payload.association = .pd) := by
  intro store y
  refine ⟨?_, ⟨?_, ?_, ?_⟩, Resync.report_counts store⟩
  · cases first : x.accepts x.offered with
    | false => exact (restored_drain_refused channel store x idle first).1
    | true =>
      cases answer : surveyed (channel.exchange x.switch surveyBatch).1 with
      | error e => exact (restored_drain_untold channel store x idle first answer).1
      | ok map => exact (restored_drain_told channel leases x idle first answer).1
  · exact fun refused => (restored_drain_refused channel store x idle refused).2
  · exact fun e first untold => (restored_drain_untold channel store x idle first untold).2
  · exact fun map first told => (restored_drain_told channel leases x idle first told).2

/-- The queue refuses the route to the prefix. -/
theorem restored_drain_taken_sample :
    let store := LeaseStore.ofList [Sample.host, Sample.net]
    let x : Exporter Unit := { fresh () with accepts := fun n => n != 1 }
    let y := (x.restored.drain (.answering fun _ => Sample.neighbors) store).2
    y.queue = [] ∧ y.failures = 0 ∧
      y.sent = [.single "show ipv6 neighbor", .single "ipv6 route 2001:db8::10/128 Vlan5"] ∧
      (Resync.report store [(Sample.mac, "Vlan5")]).na = 1 ∧
      (Resync.report store [(Sample.mac, "Vlan5")]).pd = 1 := by
  intro store x y
  obtain ⟨queue, restores, counts⟩ := restored_drain_taken (.answering fun _ => Sample.neighbors)
    [Sample.host, Sample.net] x rfl
  obtain ⟨failures, sent⟩ := restores.told _ rfl Sample.surveyed_neighbors
  have commands : taken x.accepts 1
      (Resync.commands [Sample.host, Sample.net] [(Sample.mac, "Vlan5")]) =
      ["ipv6 route 2001:db8::10/128 Vlan5"] := by
    rw [Resync.commands, ← LeaseStore.toList_ofList]
    decide +kernel
  obtain ⟨na, pd⟩ := counts [(Sample.mac, "Vlan5")]
  refine ⟨queue, failures, ?_, na.trans (by decide +kernel), pd.trans (by decide +kernel)⟩
  exact sent.trans (by rw [show x.offered + 1 = 1 from rfl, commands]; rfl)

/-- The resync is taken and its only route is refused: neither is a failure reported nor is the
route asserted. -/
theorem refused_route_unreported :
    ¬∀ (σ : Type) (channel : Channel σ) (leases : List Lease) (x : Exporter σ), x.queue = [] →
      let store := LeaseStore.ofList leases
      let y := (x.restored.drain channel store).2
      y.failures = x.failures + 1 ∨
        y.failures = x.failures ∧ x.accepts x.offered = true ∧
          ∀ map, surveyed (channel.exchange x.switch (.single "show ipv6 neighbor")).1 = .ok map →
            ∀ k, k < (Resync.intents store map).length → x.accepts (x.offered + 1 + k) = true := by
  intro claim
  let x : Exporter Unit := { fresh () with accepts := fun n => n == 0 }
  obtain ⟨-, failures, -⟩ := restored_drain_told (.answering fun _ => Sample.neighbors)
    [Sample.host] x rfl rfl Sample.surveyed_neighbors
  rcases claim Unit (.answering fun _ => Sample.neighbors) [Sample.host] x rfl with
    failed | ⟨-, -, accepted⟩
  · exact absurd (failures.symm.trans failed) (by decide)
  · exact absurd (accepted _ Sample.surveyed_neighbors 0 (by decide +kernel)) (by decide)

end Exporter

end LeaseRoutes
