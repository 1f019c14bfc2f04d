import LeaseRoutes.Proofs.Exporter.Drain
import LeaseRoutes.Proofs.Heartbeat.Watch
import LeaseRoutes.Proofs.Lease.Target
import LeaseRoutes.Proofs.Switch.Installation
import LeaseRoutes.Service

namespace LeaseRoutes

open Switch

/-! ## Steps of a service -/

/-- What a service meets. -/
inductive Service.Occurrence
  | event (e : LeaseEvent)
  | probe

namespace Service

open Heartbeat Http

variable {σ : Type} (network : Network σ)

/-- Handles an event or probes the switch, and does all work that follows. -/
def meet (s : Service σ) : Occurrence → Service σ
  | .event e => (s.handle e).2.work network
  | .probe => (s.tick network).work network

def course (s : Service σ) (occurrences : List Occurrence) : Service σ :=
  occurrences.foldl (meet network) s

def sent (s : Service σ) : List Rpc.Batch := s.watch.exporter.sent

/-- No work is left to do. -/
def Idle (s : Service σ) : Prop := s.watch.exporter.queue = []

/-- The transition that a probe finds. -/
def transition (s : Service σ) : Option Transition :=
  (s.watch.tick (s.client.channel network) .resync).1

/-- What the switch tells of its neighbors right after a probe. -/
def survey (s : Service σ) : Except Fault HardwareMap :=
  ((s.tick network).watch.exporter.survey (s.client.channel network)).1

/-- A route is installed for the selection of a lease with its destination, and by the resync of a
discontinuity for an active lease of the snapshot that is routed over the map of the survey. -/
def Warrants (s : Service σ) (destination : String) : Occurrence → Prop
  | .event e => e.hook = .select ∧ e.lease.target.text = destination
  | .probe => s.transition network = some .discontinuity ∧
      ∃ map, s.survey network = .ok map ∧ ∃ l ∈ s.store.toList, ∃ i,
        Resync.decide s.store map l = .ok i ∧ l.isActive = true ∧ l.target.text = destination

theorem work_exporter (s : Service σ) :
    (s.work network).watch.exporter =
      (s.watch.exporter.drain (s.client.channel network) s.store).2 :=
  Watch.advance_exporter _ _

theorem meet_idle (s : Service σ) (o : Occurrence) : (s.meet network o).Idle := by
  have drained (t : Service σ) : (t.work network).Idle := by
    rw [Idle, work_exporter]
    exact Exporter.drain_queue _ _ _
  cases o <;> exact drained _

theorem meet_store (s : Service σ) (o : Occurrence) : (s.meet network o).store = s.store := by
  cases o <;> rfl

theorem course_store (s : Service σ) (occurrences : List Occurrence) :
    (s.course network occurrences).store = s.store := by
  induction occurrences generalizing s with
  | nil => rfl
  | cons o occurrences ih => exact (ih (s.meet network o)).trans (meet_store network s o)

theorem course_idle {s : Service σ} (idle : s.Idle) (occurrences : List Occurrence) :
    (s.course network occurrences).Idle := by
  induction occurrences generalizing s with
  | nil => exact idle
  | cons o occurrences ih => exact ih (meet_idle network s o)

/-- The work that is queued sends no more than it brings. -/
theorem work_sends {P : Rpc.Batch → Prop} (s : Service σ)
    (queued : ∀ j ∈ s.watch.exporter.queue, j.Brings s.store P) :
    Exporter.Sends P s.watch.exporter (s.work network).watch.exporter := by
  rw [work_exporter]
  exact Exporter.drainUpTo_sends _ _ _ _ queued

/-- At most the intent of an event is queued, and nothing is sent yet. -/
theorem handle_spec (s : Service σ) (e : LeaseEvent) :
    (s.handle e).2.sent = s.sent ∧
      ∀ j ∈ (s.handle e).2.watch.exporter.queue, j ∈ s.watch.exporter.queue ∨
        ∃ i d, e.consequence s.store = .ok (some (i, d)) ∧ j = .route i d := by
  cases consequence : e.consequence s.store with
  | error fault =>
    simp only [handle, Exporter.handle, consequence]
    exact ⟨rfl, fun j => .inl⟩
  | ok intent =>
    cases intent with
    | none =>
      simp only [handle, Exporter.handle, consequence]
      exact ⟨rfl, fun j => .inl⟩
    | some work =>
      obtain ⟨i, d⟩ := work
      simp only [handle, Exporter.handle, consequence]
      refine ⟨rfl, fun j member => ?_⟩
      exact (Exporter.mem_submit member).imp_right fun new => ⟨i, d, rfl, new⟩

theorem tick_sends (s : Service σ) :
    Exporter.Sends (fun b => b = probe) s.watch.exporter (s.tick network).watch.exporter := by
  refine ⟨_, Watch.tick_sent (s.client.channel network) s.watch, fun b member => ?_⟩
  obtain ⟨-, -, rfl⟩ := List.mem_map.1 member
  rfl

/-- At most a resync is queued, for a discontinuity. -/
theorem tick_queue {s : Service σ} (idle : s.Idle) :
    (s.tick network).watch.exporter.queue = [] ∨
      s.transition network = some .discontinuity ∧
        (s.tick network).watch.exporter.queue = [.resync] := by
  rcases Watch.tick_spec (s.client.channel network) s.watch with ⟨found, queue⟩ | ⟨queue, -⟩
  · rw [idle, List.nil_append] at queue
    exact .inr ⟨found, queue⟩
  · exact .inl (queue.trans idle)

/-- What a service sends for an occurrence installs a route only for a cause. -/
theorem meet_sends {s : Service σ} (idle : s.Idle) (o : Occurrence) (t : Destination) :
    Exporter.Sends (fun b => b.Installs t.text → s.Warrants network t.text o)
      s.watch.exporter (s.meet network o).watch.exporter := by
  cases o with
  | event e =>
    obtain ⟨sent, queue⟩ := handle_spec s e
    refine Exporter.Sends.trans (.of_eq sent) (work_sends network (s.handle e).2 fun j member => ?_)
    rcases queue j member with old | ⟨i, d, consequence, rfl⟩
    · rw [idle] at old
      cases old
    · refine ⟨i, d, rfl, fun answer b brought installs => ?_⟩
      obtain ⟨rfl, same⟩ := Stage.target_of_installs brought installs
      obtain ⟨selected, target⟩ := LeaseEvent.target_of_consequence consequence
      exact ⟨selected, target ▸ same⟩
  | probe =>
    have probed : Exporter.Sends (fun b => b.Installs t.text → s.Warrants network t.text .probe)
        s.watch.exporter (s.tick network).watch.exporter := by
      obtain ⟨batches, sent, probes⟩ := tick_sends network s
      refine ⟨batches, sent, fun b member installs => ?_⟩
      rw [probes b member] at installs
      exact absurd installs (not_installs_single _ (by decide))
    refine probed.trans ?_
    rcases tick_queue network idle with nothing | ⟨found, resync⟩
    · refine work_sends network (s.tick network) fun j member => ?_
      rw [nothing] at member
      cases member
    · rw [meet, work_exporter]
      refine Exporter.drain_resync_sends _ _ resync
        (fun installs => absurd installs (not_installs_single _ (by decide))) ?_
      intro map told i planned answer b brought installs
      obtain ⟨-, same⟩ := Stage.target_of_installs brought installs
      obtain ⟨l, member, decided⟩ := Resync.mem_intents_iff.1 planned
      obtain ⟨active, target⟩ := Resync.target_of_decide decided
      exact ⟨found, map, told, l, member, i, decided, active, target ▸ same⟩

/-- After the removal of a lease, at any later time, a batch that installs the route to its
destination is sent for a selection of such a lease, or by the resync of a discontinuity that
decides to route such a lease, an active one of the snapshot, over the map of its survey. The
removal itself installs nothing there. -/
theorem removed_stays_withdrawn {s : Service σ} (idle : s.Idle) {e : LeaseEvent}
    (removal : e.hook ≠ .select) :
    let destination := e.lease.target.text
    (∃ batches, (s.meet network (.event e)).sent = s.sent ++ batches ∧
      ∀ b ∈ batches, ¬b.Installs destination) ∧
    ∀ between o, let now := s.course network (.event e :: between)
      ∃ batches, (now.meet network o).sent = now.sent ++ batches ∧
        ∀ b ∈ batches, b.Installs destination → match o with
          | .event f => f.hook = .select ∧ f.lease.target.text = destination
          | .probe => now.transition network = some .discontinuity ∧
            ∃ map, now.survey network = .ok map ∧ ∃ l ∈ s.store.toList, ∃ i,
              Resync.decide s.store map l = .ok i ∧ l.isActive = true ∧
                l.target.text = destination := by
  intro destination
  refine ⟨?_, fun between o => ?_⟩
  · obtain ⟨batches, sent, causes⟩ := meet_sends network idle (.event e) e.lease.target
    exact ⟨batches, sent, fun b member installs => removal (causes b member installs).1⟩
  · intro now
    have later : now.Idle := course_idle network idle _
    obtain ⟨batches, sent, causes⟩ := meet_sends network later o e.lease.target
    refine ⟨batches, sent, fun b member installs => ?_⟩
    have cause := causes b member installs
    cases o with
    | event f => exact cause
    | probe => exact course_store network s _ ▸ cause

end Service

/-! ## A prefix that is given back -/

namespace Sample

open Http

/-- A switch that tells its uptime and, whatever else it is asked, that it has no neighbors. -/
def lonely : Network Unit where
  exchange _ r :=
    let uptime := Json.obj [("kern_uptm_days", .num (.whole 0)), ("kern_uptm_hrs", .num (.whole 0)),
      ("kern_uptm_mins", .num (.whole 2)), ("kern_uptm_secs", .num (.whole 40))]
    let body := if r.body = some (Rpc.Batch.single "show version").wire then uptime
      else .obj [("TABLE_vrf", .obj [("ROW_vrf", .arr [])])]
    let result := Json.obj [("id", .num (.whole 1)), ("result", .obj [("body", body)])]
    (.ok ⟨200, none, .ok (Text.utf8 result.text.toList)⟩, ())

/-- A service that runs and has met nothing yet. -/
def started (leases : List Lease) : Service Unit where
  client := ⟨⟨false, "", "", "switch", none, "/", none, none⟩, none, ⟨1, true⟩⟩
  store := .ofList leases
  watch := .fresh ()

end Sample

namespace Service

open Sample

/-- The snapshot knows the prefix as one that was reclaimed, and a resync passes it over. -/
theorem removed_stays_withdrawn_reclaimed :
    let s := started [host, { net with state := .reclaimed }]
    let now := s.course lonely [.event (.release net)]
    s.Idle ∧ now.transition lonely = some .discontinuity ∧
      ∃ batches, (now.meet lonely .probe).sent = now.sent ++ batches ∧
        ∀ b ∈ batches, ¬b.Installs net.target.text := by
  intro s now
  have idle : s.Idle := rfl
  have absent : ∀ l ∈ s.store.toList, l.isActive = true → l.target.text ≠ net.target.text := by
    decide +kernel
  obtain ⟨-, later⟩ := removed_stays_withdrawn lonely idle (e := .release net) nofun
  obtain ⟨batches, sent, causes⟩ := later [] .probe
  refine ⟨idle, by decide +kernel, batches, sent, fun b member installs => ?_⟩
  obtain ⟨-, -, -, l, known, -, -, active, same⟩ := causes b member installs
  exact absent l known active same

/-- The route of the prefix is withdrawn when the prefix is given back. The snapshot still has the
prefix as an active lease, and the resync of the next probe installs its route again. -/
theorem resync_undoes_release :
    ¬∀ (σ : Type) (network : Http.Network σ) (s : Service σ) (e : LeaseEvent)
      (between : List Occurrence) (o : Occurrence), s.Idle → e.hook ≠ .select →
      e.lease.association ≠ .ta →
      (∀ f, .event f ∈ between ++ [o] → f.hook ≠ .select) →
      let now := s.course network (.event e :: between)
      ∃ batches, (now.meet network o).sent = now.sent ++ batches ∧
        ∀ b ∈ batches, ¬b.Installs e.lease.target.text := by
  intro claim
  obtain ⟨batches, sent, withdrawn⟩ := claim Unit lonely (started [host, net]) (.release net) []
    .probe rfl nofun nofun (by simp)
  have before : ((started [host, net]).course lonely [.event (.release net)]).sent =
      [.single "no ipv6 route 2001:db8:1::/56 2001:db8::10"] := by
    decide +kernel
  have after : (((started [host, net]).course lonely [.event (.release net)]).meet lonely
      .probe).sent = [.single "no ipv6 route 2001:db8:1::/56 2001:db8::10",
        .single "show version", .single "show ipv6 neighbor",
        .single "ipv6 route 2001:db8:1::/56 2001:db8::10"] := by
    decide +kernel
  rw [before, after, List.singleton_append] at sent
  have again : Rpc.Batch.single "ipv6 route 2001:db8:1::/56 2001:db8::10" ∈ batches := by
    rw [← (List.cons.inj sent).2]
    exact List.mem_cons_of_mem _ (List.mem_cons_of_mem _ (List.mem_singleton_self _))
  refine withdrawn _ again ⟨_, List.mem_singleton_self _, "2001:db8::10", ?_⟩
  decide +kernel

end Service

end LeaseRoutes
