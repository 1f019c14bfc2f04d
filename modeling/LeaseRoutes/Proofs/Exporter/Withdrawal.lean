import LeaseRoutes.Proofs.Exporter.Course

namespace LeaseRoutes

open Switch

/-- The reply tells of one route to an address, with one path, which leads to an interface. -/
def Switch.Reports (r : Reply) (a : Address) (interface : String) : Prop :=
  ∃ response vrf family attached hop, r.lookup = .ok response ∧
    RouteTable.output.parse response.result = .ok
      ⟨[⟨vrf, [⟨family, [⟨(Destination.host a).text, attached, [⟨hop, some interface⟩]⟩]⟩]⟩]⟩

namespace Switch.Stage

/-- What a removal makes of the report: the removal of the route if the interface is a VLAN
interface, and a failure if it is not. -/
theorem next_of_reports {r : Reply} {a : Address} {interface : String}
    (h : Reports r a interface) :
    (lookup (.leasedInterface a) .remove).next r =
      if isVlan interface then .change (.na .remove a interface)
      else .failed (.output (.missing "vlan interface id")) := by
  obtain ⟨response, vrf, family, attached, hop, accepted, parsed⟩ := h
  rw [next_of_parsed accepted parsed]
  cases vlan : isVlan interface <;>
    simp [resolve, RouteTable.firstInterface, RouteTable.singleRoute, RouteTable.only, bind,
      Except.bind, vlan]

end Switch.Stage

namespace Exporter

variable {σ : Type} (channel : Channel σ) (store : LeaseStore)

/-- A run that begins with a lookup sends it, and then what follows from the reply. -/
theorem run_lookup (x : Exporter σ) {i : Intent} {d e : Direction} {l : Lookup}
    (planned : Stage.plan store i d = .lookup l e) :
    let next := (Stage.lookup l e).next (channel.exchange x.switch (.single l.command)).1
    (x.run channel store i d).2.sent = x.sent ++ .single l.command :: next.request.toList ∧
      (next.terminal = true → (x.run channel store i d).1 = next) := by
  intro next
  refine ⟨by rw [run_sent, planned]; rfl, fun last => ?_⟩
  have stepped : ((x.plan store i d).2.step channel (.lookup l e)).1 = next := rfl
  change ((x.plan store i d).2.settle channel (Stage.plan store i d)).1 = next
  rw [planned, settle_step, stepped, settle_of_terminal channel _ last]

/-- What installs the route to an address leads it to some interface. Whenever the switch reports
that route, its removal withdraws it exactly if that is a VLAN interface; if it is not, the
removal fails and nothing is sent but its lookup. -/
theorem withdrawal_of_installed (x : Exporter σ) {i : Intent} {link leased : Address}
    {shown installed : Rpc.Batch} (wanted : i.payload = .naApply link leased)
    (sent : (x.run channel store i .apply).2.sent = x.sent ++ [shown, installed]) :
    ∃ interface, installed = .single ("ipv6 route " ++ leased.text ++ "/128 " ++ interface) ∧
      ∀ (y : Exporter σ) (j : Intent), j.payload = .naRemove leased →
        let look := Rpc.Batch.single ("show ipv6 route " ++ leased.text ++ "/128")
        let run := y.run channel store j .remove
        Reports (channel.exchange y.switch look).1 leased interface →
        if isVlan interface then
          run.2.sent = y.sent ++ [look,
            ⟨[⟨1, "no ipv6 route " ++ leased.text ++ "/128 " ++ interface⟩,
              ⟨2, "clear ipv6 neighbor " ++ interface ++ " force-delete"⟩]⟩]
        else run.2.sent = y.sent ++ [look] ∧
          run.1 = .failed (.output (.missing "vlan interface id")) := by
  obtain ⟨batches, -⟩ := run_lookup channel store x (Stage.plan_naApply store .apply wanted)
  rw [sent] at batches
  have change := (List.cons.inj (List.append_cancel_left batches)).2
  obtain ⟨interface, rfl⟩ := Stage.finds_of_request_next (Option.toList_eq_singleton_iff.1 change.symm)
  refine ⟨interface, Change.batch_na_apply leased interface, ?_⟩
  intro y j removed look run reports
  obtain ⟨sent, stage⟩ := run_lookup channel store y (Stage.plan_naRemove store removed)
  have shown : look = .single (Lookup.leasedInterface leased).command := by
    change Rpc.Batch.single _ = .single ("show ipv6 route " ++ (Destination.host leased).text)
    rw [Destination.text_host, ← String.append_assoc]
  rw [← shown, Stage.next_of_reports reports] at sent stage
  cases vlan : isVlan interface with
  | true =>
    simp only [vlan, ↓reduceIte] at sent ⊢
    rw [sent, ← Change.batch_na_remove]
    rfl
  | false =>
    simp only [vlan, Bool.false_eq_true, ↓reduceIte] at sent stage ⊢
    exact ⟨sent, stage rfl⟩

end Exporter

/-! ## Routes to two kinds of interfaces -/

namespace Sample

theorem reports_routed (a : Address) (interface : String) :
    Reports (routed a interface) a interface :=
  ⟨_, _, _, _, _, rfl, rfl⟩

theorem reports_behind (interface : String) :
    Reports ((behind interface).exchange ()
      (.single ("show ipv6 route " ++ client.text ++ "/128"))).1 client interface := by
  have shown : "show ipv6 route " ++ client.text ++ "/128" = "show ipv6 route 2001:db8::20/128" := by
    decide +kernel
  simp only [behind, Channel.answering, shown, ↓reduceIte]
  exact reports_routed client interface

end Sample

namespace Exporter

open Sample

theorem withdrawal_of_installed_vlan :
    ((fresh ()).run (behind "Vlan5") (.ofList []) arrival .apply).2.sent =
      [.single "show ipv6 route 2001:db8::1/128",
        .single "ipv6 route 2001:db8::20/128 Vlan5"] ∧
    ((fresh ()).run (behind "Vlan5") (.ofList []) departure .remove).2.sent =
      [.single "show ipv6 route 2001:db8::20/128",
        ⟨[⟨1, "no ipv6 route 2001:db8::20/128 Vlan5"⟩,
          ⟨2, "clear ipv6 neighbor Vlan5 force-delete"⟩]⟩] := by
  have sent : ((fresh ()).run (behind "Vlan5") (.ofList []) arrival .apply).2.sent =
      [.single "show ipv6 route 2001:db8::1/128",
        .single "ipv6 route 2001:db8::20/128 Vlan5"] := by
    rw [run_sent]
    decide +kernel
  refine ⟨sent, ?_⟩
  obtain ⟨interface, installed, withdrawn⟩ :=
    withdrawal_of_installed (behind "Vlan5") (.ofList []) (fresh ()) rfl sent
  have text : "ipv6 route 2001:db8::20/128 Vlan5" =
      "ipv6 route " ++ client.text ++ "/128 " ++ "Vlan5" := by decide +kernel
  rw [text] at installed
  obtain rfl : "Vlan5" = interface := (String.append_right_inj _).1 (Rpc.Batch.single_inj.1 installed)
  have done := withdrawn (fresh ()) departure rfl (reports_behind "Vlan5")
  rw [if_pos (by decide)] at done
  rw [done]
  decide +kernel

/-- A route to a physical interface is installed and stays. -/
theorem physical_interface_stays :
    ¬∀ (σ : Type) (channel : Channel σ) (store : LeaseStore) (x y : Exporter σ) (i j : Intent)
      (link leased : Address) (interface : String), i.payload = .naApply link leased →
      (x.run channel store i .apply).2.sent =
        x.sent ++ [.single ("show ipv6 route " ++ link.text ++ "/128"),
          .single ("ipv6 route " ++ leased.text ++ "/128 " ++ interface)] →
      j.payload = .naRemove leased →
      Reports (channel.exchange y.switch
        (.single ("show ipv6 route " ++ leased.text ++ "/128"))).1 leased interface →
      (y.run channel store j .remove).2.sent =
        y.sent ++ [.single ("show ipv6 route " ++ leased.text ++ "/128"),
          ⟨[⟨1, "no ipv6 route " ++ leased.text ++ "/128 " ++ interface⟩,
            ⟨2, "clear ipv6 neighbor " ++ interface ++ " force-delete"⟩]⟩] := by
  intro claim
  have sent := claim Unit (behind "Ethernet1/1") (.ofList []) (fresh ()) (fresh ()) arrival departure
    gateway client "Ethernet1/1" rfl (by rw [run_sent]; decide +kernel) rfl
    (reports_behind "Ethernet1/1")
  rw [run_sent] at sent
  exact absurd sent (by decide +kernel)

end Exporter

end LeaseRoutes
