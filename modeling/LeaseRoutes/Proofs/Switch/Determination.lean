import LeaseRoutes.Proofs.Exporter.BlankTarget
import LeaseRoutes.Proofs.Net.Address
import LeaseRoutes.Proofs.Text.Numeral

namespace LeaseRoutes

/-! ## Destinations -/

theorem Text.digits_injective : Function.Injective Text.digits := by
  intro m n same
  have value (k : Nat) : Nat.ofDigitChars 10 (Text.digits k) 0 = k := Text.ofDigitChars_padded 0 k
  rw [← value m, same, value n]

theorem Address.text_injective : Function.Injective Address.text := by
  intro a b same
  have back := congrArg ofText? same
  rwa [ofText?_text, ofText?_text, Option.some.injEq] at back

namespace Destination

/-- A slash stands between address and length, and nowhere else. -/
theorem pieces_text (t : Destination) :
    Text.pieces '/' t.text.toList = [t.address.text.toList, Text.digits t.length.toNat] := by
  have address : '/' ∉ t.address.text.toList :=
    t.address.notMem_text (by decide) (by decide) (by decide)
  have length : '/' ∉ Text.digits t.length.toNat := Text.notMem_digits rfl _
  have text : t.text.toList = t.address.text.toList ++ '/' :: Text.digits t.length.toNat := by
    simp [Destination.text, Text.decimal]
  rw [text, Text.pieces_append_cons address, Text.pieces_of_notMem length]

theorem text_injective : Function.Injective text := by
  intro t u same
  have cut := congrArg (fun s => Text.pieces '/' s.toList) same
  simp only [pieces_text, List.cons.injEq, and_true] at cut
  obtain ⟨address, length⟩ := cut
  have addresses := Address.text_injective (String.toList_inj.1 address)
  have lengths := UInt8.toNat_inj.1 (Text.digits_injective length)
  cases t
  cases u
  simp_all

end Destination

namespace Switch

/-! ## Commands about a route -/

/-- The command that installs or withdraws a route. -/
def routeText (d : Direction) (t : Destination) (via : String) : String :=
  match d with
  | .apply => installRoute t.text via
  | .remove => withdrawRoute t.text via

theorem route_of_install {t u : Destination} {v w : String}
    (h : installRoute t.text v = installRoute u.text w) : t = u ∧ v = w :=
  ⟨Destination.text_injective (destination_of_installRoute h), installRoute_inj h⟩

theorem routeText_inj {d e : Direction} {t u : Destination} {v w : String}
    (h : routeText d t v = routeText e u w) : d = e ∧ t = u ∧ v = w := by
  cases d with
  | apply =>
    cases e with
    | apply => exact ⟨rfl, route_of_install h⟩
    | remove => exact absurd h (installRoute_ne_withdrawRoute _ _ _ _)
  | remove =>
    cases e with
    | apply => exact absurd h.symm (installRoute_ne_withdrawRoute _ _ _ _)
    | remove =>
      simp only [routeText, withdrawRoute_eq] at h
      exact ⟨rfl, route_of_install ((String.append_right_inj _).1 h)⟩

theorem head?_routeText (d : Direction) (t : Destination) (via : String) :
    (routeText d t via).toList.head? = some (match d with | .apply => 'i' | .remove => 'n') := by
  cases d with
  | apply => exact head?_installRoute _ _
  | remove => exact head?_withdrawRoute _ _

theorem routeText_ne_clearNeighbor (d : Direction) (t : Destination) (via interface : String) :
    routeText d t via ≠ clearNeighbor interface := by
  intro h
  have first := congrArg (fun s => s.toList.head?) h
  simp only [head?_routeText, head?_clearNeighbor] at first
  cases d <;> simp at first

/-- A command that takes back another is the withdrawal of the route that the other installs. -/
theorem routeText_eq_no {d e : Direction} {t u : Destination} {v w : String}
    (h : routeText e u w = "no " ++ routeText d t v) :
    d = .apply ∧ e = .remove ∧ t = u ∧ v = w := by
  cases e with
  | apply =>
    have first := congrArg (fun s => s.toList.head?) h
    simp [head?_routeText] at first
  | remove =>
    have rest : routeText .apply u w = routeText d t v := by
      simp only [routeText, withdrawRoute_eq] at h
      exact (String.append_right_inj _).1 h
    obtain ⟨rfl, rfl, rfl⟩ := routeText_inj rest
    exact ⟨rfl, rfl, rfl, rfl⟩

namespace Change

/-! ## Batches -/

/-- The change is the one that is built to install or withdraw the route to a destination via an
interface, for an address lease, or via a next hop, for a delegated prefix. -/
inductive About : Change → Direction → Destination → String → Prop
  | na (d : Direction) (leased : Address) (interface : String) :
      About (.na d leased interface) d (.host leased) interface
  | pd (d : Direction) (target : Destination) (hop : String) :
      About (.pd d target hop) d target hop

variable {b c : Change} {d e : Direction} {t u : Destination} {v w : String}

theorem About.head (h : b.About d t v) :
    (b.batch.commands.map Rpc.Command.text).head? = some (routeText d t v) := by
  cases h <;> cases d <;> rfl

/-- All that a batch does besides is to forget the neighbors of an interface. -/
theorem About.command (h : b.About d t v) {x : Rpc.Command} (member : x ∈ b.batch.commands) :
    x.text = routeText d t v ∨ ∃ interface, x.text = clearNeighbor interface := by
  cases h with
  | na d leased interface =>
    cases d with
    | apply => exact .inl (congrArg Rpc.Command.text (List.mem_singleton.1 member))
    | remove =>
      rcases List.mem_cons.1 member with rfl | later
      · exact .inl rfl
      · exact .inr ⟨_, congrArg Rpc.Command.text (List.mem_singleton.1 later)⟩
  | pd d target hop =>
    cases d <;> exact .inl (congrArg Rpc.Command.text (List.mem_singleton.1 member))

/-- Batches with the same texts make the same change: in the same direction, to the same address
and length, via the same interface or next hop. No destination is written like another, and a host
route is written like a network route only if it is the same. Two batches have a command about a
route in common only if it is the same change, and one takes back a command of the other only if
it withdraws the very route that the other installs. -/
theorem change_of_texts (first : b.About d t v) (second : c.About e u w) :
    (b.batch.commands.map Rpc.Command.text = c.batch.commands.map Rpc.Command.text →
      d = e ∧ t.address = u.address ∧ t.length = u.length ∧ v = w) ∧
    (t.text = u.text ↔ t.address = u.address ∧ t.length = u.length) ∧
    (∀ a : Address, (Destination.host a).text = u.text ↔ a = u.address ∧ u.length = 128) ∧
    (∀ x ∈ b.batch.commands, ∀ y ∈ c.batch.commands, x.text = y.text →
      (d = e ∧ t = u ∧ v = w) ∨ ∃ interface, x.text = clearNeighbor interface) ∧
    ∀ x ∈ b.batch.commands, ∀ y ∈ c.batch.commands, y.text = "no " ++ x.text →
      d = .apply ∧ e = .remove ∧ t = u ∧ v = w := by
  have same (t u : Destination) : t.text = u.text ↔ t.address = u.address ∧ t.length = u.length := by
    rw [Destination.text_injective.eq_iff, Destination.mk.injEq]
  refine ⟨fun texts => ?_, same t u, fun a => ?_, fun x inFirst y inSecond shared => ?_,
    fun x inFirst y inSecond undone => ?_⟩
  · have heads := first.head.symm.trans (texts ▸ second.head)
    obtain ⟨rfl, rfl, rfl⟩ := routeText_inj (Option.some.inj heads)
    exact ⟨rfl, rfl, rfl, rfl⟩
  · rw [same]
    exact and_congr_right fun _ => eq_comm
  · rcases first.command inFirst with route | cleared
    · rcases second.command inSecond with other | ⟨interface, cleared⟩
      · exact .inl (routeText_inj (route.symm.trans (shared.trans other)))
      · exact .inr ⟨interface, shared.trans cleared⟩
    · exact .inr cleared
  · rcases second.command inSecond with route | ⟨interface, cleared⟩
    · rcases first.command inFirst with other | ⟨interface, cleared⟩
      · exact routeText_eq_no (by rw [← route, ← other, undone])
      · have crossed : routeText e u w = "no " ++ clearNeighbor interface := by
          rw [← route, ← cleared, undone]
        cases e with
        | apply =>
          have letters := congrArg (fun s => s.toList.head?) crossed
          simp [head?_routeText] at letters
        | remove =>
          simp only [routeText, withdrawRoute_eq] at crossed
          exact absurd ((String.append_right_inj _).1 crossed)
            (routeText_ne_clearNeighbor .apply u w interface)
    · have letters := congrArg (fun s => s.toList.head?) (cleared.symm.trans undone)
      simp [head?_clearNeighbor] at letters

/-- A shorter prefix whose next hop goes on with the missing digit and a space is written otherwise,
and so is the route to an address that maps an IPv4 address. -/
theorem change_of_texts_spaces :
    let mapped : Address := ⟨[0, 0, 0, 0, 0, 0xffff, 0xc000, 0x0201], rfl⟩
    let b := Change.na .apply mapped "Vlan5"
    let c := Change.pd .apply ⟨mapped, 12⟩ "8 Vlan5"
    b.About .apply ⟨mapped, 128⟩ "Vlan5" ∧ c.About .apply ⟨mapped, 12⟩ "8 Vlan5" ∧
      b.batch = .single "ipv6 route ::ffff:192.0.2.1/128 Vlan5" ∧
      b.batch.commands.map Rpc.Command.text ≠ c.batch.commands.map Rpc.Command.text := by
  intro mapped b c
  have first : b.About .apply ⟨mapped, 128⟩ "Vlan5" := .na .apply mapped "Vlan5"
  have second : c.About .apply ⟨mapped, 12⟩ "8 Vlan5" := .pd .apply ⟨mapped, 12⟩ "8 Vlan5"
  refine ⟨first, second, by decide +kernel, fun texts => ?_⟩
  obtain ⟨-, -, length, -⟩ := (change_of_texts first second).1 texts
  exact absurd length (by decide)

end Change

end Switch

end LeaseRoutes
