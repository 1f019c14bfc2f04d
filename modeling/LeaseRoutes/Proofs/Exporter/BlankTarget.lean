import LeaseRoutes.Proofs.Exporter.Withdrawal
import LeaseRoutes.Proofs.Switch.Installation
import LeaseRoutes.Proofs.Switch.Survey

namespace LeaseRoutes

theorem Address.colon_mem_text (a : Address) : ':' ∈ a.text.toList := by
  rw [text, String.toList_ofList]
  unfold chars
  split
  · simp
  · unfold compressed groupTexts
    split
    split
    · simp
    · refine Text.mem_join ?_
      rw [List.length_map, a.eight]
      decide

theorem Address.not_blank_text (a : Address) : ¬Text.Blank a.text := by
  intro blank
  exact absurd (Text.blank_iff.1 blank ':' a.colon_mem_text) (by decide)

/-- The command installs or withdraws a route that leads to nothing but white space. -/
def Rpc.Command.Untargeted (c : Rpc.Command) : Prop :=
  ∃ (t : Destination) (via : String), Text.Blank via ∧
    (c.text = Switch.installRoute t.text via ∨ c.text = Switch.withdrawRoute t.text via)

namespace Switch

/-! ## Commands -/

/-- Destination and target can be read off a command. -/
theorem installRoute_inj {t u : Destination} {v w : String}
    (h : installRoute t.text v = installRoute u.text w) : v = w := by
  have same := destination_of_installRoute h
  unfold installRoute at h
  rw [same] at h
  exact (String.append_right_inj _).1 h

theorem withdrawRoute_inj {t u : Destination} {v w : String}
    (h : withdrawRoute t.text v = withdrawRoute u.text w) : v = w := by
  rw [withdrawRoute_eq, withdrawRoute_eq] at h
  exact installRoute_inj ((String.append_right_inj _).1 h)

theorem installRoute_ne_withdrawRoute (d v e w : String) :
    installRoute d v ≠ withdrawRoute e w := by
  intro h
  have first := congrArg (fun s => s.toList.head?) h
  simp [head?_installRoute, head?_withdrawRoute] at first

theorem untargeted_installRoute_iff {id : Int64} {t : Destination} {via : String} :
    Rpc.Command.Untargeted ⟨id, installRoute t.text via⟩ ↔ Text.Blank via := by
  constructor
  · rintro ⟨u, other, blank, same | crossed⟩
    · exact installRoute_inj same ▸ blank
    · exact absurd crossed (installRoute_ne_withdrawRoute _ _ _ _)
  · intro blank
    exact ⟨t, via, blank, .inl rfl⟩

theorem untargeted_withdrawRoute_iff {id : Int64} {t : Destination} {via : String} :
    Rpc.Command.Untargeted ⟨id, withdrawRoute t.text via⟩ ↔ Text.Blank via := by
  constructor
  · rintro ⟨u, other, blank, crossed | same⟩
    · exact absurd crossed.symm (installRoute_ne_withdrawRoute _ _ _ _)
    · exact withdrawRoute_inj same ▸ blank
  · intro blank
    exact ⟨t, via, blank, .inr rfl⟩

/-- Commands about routes begin with one of two letters. -/
theorem head?_of_untargeted {c : Rpc.Command} (h : c.Untargeted) :
    c.text.toList.head? = some 'i' ∨ c.text.toList.head? = some 'n' := by
  obtain ⟨t, via, -, installs | withdraws⟩ := h
  · exact .inl (installs ▸ head?_installRoute t.text via)
  · exact .inr (withdraws ▸ head?_withdrawRoute t.text via)

theorem not_untargeted_showRoute {id : Int64} (d : Destination) :
    ¬Rpc.Command.Untargeted ⟨id, showRoute d⟩ := by
  intro h
  have first := head?_of_untargeted h
  rw [head?_showRoute] at first
  exact absurd first (by decide)

theorem not_untargeted_clearNeighbor {id : Int64} (interface : String) :
    ¬Rpc.Command.Untargeted ⟨id, clearNeighbor interface⟩ := by
  intro h
  have first := head?_of_untargeted h
  rw [head?_clearNeighbor] at first
  exact absurd first (by decide)

/-! ## Batches -/

/-- Some command of the batches installs or withdraws a route that leads nowhere. -/
def Untargeted (batches : List Rpc.Batch) : Prop :=
  ∃ b ∈ batches, ∃ c ∈ b.commands, c.Untargeted

theorem untargeted_append_iff {first rest : List Rpc.Batch} :
    Untargeted (first ++ rest) ↔ Untargeted first ∨ Untargeted rest := by
  simp only [Untargeted, List.mem_append, or_and_right, exists_or]

theorem not_untargeted_lookup (l : Lookup) : ¬Untargeted [.single l.command] := by
  rintro ⟨b, member, c, command, untargeted⟩
  obtain rfl := List.mem_singleton.1 member
  obtain rfl := List.mem_singleton.1 command
  exact not_untargeted_showRoute l.destination untargeted

/-- A change leads nowhere just if its target is blank, whatever else it sends. -/
theorem untargeted_change_iff {c : Change} {t : Destination} (named : c.destination = t.text) :
    Untargeted [c.batch] ↔ Text.Blank c.via := by
  constructor
  · rintro ⟨b, member, k, command, untargeted⟩
    obtain rfl := List.mem_singleton.1 member
    unfold Change.batch at command
    rw [named] at command
    split at command
    · obtain rfl := List.mem_singleton.1 command
      exact untargeted_installRoute_iff.1 untargeted
    · obtain rfl := List.mem_singleton.1 command
      exact untargeted_withdrawRoute_iff.1 untargeted
    · simp only [List.mem_cons, List.not_mem_nil, or_false] at command
      rcases command with rfl | rfl
      · exact untargeted_withdrawRoute_iff.1 untargeted
      · exact absurd untargeted (not_untargeted_clearNeighbor _)
  · intro blank
    refine ⟨c.batch, List.mem_singleton_self _, ?_⟩
    unfold Change.batch
    rw [named]
    split
    · exact ⟨_, List.mem_singleton_self _, untargeted_installRoute_iff.2 blank⟩
    · exact ⟨_, List.mem_singleton_self _, untargeted_withdrawRoute_iff.2 blank⟩
    · exact ⟨_, List.mem_cons_self, untargeted_withdrawRoute_iff.2 blank⟩

/-! ## Lookups -/

namespace Lookup

theorem destination_change (l : Lookup) (d : Direction) (via : String) :
    ∃ t : Destination, (l.change d via).destination = t.text := by
  cases l <;> exact ⟨_, rfl⟩

theorem via_change (l : Lookup) (d : Direction) (via : String) : (l.change d via).via = via := by
  cases l <;> rfl

/-- The interface of a leased address is found only if it is a VLAN interface. -/
theorem isVlan_of_finds {leased : Address} {r : Reply} {via : String}
    (h : (leasedInterface leased).Finds r via) : isVlan via = true := by
  obtain ⟨_, table, -, -, found⟩ := h
  simp only [found?, RouteTable.firstInterface] at found
  cases route : table.singleRoute with
  | error e => simp [route, bind, Except.bind, Except.toOption] at found
  | ok route' =>
    simp only [route, bind, Except.bind] at found
    cases first : (route'.paths.filterMap Path.interface).find? isVlan with
    | none => simp [first, Except.toOption] at found
    | some name =>
      simp only [first, Except.toOption, Option.some.injEq] at found
      exact found ▸ List.find?_some first

/-- The lookup takes what the reply tells without a look at it: the interface of a link, or the
next hop of a prefix whose lease has no sibling. -/
inductive Unchecked (store : LeaseStore) (i : Intent) : Direction → Lookup → Prop
  | link {link leased : Address} (d : Direction) : i.payload = .naApply link leased →
      Unchecked store i d (.linkInterface link leased)
  | hop {target : Destination} : i.payload = .pdRemove target →
      store.toList.find? (LeaseStore.isSibling i.duid i.iaid) = none →
      Unchecked store i .remove (.nextHop target)

theorem Unchecked.planned {store : LeaseStore} {i : Intent} {d : Direction} {l : Lookup}
    (h : l.Unchecked store i d) : Stage.plan store i d = .lookup l d := by
  cases h with
  | link d payload => exact Stage.plan_naApply store d payload
  | hop payload absent => exact Stage.plan_pdRemove_of_no_sibling store payload absent

end Lookup

namespace Stage

theorem untargeted_na_iff {answer : Rpc.Batch → Reply} {d : Direction} {leased : Address}
    {via : String} : Untargeted ((change (.na d leased via)).batches answer) ↔ Text.Blank via :=
  untargeted_change_iff (c := .na d leased via) (t := .host leased) rfl

theorem untargeted_pd_iff {answer : Rpc.Batch → Reply} {d : Direction} {target : Destination}
    {via : String} : Untargeted ((change (.pd d target via)).batches answer) ↔ Text.Blank via :=
  untargeted_change_iff (c := .pd d target via) (t := target) rfl

/-- What is sent for a lookup leads nowhere just if the lookup finds something blank. -/
theorem untargeted_lookup_iff {answer : Rpc.Batch → Reply} {l : Lookup} {d : Direction} :
    Untargeted ((lookup l d).batches answer) ↔
      ∃ via, l.Finds (answer (.single l.command)) via ∧ Text.Blank via := by
  have shown (rest : List Rpc.Batch) :
      Untargeted (.single l.command :: rest) ↔ Untargeted rest := by
    rw [← List.singleton_append, untargeted_append_iff]
    exact or_iff_right (not_untargeted_lookup l)
  have changed (via : String) : Untargeted [(l.change d via).batch] ↔ Text.Blank via := by
    obtain ⟨t, named⟩ := l.destination_change d via
    rw [untargeted_change_iff named, l.via_change]
  simp only [batches, shown]
  constructor
  · intro untargeted
    by_cases found : ∃ via, l.Finds (answer (.single l.command)) via
    · obtain ⟨via, found⟩ := found
      rw [request_next_of_finds found] at untargeted
      exact ⟨via, found, (changed via).1 untargeted⟩
    · rw [request_next_of_not_finds (not_exists.1 found)] at untargeted
      obtain ⟨b, member, -⟩ := untargeted
      cases member
  · rintro ⟨via, found, blank⟩
    rw [request_next_of_finds found]
    exact (changed via).2 blank

/-- Only an unchecked lookup can lead to a command without a target. -/
theorem unchecked_of_untargeted {answer : Rpc.Batch → Reply} {store : LeaseStore} {i : Intent}
    {d : Direction} (h : Untargeted ((plan store i d).batches answer)) :
    ∃ l : Lookup, l.Unchecked store i d := by
  cases payload : i.payload with
  | naApply link leased => exact ⟨_, .link d payload⟩
  | pdApply hop target =>
    rw [plan_pdApply store d payload] at h
    exact absurd (untargeted_pd_iff.1 h) hop.not_blank_text
  | naApplyTo interface leased =>
    rw [plan_naApplyTo store d payload] at h
    have blank : Text.Blank interface := untargeted_na_iff.1 h
    have valid := i.valid
    simp [payload, Payload.fault, blank] at valid
  | naRemove leased =>
    cases d with
    | apply =>
      rw [plan_unsupported store (.inl ⟨leased, payload⟩)] at h
      obtain ⟨b, member, -⟩ := h
      cases member
    | remove =>
      rw [plan_naRemove store payload] at h
      obtain ⟨via, found, blank⟩ := untargeted_lookup_iff.1 h
      exact absurd blank (not_blank_of_isVlan (Lookup.isVlan_of_finds found))
  | pdRemove target =>
    cases d with
    | apply =>
      rw [plan_unsupported store (.inr ⟨target, payload⟩)] at h
      obtain ⟨b, member, -⟩ := h
      cases member
    | remove =>
      cases sibling : store.toList.find? (LeaseStore.isSibling i.duid i.iaid) with
      | some l =>
        rw [plan_pdRemove_of_sibling store payload sibling] at h
        exact absurd (untargeted_pd_iff.1 h) l.address.not_blank_text
      | none => exact ⟨_, .hop payload sibling⟩

end Stage

end Switch

namespace Exporter

open Switch Sample

/-- A run sends a command about a route that leads nowhere exactly if the switch tells it a blank
interface of a link, or a blank next hop of a prefix without a sibling. -/
theorem run_untargeted_iff {σ : Type} (channel : Channel σ) (store : LeaseStore) (x : Exporter σ)
    (i : Intent) (d : Direction) :
    ∃ batches, (x.run channel store i d).2.sent = x.sent ++ batches ∧
      (Untargeted batches ↔ ∃ (l : Lookup) (via : String), l.Unchecked store i d ∧
        l.Finds (channel.exchange x.switch (.single l.command)).1 via ∧ Text.Blank via) := by
  refine ⟨_, run_sent channel store x i d, ?_⟩
  constructor
  · intro untargeted
    obtain ⟨l, unchecked⟩ := Stage.unchecked_of_untargeted untargeted
    rw [unchecked.planned] at untargeted
    obtain ⟨via, found, blank⟩ := Stage.untargeted_lookup_iff.1 untargeted
    exact ⟨l, via, unchecked, found, blank⟩
  · rintro ⟨l, via, unchecked, found, blank⟩
    rw [unchecked.planned]
    exact Stage.untargeted_lookup_iff.2 ⟨via, found, blank⟩

/-- A link whose interface has an empty name: the name is sent, where an intent with this name
would be refused. -/
theorem blank_interface_sent :
    ¬∀ (σ : Type) (channel : Channel σ) (store : LeaseStore) (x : Exporter σ) (i : Intent)
      (d : Direction) (batches : List Rpc.Batch),
      (x.run channel store i d).2.sent = x.sent ++ batches → ¬Untargeted batches := by
  intro claim
  let shown := Rpc.Batch.single "show ipv6 route 2001:db8::1/128"
  let nowhere := Rpc.Batch.single "ipv6 route 2001:db8::20/128 "
  have sent : ((fresh ()).run (behind "") (.ofList []) arrival .apply).2.sent =
      (fresh ()).sent ++ [shown, nowhere] := by
    rw [run_sent]
    decide +kernel
  have text : "ipv6 route 2001:db8::20/128 " = installRoute (Destination.host client).text "" := by
    decide +kernel
  have untargeted : Untargeted [shown, nowhere] :=
    ⟨nowhere, List.mem_cons_of_mem _ List.mem_cons_self, _, List.mem_cons_self,
      Destination.host client, "", by decide, .inl text⟩
  exact claim Unit (behind "") (.ofList []) (fresh ()) arrival .apply _ sent untargeted

end Exporter

end LeaseRoutes
