import LeaseRoutes.Proofs.Exporter.Course

namespace LeaseRoutes

/-- A command of the batch installs a route to the destination, wherever it leads. -/
def Rpc.Batch.Installs (destination : String) (b : Batch) : Prop :=
  ∃ command ∈ b.commands, ∃ via, command.text = "ipv6 route " ++ destination ++ " " ++ via

namespace Switch

/-! ## First letters of commands -/

theorem head?_append {s : String} {c : Char} (h : s.toList.head? = some c) (t : String) :
    (s ++ t).toList.head? = some c := by
  simp [h]

theorem head?_showRoute (d : Destination) : (showRoute d).toList.head? = some 's' :=
  head?_append (by decide) _

theorem head?_installRoute (destination via : String) :
    (installRoute destination via).toList.head? = some 'i' :=
  head?_append (head?_append (head?_append (by decide) _) _) _

theorem head?_withdrawRoute (destination via : String) :
    (withdrawRoute destination via).toList.head? = some 'n' :=
  head?_append (head?_append (head?_append (by decide) _) _) _

theorem head?_clearNeighbor (interface : String) :
    (clearNeighbor interface).toList.head? = some 'c' :=
  head?_append (head?_append (by decide) _) _

/-! ## Commands that install nothing -/

theorem not_installs {b : Rpc.Batch} (destination : String)
    (h : ∀ command ∈ b.commands, command.text.toList.head? ≠ some 'i') :
    ¬b.Installs destination := by
  rintro ⟨command, member, via, text⟩
  refine h command member ?_
  rw [text]
  exact head?_installRoute destination via

theorem not_installs_single {command : String} (destination : String)
    (h : command.toList.head? ≠ some 'i') : ¬(Rpc.Batch.single command).Installs destination := by
  refine not_installs destination fun c member => ?_
  rw [List.mem_singleton.1 member]
  exact h

theorem not_installs_lookup (l : Lookup) (destination : String) :
    ¬(Rpc.Batch.single l.command).Installs destination := by
  have shown : l.command.toList.head? = some 's' := head?_showRoute l.destination
  refine not_installs_single destination ?_
  rw [shown]
  decide

theorem not_installs_removal {c : Change} (h : c.direction = .remove) (destination : String) :
    ¬c.batch.Installs destination := by
  have withdrawn : (withdrawRoute c.destination c.via).toList.head? ≠ some 'i' := by
    rw [head?_withdrawRoute]
    decide
  have cleared (interface : String) : (clearNeighbor interface).toList.head? ≠ some 'i' := by
    rw [head?_clearNeighbor]
    decide
  refine not_installs destination fun command member => ?_
  cases flush : c.flush with
  | none =>
    simp only [Change.batch, h, flush, Rpc.Batch.single, List.mem_singleton] at member
    rw [member]
    exact withdrawn
  | some interface =>
    simp only [Change.batch, h, flush, List.mem_cons, List.not_mem_nil, or_false] at member
    rcases member with rfl | rfl
    · exact withdrawn
    · exact cleared interface

/-! ## Destinations -/

/-- The destination can be read off a command. -/
theorem destination_of_installRoute {t u : Destination} {v w : String}
    (h : installRoute t.text v = installRoute u.text w) : t.text = u.text := by
  -- Eleven characters come before the destination.
  have cut (d : Destination) (via : String) :
      ((installRoute d.text via).toList.drop 11).takeWhile (· ≠ ' ') = d.text.toList := by
    have named : ∀ c ∈ d.text.toList, decide (c ≠ ' ') = true := by
      intro c member
      refine decide_eq_true ?_
      rintro rfl
      exact d.space_notMem_text member
    have text : (installRoute d.text via).toList.drop 11 =
        d.text.toList ++ ' ' :: via.toList := by
      simp [installRoute]
    rw [text, List.takeWhile_append_of_pos named]
    simp
  refine String.toList_inj.1 ?_
  rw [← cut t v, ← cut u w, h]

theorem change_of_installs {c : Change} {t u : Destination} (named : c.destination = u.text)
    (h : c.batch.Installs t.text) : c.direction = .apply ∧ u.text = t.text := by
  cases direction : c.direction with
  | remove => exact absurd h (not_installs_removal direction _)
  | apply =>
    obtain ⟨command, member, via, text⟩ := h
    simp only [Change.batch, direction, Rpc.Batch.single, List.mem_singleton] at member
    refine ⟨rfl, destination_of_installRoute (v := c.via) (w := via) ?_⟩
    exact named ▸ (congrArg Rpc.Command.text member).symm.trans text

namespace Stage

theorem change_of_mem_batches {answer : Rpc.Batch → Reply} {l : Lookup} {d : Direction}
    {b : Rpc.Batch} (h : b ∈ (lookup l d).batches answer) :
    b = .single l.command ∨ ∃ via, b = (l.change d via).batch := by
  rcases List.mem_cons.1 h with shown | changed
  · exact .inl shown
  · exact .inr (finds_of_request_next (Option.mem_toList.1 changed))

/-- What is sent for a lookup installs at most the route that was looked up for. -/
theorem lookup_installs {answer : Rpc.Batch → Reply} {l : Lookup} {d : Direction} {b : Rpc.Batch}
    {t u : Destination} (member : b ∈ (lookup l d).batches answer)
    (direction : ∀ via, (l.change d via).direction = d)
    (named : ∀ via, (l.change d via).destination = u.text) (h : b.Installs t.text) :
    d = .apply ∧ u.text = t.text := by
  rcases change_of_mem_batches member with rfl | ⟨via, rfl⟩
  · exact absurd h (not_installs_lookup l _)
  · obtain ⟨applied, same⟩ := change_of_installs (named via) h
    exact ⟨(direction via).symm.trans applied, same⟩

theorem change_installs {answer : Rpc.Batch → Reply} {c : Change} {b : Rpc.Batch}
    {t u : Destination} (member : b ∈ (change c).batches answer) (named : c.destination = u.text)
    (h : b.Installs t.text) : c.direction = .apply ∧ u.text = t.text := by
  obtain rfl : b = c.batch := by simpa [batches, request] using member
  exact change_of_installs named h

/-- An operation installs routes to its destination alone, and none if it is a removal. -/
theorem target_of_installs {store : LeaseStore} {i : Intent} {d : Direction}
    {answer : Rpc.Batch → Reply} {b : Rpc.Batch} {t : Destination}
    (member : b ∈ (plan store i d).batches answer) (h : b.Installs t.text) :
    d = .apply ∧ i.payload.destination.text = t.text := by
  cases payload : i.payload with
  | naApply link leased =>
    rw [plan_naApply store d payload] at member
    exact lookup_installs member (fun _ => rfl) (fun _ => rfl) h
  | naApplyTo interface leased =>
    rw [plan_naApplyTo store d payload] at member
    exact change_installs member rfl h
  | pdApply hop target =>
    rw [plan_pdApply store d payload] at member
    exact change_installs member rfl h
  | naRemove leased =>
    cases d with
    | apply =>
      rw [plan_unsupported store (.inl ⟨leased, payload⟩)] at member
      cases member
    | remove =>
      rw [plan_naRemove store payload] at member
      exact lookup_installs member (fun _ => rfl) (fun _ => rfl) h
  | pdRemove target =>
    cases d with
    | apply =>
      rw [plan_unsupported store (.inr ⟨target, payload⟩)] at member
      cases member
    | remove =>
      cases sibling : store.toList.find? (LeaseStore.isSibling i.duid i.iaid) with
      | some l =>
        rw [plan_pdRemove_of_sibling store payload sibling] at member
        exact change_installs member rfl h
      | none =>
        rw [plan_pdRemove_of_no_sibling store payload sibling] at member
        exact lookup_installs member (fun _ => rfl) (fun _ => rfl) h

end Stage

end Switch

end LeaseRoutes
