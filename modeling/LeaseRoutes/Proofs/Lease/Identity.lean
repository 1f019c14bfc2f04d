import LeaseRoutes.Proofs.Lease.RecordText
import LeaseRoutes.Resync

namespace LeaseRoutes

open Json Text

/-! ## Neighbors -/

namespace Mac

/-- The dotted form is the only one with dots. -/
theorem ofDotted?_of_separated {m : Mac} {s : String}
    (h : SpellsBytes ':' m.bytes s.toList ∨ SpellsBytes '-' m.bytes s.toList) :
    ofDotted? s = none := by
  have clean (g : List Char) (loose : Loose g) : '.' ∉ g := loose.notMem (by decide) (by decide)
  have dot : '.' ∉ s.toList :=
    h.elim (·.grouped.notMem (by decide) clean) (·.grouped.notMem (by decide) clean)
  rw [ofDotted?, dotted?, pieces_of_notMem dot]

end Mac

namespace Switch

/-- Two rows about one neighbor. If its hardware address is written differently, then it stands in
dotted form in both. -/
structure SameNeighbor (a b : Adjacency) : Prop where
  interface : a.interface = b.interface
  mac : a.mac = b.mac ∨
    ∃ (m : Mac) (s t : String), a.mac = some s ∧ b.mac = some t ∧ m.Dotted s ∧ m.Dotted t

theorem SameNeighbor.entry? {a b : Adjacency} (h : SameNeighbor a b) :
    HardwareMap.entry? a = HardwareMap.entry? b := by
  have read : a.mac.bind Mac.ofDotted? = b.mac.bind Mac.ofDotted? := by
    rcases h.mac with same | ⟨m, s, t, left, right, first, second⟩
    · rw [same]
    · rw [left, right, Option.bind_some, Option.bind_some, (Mac.ofDotted?_of_dotted first).1,
        (Mac.ofDotted?_of_dotted second).1]
  rw [HardwareMap.entry?, HardwareMap.entry?, h.interface, read]

theorem HardwareMap.ofAdjacencies_eq {as bs : List Adjacency}
    (h : List.Forall₂ SameNeighbor as bs) : ofAdjacencies as = ofAdjacencies bs := by
  have entries : as.filterMap HardwareMap.entry? = bs.filterMap HardwareMap.entry? := by
    induction h with
    | nil => rfl
    | cons first _ ih => rw [List.filterMap_cons, List.filterMap_cons, first.entry?, ih]
  rw [ofAdjacencies, ofAdjacencies, entries]

end Switch

open Switch

/-- Each notation of an identifier is read as it, so no two identifiers have one text. What a
resync decides about leases and neighbors, and which siblings the lease of an event has, is the
same in whichever notation the snapshot, the event and, in dotted form, the neighbors stand. A
neighbor with colons or hyphens is none. -/
theorem notations_agree :
    (∀ m : Mac, m.Spells m.text ∧ (∀ s, m.Spells s → Mac.ofText? s = some m) ∧
      (∀ s, m.Dotted s → Mac.ofDotted? s = some m) ∧
      ∀ s, SpellsBytes ':' m.bytes s.toList ∨ SpellsBytes '-' m.bytes s.toList →
        Mac.ofDotted? s = none) ∧
    (∀ duid : Duid, duid ≠ ⟨[]⟩ →
      duid.Spells duid.text ∧ ∀ s, duid.Spells s → Duid.ofText s = .ok duid) ∧
    Function.Injective Mac.text ∧ Function.Injective Duid.text ∧
    ∀ leases : List Lease, (∀ l ∈ leases, l.duid ≠ some ⟨[]⟩) →
      ∀ d text, Lists (Lease.Recorded fun _ => True) leases d → d.WrittenAs text →
        ∃ store, LeaseStore.ofText text = .ok store ∧
          (∀ as bs, List.Forall₂ SameNeighbor as bs →
            Resync.decisions store (.ofAdjacencies as) =
              Resync.decisions (.ofList leases) (.ofAdjacencies bs)) ∧
          ∀ e : LeaseEvent, e.lease.duid ≠ some ⟨[]⟩ →
            ∀ d line, e.Recorded (fun _ => False) d → d.WrittenAs line →
              ∃ event, LeaseEvent.ofText line = .ok event ∧
                store.siblings event.lease.duid event.lease.iaid =
                  (LeaseStore.ofList leases).siblings e.lease.duid e.lease.iaid := by
  refine ⟨fun m => ⟨m.spells_text, fun _ => Mac.ofText?_of_spells, fun _ dotted =>
    (Mac.ofDotted?_of_dotted dotted).1, fun _ => Mac.ofDotted?_of_separated⟩, fun duid filled =>
    ⟨duid.spells_text, fun _ spells => ?_⟩, Mac.text_injective, Duid.text_injective, ?_⟩
  · exact Duid.ofText_of_spells (fun none => filled (congrArg Duid.mk none)) spells
  · intro leases named d text recorded written
    refine ⟨_, LeaseStore.ofText_of_recorded named recorded written, fun as bs same => ?_,
      fun e named d line recorded written => ?_⟩
    · rw [HardwareMap.ofAdjacencies_eq same]
    · exact ⟨e, LeaseEvent.ofText_of_recorded named recorded written, rfl⟩

/-! ## One client in several notations -/

namespace Sample

def card : Mac := ⟨[0x02, 0x42, 0, 0, 0, 0xab], rfl⟩

def owner : Duid := ⟨[0, 1, 0xaa]⟩

def hosted : Lease where
  address := ⟨[0x2001, 0xdb8, 0, 0, 0, 0, 0, 0x1a], rfl⟩
  length := 128
  association := .na
  iaid := 7
  duid := some owner
  hardware := some card
  subnet := 5
  state := .active

/-- The lease with the hardware address in hyphens and single digits, and both identifiers in
capitals. -/
def hostedRecord : Json := .obj [("address", .str "2001:db8::1a"), ("type", .str "IA_NA"),
  ("iaid", Json.ofNat 7), ("duid", .str "0:1:AA"), ("hw-address", .str "2-42-0-0-0-AB"),
  ("subnet-id", Json.ofNat 5)]

def seen (mac : String) : Adjacency := ⟨"Vlan5", none, some mac⟩

theorem spells_hyphens : card.Spells "2-42-0-0-0-AB" :=
  .hyphens ⟨[['2'], ['4', '2'], ['0'], ['0'], ['0'], ['A', 'B']],
    .cons (.low (by decide) (by decide)) (.cons (.both (by decide))
      (.cons (.low (by decide) (by decide)) (.cons (.low (by decide) (by decide))
        (.cons (.low (by decide) (by decide)) (.cons (.both (by decide)) .nil))))), by decide⟩

theorem spells_capitals : owner.Spells "0:1:AA" :=
  ⟨[['0'], ['1'], ['A', 'A']], .cons (.low (by decide) (by decide))
    (.cons (.low (by decide) (by decide)) (.cons (.both (by decide)) .nil)), by decide⟩

theorem dotted_capitals : card.Dotted "0242.0000.00AB" :=
  .groups rfl (x := "0242".toList) (y := "0000".toList) (z := "00AB".toList) (by decide)
    (by decide) (by decide) (by decide)

theorem dotted_small : card.Dotted "0242.0000.00ab" :=
  .groups rfl (x := "0242".toList) (y := "0000".toList) (z := "00ab".toList) (by decide)
    (by decide) (by decide) (by decide)

theorem recorded_hosted (extra : Document → Prop) :
    hosted.Recorded extra (.ofJson hostedRecord) := by
  have address : hosted.address.Writes (.str "2001:db8::1a") :=
    congrArg Document.str (by decide +kernel)
  have duid : owner.Writes (.str "0:1:AA") := ⟨_, spells_capitals, rfl⟩
  have hardware : card.Writes (.str "2-42-0-0-0-AB") := ⟨_, spells_hyphens, rfl⟩
  exact Kept.records (.write address (.leave rfl (.write rfl (.write rfl (.write duid
    (.write hardware (.write rfl (.leave rfl .nil))))))))

theorem exact_hosted : Exact hostedRecord :=
  ⟨trivial, trivial, fits_word32 7, trivial, trivial, fits_word32 5, trivial⟩

/-- The release of the lease. -/
def hostedRelease : Json := .obj [("hook", .str "lease6_release"), ("lease", hostedRecord)]

theorem recorded_hostedRelease (extra : Document → Prop) :
    (LeaseEvent.release hosted).Recorded extra (.ofJson hostedRelease) :=
  Kept.records (.write rfl (.write (recorded_hosted extra) .nil))

end Sample

open Sample in
theorem notations_agree_mixed :
    (card.Spells "2-42-0-0-0-AB" ∧ Mac.ofText? "2-42-0-0-0-AB" = some card) ∧
      (card.Dotted "0242.0000.00AB" ∧ Mac.ofDotted? "0242.0000.00AB" = some card) ∧
      (owner ≠ ⟨[]⟩ ∧ owner.Spells "0:1:AA" ∧ Duid.ofText "0:1:AA" = .ok owner) ∧
      ∃ store, LeaseStore.ofText (Json.arr [hostedRecord]).text = .ok store ∧
        Resync.decisions store (.ofAdjacencies [seen "0242.0000.00AB"]) =
          Resync.decisions (.ofList [hosted]) (.ofAdjacencies [seen "0242.0000.00ab"]) ∧
        ∃ event, LeaseEvent.ofText hostedRelease.text = .ok event ∧
          store.siblings event.lease.duid event.lease.iaid =
            (LeaseStore.ofList [hosted]).siblings (some owner) 7 := by
  obtain ⟨macs, duids, -, -, joins⟩ := notations_agree
  obtain ⟨-, text, dotted, -⟩ := macs card
  have filled : owner ≠ ⟨[]⟩ := by decide
  have named : hosted.duid ≠ some ⟨[]⟩ := by decide
  have written : (Document.ofJson (.arr [hostedRecord])).WrittenAs _ :=
    writtenAs_text ⟨exact_hosted, trivial⟩
  obtain ⟨store, read, hardware, siblings⟩ := joins [hosted] (List.forall_mem_singleton.2 named) _ _
    ⟨_, .cons (recorded_hosted _) .nil, rfl⟩ written
  have same : SameNeighbor (seen "0242.0000.00AB") (seen "0242.0000.00ab") :=
    ⟨rfl, .inr ⟨card, _, _, rfl, rfl, dotted_capitals, dotted_small⟩⟩
  exact ⟨⟨spells_hyphens, text _ spells_hyphens⟩, ⟨dotted_capitals, dotted _ dotted_capitals⟩,
    ⟨filled, spells_capitals, (duids owner filled).2 _ spells_capitals⟩, store, read,
    hardware _ _ (.cons same .nil), siblings (.release hosted) named _ _
      (recorded_hostedRelease _) (writtenAs_text ⟨trivial, exact_hosted, trivial⟩)⟩

open Sample in
/-- A lease is not joined with its neighbor if the table of neighbors writes the hardware address
with colons. -/
theorem colons_unmatched :
    card.Spells card.text ∧ card.Spells "0242.0000.00ab" ∧
      Resync.intents (.ofList [hosted]) (.ofAdjacencies [seen card.text]) = [] ∧
      (Resync.intents (.ofList [hosted]) (.ofAdjacencies [seen "0242.0000.00ab"])).length = 1 :=
  ⟨card.spells_text, .dotted dotted_small, by decide +kernel, by decide +kernel⟩

end LeaseRoutes
