import LeaseRoutes.Proofs.Lease.EventRecord

namespace LeaseRoutes

open Json

/-! ## Records without unknown members -/

section Bare

variable {d : Document} (n : Nat)

theorem Lease.isSome_of_recorded {l : Lease} (h : l.Recorded (fun _ => False) d) :
    (d.toJson? (n + 1)).isSome := by
  refine h.isSome ?_ fun _ none => none.elim
  simp only [slots, List.forall_mem_cons]
  refine ⟨?_, ?_, ?_, ?_, ?duid, ?hardware, ?_, ?_, nofun⟩
  case duid | hardware =>
    refine isSome_optional fun _ _ => ?_
    rintro _ ⟨_, -, rfl⟩
    rfl
  all_goals
    rintro _ rfl
    rfl

theorem NaOption.isSome_of_recorded {o : NaOption} (h : o.Recorded (fun _ => False) d) :
    (d.toJson? (n + 1)).isSome := by
  refine h.isSome ?_ fun _ none => none.elim
  simp only [slots, List.forall_mem_cons]
  refine ⟨?iaid, isSome_optional fun _ _ => ?address, nofun⟩
  all_goals
    rintro _ rfl
    rfl

theorem PdOption.isSome_of_recorded {o : PdOption} (h : o.Recorded (fun _ => False) d) :
    (d.toJson? (n + 1)).isSome := by
  refine h.isSome ?_ fun _ none => none.elim
  simp only [slots, List.forall_mem_cons]
  refine ⟨?iaid, isSome_optional fun _ _ => ?address, isSome_optional fun _ _ => ?length, nofun⟩
  all_goals
    rintro _ rfl
    rfl

theorem Query.isSome_of_recorded {q : Query} (h : q.Recorded (fun _ => False) d) :
    (d.toJson? (n + 2)).isSome := by
  refine h.isSome ?_ fun _ none => none.elim
  simp only [slots, List.forall_mem_cons]
  refine ⟨?transaction, ?link, isSome_optional fun _ _ _ => NaOption.isSome_of_recorded n,
    isSome_optional fun _ _ _ => PdOption.isSome_of_recorded n, nofun⟩
  all_goals
    rintro _ rfl
    rfl

theorem LeaseEvent.isSome_of_recorded {e : LeaseEvent} (h : e.Recorded (fun _ => False) d) :
    (d.toJson? (n + 3)).isSome := by
  refine h.isSome ?_ fun _ none => none.elim
  have lease (l : Lease) (x : Document) :
      l.Recorded (fun _ => False) x → (x.toJson? (n + 2)).isSome :=
    Lease.isSome_of_recorded (n + 1)
  rw [slots, List.forall_mem_cons]
  refine ⟨?hook, ?content⟩
  case hook =>
    rintro _ rfl
    rfl
  case content =>
    cases e with
    | select s =>
      simp only [content, Selection.slots, List.forall_mem_cons]
      refine ⟨?fake, fun _ => Query.isSome_of_recorded n, lease s.lease, nofun⟩
      rintro _ rfl
      rfl
    | release l | expire l | decline l => exact List.forall_mem_singleton.2 (lease l)

/-- Without unknown members an event is read from every text that records it. -/
theorem LeaseEvent.ofText_of_recorded {e : LeaseEvent} (named : e.lease.duid ≠ some ⟨[]⟩)
    (h : e.Recorded (fun _ => False) d) {line : String} (written : d.WrittenAs line) :
    LeaseEvent.ofText line = .ok e := by
  rw [ofText_recorded_iff named h written, ← toJson?_isSome_iff]
  exact isSome_of_recorded _ h

end Bare

/-! ## Serialized events -/

namespace NaOption

def record (o : NaOption) : Json := .obj [
  ("iaid", Json.ofNat o.iaid.toNat),
  ("address", Json.ofOption (fun a => .str a.text) o.address)]

theorem exact_record (o : NaOption) : Exact o.record :=
  ⟨fits_word32 _, exact_ofOption fun _ => trivial, trivial⟩

theorem recorded_record (extra : Document → Prop) (o : NaOption) :
    o.Recorded extra (.ofJson o.record) :=
  Kept.records (.write rfl (.write (writes_ofOption Address.writes_text) .nil))

theorem normal_record (o : NaOption) : o.record.normal = o.toJson := by
  cases o with
  | mk iaid address => cases address <;> rfl

end NaOption

namespace PdOption

def record (o : PdOption) : Json := .obj [
  ("iaid", Json.ofNat o.iaid.toNat),
  ("prefix", Json.ofOption (fun a => .str a.text) o.address),
  ("prefix-len", Json.ofOption (fun n => Json.ofNat n.toNat) o.length)]

theorem exact_record (o : PdOption) : Exact o.record :=
  ⟨fits_word32 _, exact_ofOption fun _ => trivial, exact_ofOption fun n => fits_word8 n, trivial⟩

theorem recorded_record (extra : Document → Prop) (o : PdOption) :
    o.Recorded extra (.ofJson o.record) :=
  Kept.records (.write rfl (.write (writes_ofOption Address.writes_text)
    (.write (writes_ofOption word8_written) .nil)))

theorem normal_record (o : PdOption) : o.record.normal = o.toJson := by
  cases o with
  | mk iaid address length => cases address <;> cases length <;> rfl

end PdOption

namespace Query

def record (q : Query) : Json := .obj [
  ("transaction-id", Json.ofNat q.transaction.toNat),
  ("link-address", .str q.link.text),
  ("ia-na", Json.ofOption NaOption.record q.na),
  ("ia-pd", Json.ofOption PdOption.record q.pd)]

theorem exact_record (q : Query) : Exact q.record :=
  ⟨fits_word32 _, trivial, exact_ofOption NaOption.exact_record,
    exact_ofOption PdOption.exact_record, trivial⟩

theorem recorded_record (extra : Document → Prop) (q : Query) :
    q.Recorded extra (.ofJson q.record) :=
  Kept.records (.write rfl (.write rfl
    (.write (writes_ofOption (NaOption.recorded_record extra))
      (.write (writes_ofOption (PdOption.recorded_record extra)) .nil))))

theorem normal_record (q : Query) : q.record.normal = q.toJson := by
  have na : (Json.ofOption NaOption.record q.na).normal = Json.ofOption NaOption.toJson q.na := by
    cases q.na with
    | none => rfl
    | some o => exact o.normal_record
  have pd : (Json.ofOption PdOption.record q.pd).normal = Json.ofOption PdOption.toJson q.pd := by
    cases q.pd with
    | none => rfl
    | some o => exact o.normal_record
  simp only [record, Json.normal, Json.normalMembers, na, pd]
  rfl

end Query

namespace LeaseEvent

/-- The record of an event, the hook first and then the fields in their order. -/
def record (e : LeaseEvent) : Json :=
  match e with
  | .select s => .obj [("hook", .str e.hook.name), ("fake-allocation", .bool s.fake),
      ("query", s.query.record), ("lease", s.lease.record)]
  | .release l | .expire l | .decline l =>
    .obj [("hook", .str e.hook.name), ("lease", l.record)]

theorem exact_record (e : LeaseEvent) : Exact e.record := by
  cases e with
  | select s => exact ⟨trivial, trivial, s.query.exact_record, s.lease.exact_record, trivial⟩
  | release l | expire l | decline l => exact ⟨trivial, l.exact_record, trivial⟩

theorem recorded_record (extra : Document → Prop) (e : LeaseEvent) :
    e.Recorded extra (.ofJson e.record) := by
  cases e with
  | select s =>
    exact Kept.records (.write rfl (.write rfl (.write (Query.recorded_record extra _)
      (.write (Lease.recorded_record extra _) .nil))))
  | release l | expire l | decline l =>
    exact Kept.records (.write rfl (.write (Lease.recorded_record extra l) .nil))

theorem normal_record (e : LeaseEvent) : e.record.normal = e.toJson := by
  cases e with
  | select s =>
    simp only [record, Json.normal, Json.normalMembers, Query.normal_record, Lease.normal_record]
    rfl
  | release l | expire l | decline l =>
    simp only [record, Json.normal, Json.normalMembers, Lease.normal_record]
    rfl

end LeaseEvent

/-! ## Snapshots -/

theorem exact_records (leases : List Lease) : Exact (.arr (leases.map Lease.record)) := by
  rw [Exact, exactItems_iff, List.forall_mem_map]
  exact fun l _ => l.exact_record

theorem lists_records (extra : Document → Prop) (leases : List Lease) :
    Lists (Lease.Recorded extra) leases (.ofJson (.arr (leases.map Lease.record))) := by
  refine ⟨_, ?_, rfl⟩
  induction leases with
  | nil => exact .nil
  | cons l leases ih => exact .cons (l.recorded_record extra) ih

/-- Leases and events are read back from their serialized texts, and from every text that has the
keys of its objects in another order, leaves out fields that have their defaults, or writes the
same values in another notation. Unknown members change nothing in a snapshot; in an event they
must have a value, as an event is read whole before it is looked at. -/
theorem recorded_texts_read :
    (∀ e : LeaseEvent, e.lease.duid ≠ some ⟨[]⟩ →
      LeaseEvent.ofText e.record.text = .ok e ∧
      (∀ d line, e.Recorded (fun _ => False) d → d.WrittenAs line →
        LeaseEvent.ofText line = .ok e) ∧
      ∀ d line, e.Recorded (fun _ => True) d → d.WrittenAs line →
        (LeaseEvent.ofText line = .ok e ↔ d.levels ≤ Document.depthLimit ∧ d.ordinary)) ∧
    ∀ leases : List Lease, (∀ l ∈ leases, l.duid ≠ some ⟨[]⟩) →
      LeaseStore.ofText (Json.arr (leases.map Lease.record)).text = .ok (.ofList leases) ∧
      ∀ d text, Lists (Lease.Recorded fun _ => True) leases d → d.WrittenAs text →
        LeaseStore.ofText text = .ok (.ofList leases) := by
  refine ⟨fun e named => ?_, fun leases named => ?_⟩
  · have bare (d : Document) (line : String) (h : e.Recorded (fun _ => False) d)
        (written : d.WrittenAs line) : LeaseEvent.ofText line = .ok e :=
      LeaseEvent.ofText_of_recorded named h written
    exact ⟨bare _ _ (e.recorded_record _) (writtenAs_text e.exact_record), bare,
      fun d line h written => LeaseEvent.ofText_recorded_iff named h written⟩
  · have snapshot (d : Document) (text : String)
        (h : Lists (Lease.Recorded fun _ => True) leases d) (written : d.WrittenAs text) :
        LeaseStore.ofText text = .ok (.ofList leases) :=
      LeaseStore.ofText_of_recorded named h written
    exact ⟨snapshot _ _ (lists_records _ leases) (writtenAs_text (exact_records leases)), snapshot⟩

/-! ## Records in another order -/

namespace Sample

def delegated : Lease where
  address := ⟨[0x2001, 0xdb8, 9, 0, 0, 0, 0, 0], rfl⟩
  length := 56
  association := .pd
  iaid := 7
  duid := none
  hardware := some ⟨[0x02, 0x42, 0, 0, 0, 0x0c], rfl⟩
  subnet := 3
  state := .active

/-- The fields in reverse, without those that have their defaults, and behind a member that is
none. The hardware address stands in dotted form. -/
def delegatedRecord (note : Json) : Json := .obj [("note", note), ("subnet-id", Json.ofNat 3),
  ("hw-address", .str "0242.0000.000c"), ("iaid", Json.ofNat 7), ("type", .str "IA_PD"),
  ("prefix-len", Json.ofNat 56), ("address", .str "2001:db8:9::")]

/-- The release of the prefix, its hook last. -/
def releaseRecord (note : Json) : Json :=
  .obj [("lease", delegatedRecord note), ("hook", .str "lease6_release")]

/-- An array in an array, so often. -/
def nested : Nat → Json
  | 0 => .null
  | n + 1 => .arr [nested n]

theorem recorded_delegated (note : Json) :
    delegated.Recorded (fun _ => True) (.ofJson (delegatedRecord note)) := by
  have address : delegated.address.Writes (.str "2001:db8:9::") :=
    congrArg Document.str (by decide +kernel)
  have hardware : Mac.Writes ⟨[0x02, 0x42, 0, 0, 0, 0x0c], rfl⟩ (.str "0242.0000.000c") :=
    ⟨_, .dotted (.groups rfl (x := "0242".toList) (y := "0000".toList) (z := "000c".toList)
      (by decide) (by decide) (by decide) (by decide)), rfl⟩
  have none : "note" ∉ ["address", "prefix-len", "type", "iaid", "duid", "hw-address",
      "subnet-id", "state"] := by decide
  have foreign : ∀ m ∈ [("note", Document.ofJson note)],
      m.1 ∉ delegated.slots.map Slot.name ∧ True :=
    List.forall_mem_singleton.2 ⟨none, trivial⟩
  have kept : Kept delegated.slots _ :=
    .write address (.write rfl (.write rfl (.write rfl (.leave rfl
      (.write hardware (.write rfl (.leave rfl .nil)))))))
  exact @Records.members (fun _ => True) delegated.slots _ _ _ kept foreign (List.reverse_perm _)

theorem recorded_release (note : Json) :
    (LeaseEvent.release delegated).Recorded (fun _ => True) (.ofJson (releaseRecord note)) :=
  Kept.reordered (.write rfl (.write (recorded_delegated note) .nil)) (List.reverse_perm _)

theorem exact_nested (n : Nat) : Exact (nested n) := by
  induction n with
  | zero => trivial
  | succ n ih => exact ⟨ih, trivial⟩

theorem levels_nested (n : Nat) : (Document.ofJson (nested n)).levels = n := by
  induction n with
  | zero => rfl
  | succ n ih =>
    rw [nested, Document.ofJson, Document.levels, Document.ofItems, Document.levelsItems, ih,
      Document.ofItems, Document.levelsItems, Nat.max_zero]

theorem ordinary_nested (n : Nat) : (Document.ofJson (nested n)).ordinary = true := by
  induction n with
  | zero => rfl
  | succ n ih =>
    rw [nested, Document.ofJson, Document.ordinary, Document.ofItems, Document.ordinaryItems, ih]
    rfl

theorem levels_release (n : Nat) :
    (Document.ofJson (releaseRecord (nested n))).levels = n + 2 := by
  simp [releaseRecord, delegatedRecord, Document.ofJson, Document.ofMembers, Document.levels,
    Document.levelsMembers, Json.ofNat, levels_nested]

theorem ordinary_release (n : Nat) :
    (Document.ofJson (releaseRecord (nested n))).ordinary = true := by
  simp [releaseRecord, delegatedRecord, Document.ofJson, Document.ofMembers, Document.ordinary,
    Document.ordinaryMembers, Json.ofNat, ordinary_nested]

theorem exact_delegated (n : Nat) : Exact (delegatedRecord (nested n)) :=
  ⟨exact_nested n, fits_word32 3, trivial, fits_word32 7, trivial, fits_word8 56, trivial, trivial⟩

theorem exact_release (n : Nat) : Exact (releaseRecord (nested n)) :=
  ⟨exact_delegated n, trivial, trivial⟩

end Sample

open Sample in
theorem recorded_texts_read_reversed :
    delegated.duid ≠ some ⟨[]⟩ ∧
      LeaseEvent.ofText (releaseRecord (nested 125)).text = .ok (.release delegated) ∧
      LeaseStore.ofText (Json.arr [delegatedRecord (nested 200)]).text =
        .ok (.ofList [delegated]) := by
  have named : delegated.duid ≠ some ⟨[]⟩ := by decide
  have line := recorded_texts_read.1 (.release delegated) named |>.2.2 _ _
    (recorded_release (nested 125)) (writtenAs_text (exact_release 125))
  have text : (Document.ofJson (.arr [delegatedRecord (nested 200)])).WrittenAs _ :=
    writtenAs_text ⟨exact_delegated 200, trivial⟩
  have snapshot := recorded_texts_read.2 [delegated] (List.forall_mem_singleton.2 named) |>.2 _ _
    ⟨_, .cons (recorded_delegated (nested 200)) .nil, rfl⟩ text
  exact ⟨named, line.2 ⟨(levels_release 125).le, ordinary_release 125⟩, snapshot⟩

open Sample in
/-- One level more and the line has no value, so the event is not read. -/
theorem nested_member_refused :
    delegated.duid ≠ some ⟨[]⟩ ∧
      (LeaseEvent.release delegated).Recorded (fun _ => True)
        (.ofJson (releaseRecord (nested 126))) ∧
      LeaseEvent.ofText (releaseRecord (nested 126)).text ≠ .ok (.release delegated) := by
  have named : delegated.duid ≠ some ⟨[]⟩ := by decide
  have recorded := recorded_release (nested 126)
  refine ⟨named, recorded, fun read => ?_⟩
  have shallow := (LeaseEvent.ofText_recorded_iff (e := .release delegated) named recorded
    (writtenAs_text (exact_release 126))).1 read
  rw [levels_release] at shallow
  exact absurd shallow.1 (by decide)

end LeaseRoutes
