import LeaseRoutes.Lease.Store
import LeaseRoutes.Proofs.Json.Record
import LeaseRoutes.Proofs.Net.Address
import LeaseRoutes.Proofs.Net.Spelling

namespace LeaseRoutes

open Json

/-! ## Values -/

/-- The tree writes the number. -/
def Word8 (n : UInt8) (d : Document) : Prop := d = .num (.whole n.toNat)

def Word32 (n : UInt32) (d : Document) : Prop := d = .num (.whole n.toNat)

def Truth (b : Bool) (d : Document) : Prop := d = .bool b

def Address.Writes (a : Address) (d : Document) : Prop := d = .str a.text

def Association.Writes (a : Association) (d : Document) : Prop := d = .str a.name

def LeaseState.Writes (s : LeaseState) (d : Document) : Prop := d = .str s.name

/-- Identifiers stand in any of their notations. -/
def Mac.Writes (m : Mac) (d : Document) : Prop := ∃ s, m.Spells s ∧ d = .str s

def Duid.Writes (duid : Duid) (d : Document) : Prop := ∃ s, duid.Spells s ∧ d = .str s

theorem reads_word32 (n : UInt32) : Reader.Reads Reader.word32 Word32 n := by
  rintro source _ rfl -
  have small : (n.toNat : Int) < (UInt32.size : Nat) := by exact_mod_cast n.toNat_lt
  rw [Reader.word32, Reader.word, if_pos ⟨Int.natCast_nonneg _, small⟩, Int.toNat_natCast]
  exact congrArg Except.ok UInt32.ofNat_toNat

theorem reads_word8 (n : UInt8) : Reader.Reads Reader.word8 Word8 n := by
  rintro source _ rfl -
  have small : (n.toNat : Int) < (UInt8.size : Nat) := by exact_mod_cast n.toNat_lt
  rw [Reader.word8, Reader.word, if_pos ⟨Int.natCast_nonneg _, small⟩, Int.toNat_natCast]
  exact congrArg Except.ok UInt8.ofNat_toNat

theorem reads_truth (b : Bool) : Reader.Reads Reader.boolean Truth b := by
  rintro source _ rfl -
  rfl

theorem reads_address (a : Address) : Reader.Reads Address.read Address.Writes a := by
  rintro source _ rfl -
  simp only [Address.read, Reader.parsed, Address.ofText?_text]

theorem reads_association (a : Association) :
    Reader.Reads Association.read Association.Writes a := by
  rintro source _ rfl -
  cases a <;> cases source <;> rfl

theorem reads_state (s : LeaseState) : Reader.Reads LeaseState.read LeaseState.Writes s := by
  rintro source _ rfl -
  cases s <;> cases source <;> rfl

theorem reads_mac (m : Mac) : Reader.Reads Mac.read Mac.Writes m := by
  rintro source _ ⟨s, spells, rfl⟩ -
  simp only [Mac.read, Reader.parsed, Mac.ofText?_of_spells spells]

theorem reads_duid {duid : Duid} (filled : duid ≠ ⟨[]⟩) :
    Reader.Reads Duid.read Duid.Writes duid := by
  rintro source _ ⟨s, spells, rfl⟩ -
  have bytes : duid.bytes ≠ [] := fun none => filled (congrArg Duid.mk none)
  simp only [Duid.read, Reader.parsed, Duid.ofText_of_spells bytes spells]

/-! ## Leases -/

namespace Lease

def slots (l : Lease) : List Slot := [
  .required "address" Address.Writes l.address,
  .defaulted "prefix-len" 128 Word8 l.length,
  .required "type" Association.Writes l.association,
  .required "iaid" Word32 l.iaid,
  .optional "duid" Duid.Writes l.duid,
  .optional "hw-address" Mac.Writes l.hardware,
  .required "subnet-id" Word32 l.subnet,
  .defaulted "state" .active LeaseState.Writes l.state]

/-- The tree of a lease. -/
def Recorded (extra : Document → Prop) (l : Lease) : Document → Prop := Records extra l.slots

theorem reads (extra : Document → Prop) {l : Lease} (named : l.duid ≠ some ⟨[]⟩) :
    Reader.Reads Lease.read (Recorded extra) l := by
  intro source d h skips
  have address : addressField.Reads _ l.address := reads_required (reads_address _)
  have length : lengthField.Reads _ l.length := reads_defaulted (reads_word8 _)
  have association : associationField.Reads _ l.association :=
    reads_required (reads_association _)
  have iaid : iaidField.Reads _ l.iaid := reads_required (reads_word32 _)
  have duid : duidField.Reads _ l.duid := reads_optional (fun _ => ⟨_, rfl⟩) fun duid some =>
    reads_duid fun none => named (none ▸ some)
  have hardware : hardwareField.Reads _ l.hardware :=
    reads_optional (fun _ => ⟨_, rfl⟩) fun mac _ => reads_mac mac
  have subnet : subnetField.Reads _ l.subnet := reads_required (reads_word32 _)
  have state : stateField.Reads _ l.state := reads_defaulted (reads_state _)
  obtain ⟨found, there, get⟩ := schema.found_of_records
    (.cons address.check (.cons length.check (.cons association.check (.cons iaid.check
      (.cons duid.check (.cons hardware.check (.cons subnet.check (.cons state.check .nil))))))))
    (by decide) h skips source
  simp only [Lease.read, there, bind, Except.bind, get (by simp) address, get (by simp) length,
    get (by simp) association, get (by simp) iaid, get (by simp) duid, get (by simp) hardware,
    get (by simp) subnet, get (by simp) state]
  rfl

end Lease

/-- The record of a lease, its fields in the order in which they are declared. -/
def Lease.record (l : Lease) : Json := .obj [
  ("address", .str l.address.text),
  ("prefix-len", Json.ofNat l.length.toNat),
  ("type", .str l.association.name),
  ("iaid", Json.ofNat l.iaid.toNat),
  ("duid", Json.ofOption (fun duid => .str duid.text) l.duid),
  ("hw-address", Json.ofOption (fun mac => .str mac.text) l.hardware),
  ("subnet-id", Json.ofNat l.subnet.toNat),
  ("state", .str l.state.name)]

theorem word8_written (n : UInt8) : Word8 n (.ofJson (Json.ofNat n.toNat)) := rfl

theorem Address.writes_text (a : Address) : a.Writes (.ofJson (.str a.text)) := rfl

theorem Duid.writes_text (duid : Duid) : duid.Writes (.ofJson (.str duid.text)) :=
  ⟨_, duid.spells_text, rfl⟩

theorem Mac.writes_text (m : Mac) : m.Writes (.ofJson (.str m.text)) := ⟨_, m.spells_text, rfl⟩

theorem fits_word32 (n : UInt32) : Fits n.toNat := by
  have small : n.toNat < 2 ^ 32 := n.toNat_lt
  constructor <;> omega

theorem fits_word8 (n : UInt8) : Fits n.toNat := by
  have small : n.toNat < 2 ^ 8 := n.toNat_lt
  constructor <;> omega

theorem exact_ofOption {f : α → Json} {a : Option α} (exact : ∀ a, Exact (f a)) :
    Exact (Json.ofOption f a) := by
  cases a with
  | none => trivial
  | some a => exact exact a

/-- In a record nothing is left out. -/
theorem writes_ofOption {name : String} {writes : α → Document → Prop} {f : α → Json}
    {a : Option α} (written : ∀ a, writes a (.ofJson (f a))) :
    (Slot.optional name writes a).writes (.ofJson (Json.ofOption f a)) := by
  cases a with
  | none => rfl
  | some a => exact written a

namespace Lease

theorem exact_record (l : Lease) : Exact l.record :=
  ⟨trivial, fits_word8 _, trivial, fits_word32 _, exact_ofOption fun _ => trivial,
    exact_ofOption fun _ => trivial, fits_word32 _, trivial, trivial⟩

theorem recorded_record (extra : Document → Prop) (l : Lease) :
    l.Recorded extra (.ofJson l.record) :=
  Kept.records (.write rfl (.write rfl (.write rfl (.write rfl
    (.write (writes_ofOption Duid.writes_text) (.write (writes_ofOption Mac.writes_text)
      (.write rfl (.write rfl .nil))))))))

/-- The record holds what is printed of the lease. -/
theorem normal_record (l : Lease) : l.record.normal = l.toJson := by
  cases l with
  | mk address length association iaid duid hardware subnet state =>
    cases duid <;> cases hardware <;> rfl

end Lease

/-- A snapshot is read as the leases that it records. -/
theorem LeaseStore.ofText_of_recorded {leases : List Lease}
    (named : ∀ l ∈ leases, l.duid ≠ some ⟨[]⟩) {extra : Document → Prop} {d : Document}
    (h : Lists (Lease.Recorded extra) leases d) {text : String} (written : d.WrittenAs text) :
    LeaseStore.ofText text = .ok (.ofList leases) := by
  have reads := reads_list fun l member => Lease.reads extra (named l member)
  rw [LeaseStore.ofText, Reader.text_of_writtenAs _ written, reads .stream d h written.skips]
  rfl

end LeaseRoutes
