import LeaseRoutes.Proofs.Exporter.Restoration
import LeaseRoutes.Proofs.Resync.Partition
import LeaseRoutes.Proofs.Switch.Survey
import Mathlib.Data.List.Induction
import Mathlib.Logic.Relation

namespace LeaseRoutes

namespace Mac

theorem before_trans {a b c : Mac} (h : a.before b = true) (k : b.before c = true) :
    a.before c = true :=
  decide_eq_true (List.lt_trans (of_decide_eq_true h) (of_decide_eq_true k))

theorem ne_of_before {a b : Mac} (h : a.before b = true) : a ≠ b := by
  rintro rfl
  exact List.lt_irrefl a.bytes (of_decide_eq_true h)

theorem before_of_not_before {a b : Mac} (different : a ≠ b) (h : ¬a.before b = true) :
    b.before a = true := by
  refine decide_eq_true (Decidable.of_not_not fun k => different ?_)
  have behind : ¬a.bytes < b.bytes := fun less => h (decide_eq_true less)
  have same : a.bytes = b.bytes := List.le_antisymm (List.not_lt.1 k) (List.not_lt.1 behind)
  rwa [mk.injEq]

end Mac

namespace Switch

namespace HardwareMap

/-! ## Maps -/

/-- Every address comes before those behind it, so none comes twice. -/
def Ordered (map : HardwareMap) : Prop := map.Pairwise fun e f => e.1.before f.1 = true

theorem Ordered.set {map : HardwareMap} (h : map.Ordered) (mac : Mac) (interface : String) :
    (set mac interface map).Ordered := by
  induction map with
  | nil => exact List.pairwise_singleton _ _
  | cons first rest ih =>
    obtain ⟨m, i⟩ := first
    obtain ⟨least, ordered⟩ := List.pairwise_cons.1 h
    unfold HardwareMap.set
    split
    · next same =>
      subst same
      exact List.pairwise_cons.2 ⟨least, ordered⟩
    · next different =>
      split
      · next less =>
        refine List.pairwise_cons.2 ⟨fun e member => ?_, h⟩
        rcases List.mem_cons.1 member with rfl | member
        · exact less
        · exact Mac.before_trans less (least e member)
      · next greater =>
        refine List.pairwise_cons.2 ⟨fun e member => ?_, ih ordered⟩
        rcases mem_set member with rfl | member
        · exact Mac.before_of_not_before different greater
        · exact least e member

/-- Setting the interface of one address changes that of no other. -/
theorem lookup_set (mac m : Mac) (interface : String) (map : HardwareMap) :
    (set mac interface map).lookup m = if m = mac then some interface else map.lookup m := by
  induction map with
  | nil => exact lookup_cons_eq m mac interface []
  | cons first rest ih =>
    obtain ⟨k, i⟩ := first
    unfold set
    split
    · next same =>
      subst same
      by_cases own : m = mac
      · simp only [lookup_cons_eq, if_pos own]
      · simp only [lookup_cons_eq, if_neg own]
    · next different =>
      split
      · exact lookup_cons_eq m mac interface _
      · rw [lookup_cons_eq, lookup_cons_eq, ih]
        by_cases own : m = mac
        · have other : m ≠ k := own ▸ different
          simp only [if_neg other, if_pos own]
        · simp only [if_neg own]

/-- The entries of a map are what is looked up in it. -/
theorem Ordered.mem_iff {map : HardwareMap} (h : map.Ordered) {m : Mac} {interface : String} :
    (m, interface) ∈ map ↔ map.lookup m = some interface := by
  rw [List.lookup_eq_some_iff]
  constructor
  · intro member
    obtain ⟨before, after, rfl⟩ := List.append_of_mem member
    refine ⟨before, after, rfl, fun e earlier => ?_⟩
    have less := (List.pairwise_append.1 h).2.2 e earlier _ List.mem_cons_self
    exact bne_iff_ne.2 (Mac.ne_of_before less).symm
  · rintro ⟨before, after, rfl, -⟩
    simp

end HardwareMap

end Switch

/-! ## Rows -/

/-- The row tells where the host of a hardware address is: it names a VLAN interface, and the
address is read off its text. -/
def Adjacency.Locates (a : Adjacency) (m : Mac) : Prop :=
  Switch.isVlan a.interface = true ∧ ∃ raw ∈ a.mac, Mac.ofDotted? raw = some m

instance (a : Adjacency) (m : Mac) : Decidable (a.Locates m) := inferInstanceAs (Decidable (_ ∧ _))

/-- The row has no hardware address, or one that is refused, or it is about another interface. -/
def Adjacency.Useless (a : Adjacency) : Prop :=
  a.mac = none ∨ (∃ raw ∈ a.mac, Mac.ofDotted? raw = none) ∨ Switch.isVlan a.interface = false

/-- The second table has the rows of the first and, somewhere, one more. -/
def NeighborTable.Gains (a : Adjacency) (t u : NeighborTable) : Prop :=
  ∃ before after, t.adjacencies = before ++ after ∧ u.adjacencies = before ++ a :: after

/-- The row may be added to any family of any virtual router. -/
theorem NeighborTable.gains_row (a : Adjacency) (vrfs later : List NeighborVrf) (name : String)
    (families rest : List NeighborFamily) (family : String) (before after : List Adjacency) :
    Gains a ⟨vrfs ++ ⟨name, families ++ ⟨family, before ++ after⟩ :: rest⟩ :: later⟩
      ⟨vrfs ++ ⟨name, families ++ ⟨family, before ++ a :: after⟩ :: rest⟩ :: later⟩ := by
  let earlier := (NeighborTable.mk vrfs).adjacencies ++ families.flatMap NeighborFamily.adjacencies
  let behind := rest.flatMap NeighborFamily.adjacencies ++ (NeighborTable.mk later).adjacencies
  refine ⟨earlier ++ before, after ++ behind, ?_, ?_⟩
  · simp [adjacencies, earlier, behind]
  · simp [adjacencies, earlier, behind]

namespace Switch

namespace HardwareMap

theorem entry?_eq_some_iff {a : Adjacency} {e : Mac × String} :
    entry? a = some e ↔ a.Locates e.1 ∧ a.interface = e.2 := by
  unfold entry? Adjacency.Locates
  by_cases vlan : isVlan a.interface = true
  · rw [if_pos vlan]
    constructor
    · intro found
      obtain ⟨mac, read, rfl⟩ := Option.map_eq_some_iff.1 found
      exact ⟨⟨vlan, Option.bind_eq_some_iff.1 read⟩, rfl⟩
    · rintro ⟨⟨-, read⟩, same⟩
      exact Option.map_eq_some_iff.2 ⟨e.1, Option.bind_eq_some_iff.2 read, Prod.ext rfl same⟩
  · simp [vlan]

theorem entry?_eq_none_iff {a : Adjacency} : entry? a = none ↔ a.Useless := by
  unfold entry? Adjacency.Useless
  cases vlan : isVlan a.interface with
  | false => simp
  | true => cases mac : a.mac <;> simp

theorem ofAdjacencies_concat (as : List Adjacency) (a : Adjacency) :
    ofAdjacencies (as ++ [a]) =
      match entry? a with
      | some e => set e.1 e.2 (ofAdjacencies as)
      | none => ofAdjacencies as := by
  unfold ofAdjacencies
  rw [List.filterMap_append, List.foldl_append]
  cases entry : entry? a <;> simp [entry]

theorem ordered_ofAdjacencies (as : List Adjacency) : (ofAdjacencies as).Ordered := by
  induction as using List.reverseRecOn with
  | nil => exact .nil
  | append_singleton as a ih =>
    rw [ofAdjacencies_concat]
    split
    · exact ih.set _ _
    · exact ih

/-- An address is where the last row locates it that locates it at all. -/
theorem lookup_ofAdjacencies (as : List Adjacency) (m : Mac) :
    (ofAdjacencies as).lookup m =
      (as.filter fun a => a.Locates m).getLast?.map Adjacency.interface := by
  -- The induction is from the back, since the last row is the one that counts.
  induction as using List.reverseRecOn with
  | nil => rfl
  | append_singleton as a ih =>
    rw [ofAdjacencies_concat, List.filter_append]
    by_cases located : a.Locates m
    · have entry : entry? a = some (m, a.interface) := entry?_eq_some_iff.2 ⟨located, rfl⟩
      simp [entry, lookup_set, located]
    · have skipped : [a].filter (fun a => a.Locates m) = [] := by simp [located]
      rw [skipped, List.append_nil, ← ih]
      cases entry : entry? a with
      | none => rfl
      | some e =>
        obtain ⟨own, -⟩ := entry?_eq_some_iff.1 entry
        have other : m ≠ e.1 := fun same => located (same ▸ own)
        simp only [lookup_set, if_neg other]

theorem ofAdjacencies_of_useless {a : Adjacency} (h : a.Useless) (before after : List Adjacency) :
    ofAdjacencies (before ++ a :: after) = ofAdjacencies (before ++ after) := by
  have nothing : entry? a = none := entry?_eq_none_iff.2 h
  unfold ofAdjacencies
  simp only [List.filterMap_append, List.filterMap_cons, nothing]

end HardwareMap

/-- Two tables differ only in rows that locate nothing. -/
def SameNeighbors : NeighborTable → NeighborTable → Prop :=
  Relation.EqvGen fun t u => ∃ a : Adjacency, a.Useless ∧ t.Gains a u

/-- No number of useless rows, added or removed anywhere, changes the map. -/
theorem SameNeighbors.ofAdjacencies_eq {t u : NeighborTable} (h : SameNeighbors t u) :
    HardwareMap.ofAdjacencies t.adjacencies = HardwareMap.ofAdjacencies u.adjacencies := by
  induction h with
  | rel t u step =>
    obtain ⟨a, useless, before, after, less, more⟩ := step
    rw [less, more, HardwareMap.ofAdjacencies_of_useless useless]
  | refl t => rfl
  | symm t u _ ih => exact ih.symm
  | trans t u v _ _ first second => exact first.trans second

/-! ## Surveys -/

theorem surveyed_of_accepted {r : Reply} {x : Rpc.Response} {t : NeighborTable}
    (accepted : r.lookup = .ok x) (parsed : NeighborTable.output.parse x.result = .ok t) :
    surveyed r = .ok (.ofAdjacencies t.adjacencies) := by
  rw [surveyed, Reply.output_of_parsed accepted parsed]
  rfl

theorem surveyed_eq_error_iff {r : Reply} {f : Fault} :
    surveyed r = .error f ↔ r.lookup = .error f ∨
      ∃ x e, r.lookup = .ok x ∧ NeighborTable.output.parse x.result = .error e ∧
        f = .output e := by
  cases accepted : r.lookup with
  | error e => simp [surveyed, Reply.output_of_refused _ accepted, bind, Except.bind]
  | ok x =>
    cases parsed : NeighborTable.output.parse x.result with
    | error e =>
      simp [surveyed, Reply.output_of_unparsed accepted parsed, parsed, bind, Except.bind, eq_comm]
    | ok t => simp [surveyed_of_accepted accepted parsed, parsed]

end Switch

namespace Resync

open Switch

/-- With names for all interfaces only prefixes can be invalid. -/
theorem association_of_invalid {map : HardwareMap} (named : ∀ e ∈ map, ¬Text.Blank e.2)
    {store : LeaseStore} {l : Lease} (invalid : decide store map l = .error .invalid) :
    l.association = .pd := by
  by_cases active : l.isActive = true
  · simp only [decide, active, Bool.not_true, Bool.false_eq_true, ↓reduceIte] at invalid
    cases association : l.association with
    | pd => rfl
    | ta =>
      rw [association] at invalid
      cases invalid
    | na =>
      simp only [association, na] at invalid
      split at invalid
      · next interface seen =>
        obtain ⟨mac, -, found⟩ := Option.bind_eq_some_iff.1 seen
        obtain ⟨before, after, rfl, -⟩ := List.lookup_eq_some_iff.1 found
        have valid : (Payload.naApplyTo interface l.address).fault = none :=
          if_neg (named (mac, interface) (by simp))
        rw [intent?, Intent.make_of_valid none l.iaid l.duid valid] at invalid
        cases invalid
      · cases invalid
  · simp [decide, active] at invalid

theorem fate_eq_invalid_iff {decision : Except Skip Intent} :
    fate decision = .invalid ↔ decision = .error .invalid := by
  cases decision with
  | ok i => cases association : i.payload.association <;> simp [fate, association]
  | error s => cases s <;> simp [fate]

theorem report_invalid {map : HardwareMap} (named : ∀ e ∈ map, ¬Text.Blank e.2)
    (store : LeaseStore) :
    (report store map).invalid = store.toList.countP fun l =>
      l.association = .pd ∧ fate (decide store map l) = .invalid := by
  have counted := count_foldl (decisions store map) .empty (f := .invalid) nofun
  change (report store map).invalid = 0 + _ at counted
  rw [counted, Nat.zero_add, decisions, List.countP_map]
  refine List.countP_congr fun l _ => ?_
  simp only [Function.comp_apply, decide_eq_true_eq]
  constructor
  · intro invalid
    exact ⟨association_of_invalid named (fate_eq_invalid_iff.1 invalid), invalid⟩
  · exact And.right

end Resync

namespace Switch

/-- What a map tells of a table: an address has the interface of the last row that locates it.
All these interfaces are VLAN interfaces with a name, so a resync finds no fault with an address,
and what it counts as invalid are prefixes. -/
structure Charts (t : NeighborTable) (map : HardwareMap) : Prop where
  ordered : map.Ordered
  last : ∀ m interface, (m, interface) ∈ map ↔
    ∃ a, (t.adjacencies.filter fun a => a.Locates m).getLast? = some a ∧ a.interface = interface
  lookup : ∀ m interface, map.lookup m = some interface ↔ (m, interface) ∈ map
  vlan : ∀ e ∈ map, isVlan e.2 = true
  named : ∀ e ∈ map, ¬Text.Blank e.2
  valid : ∀ (store : LeaseStore) (l : Lease), l.association = .na →
    Resync.decide store map l ≠ .error .invalid
  counted : ∀ store : LeaseStore, (Resync.report store map).invalid = store.toList.countP fun l =>
    l.association = .pd ∧ Resync.fate (Resync.decide store map l) = .invalid

theorem charts_ofAdjacencies (t : NeighborTable) : Charts t (.ofAdjacencies t.adjacencies) := by
  have ordered := HardwareMap.ordered_ofAdjacencies t.adjacencies
  have vlan : ∀ e ∈ HardwareMap.ofAdjacencies t.adjacencies, isVlan e.2 = true :=
    fun e => HardwareMap.isVlan_of_mem_ofAdjacencies
  have named : ∀ e ∈ HardwareMap.ofAdjacencies t.adjacencies, ¬Text.Blank e.2 :=
    fun e member => not_blank_of_isVlan (vlan e member)
  refine ⟨ordered, ?_, fun m interface => ordered.mem_iff.symm, vlan, named, ?_, ?_⟩
  · intro m interface
    rw [ordered.mem_iff, HardwareMap.lookup_ofAdjacencies, Option.map_eq_some_iff]
  · intro store l address invalid
    have delegated := Resync.association_of_invalid named invalid
    rw [address] at delegated
    cases delegated
  · exact Resync.report_invalid named

/-- What a survey makes of a reply. A reply that is refused is the fault of the survey. Any other
gives the map that charts its table, and so does every reply with the same neighbors. -/
theorem survey_exact (r : Reply) :
    (∀ f, surveyed r = .error f ↔ r.lookup = .error f ∨
      ∃ x e, r.lookup = .ok x ∧ NeighborTable.output.parse x.result = .error e ∧
        f = .output e) ∧
    ∀ x t, r.lookup = .ok x → NeighborTable.output.parse x.result = .ok t →
      ∃ map, surveyed r = .ok map ∧ Charts t map ∧
        ∀ s y u, Reply.lookup s = .ok y → NeighborTable.output.parse y.result = .ok u →
          SameNeighbors t u → surveyed s = .ok map := by
  constructor
  · exact fun f => surveyed_eq_error_iff
  · intro x t accepted parsed
    refine ⟨_, surveyed_of_accepted accepted parsed, charts_ofAdjacencies t, ?_⟩
    intro s y u accepted' parsed' same
    rw [same.ofAdjacencies_eq]
    exact surveyed_of_accepted accepted' parsed'

end Switch

namespace Sample

open Switch

/-- A neighbor as the switch lists it. -/
def listing (a : Adjacency) : Json :=
  .obj (("intf-out", .str a.interface) :: (a.mac.map fun raw => ("mac", Json.str raw)).toList)

/-- The table of some neighbors, all in one virtual router. -/
def listed (as : List Adjacency) : Reply :=
  let family := Json.obj
    [("TABLE_adj", .obj [("ROW_adj", .arr (as.map listing))]), ("afi", .str "ipv6")]
  let vrf := Json.obj
    [("TABLE_afi", .obj [("ROW_afi", family)]), ("vrf-name-out", .str "default")]
  ⟨none, 200, [⟨.num 1, .obj [("body", .obj [("TABLE_vrf", .obj [("ROW_vrf", vrf)])])]⟩], none⟩

def here : Adjacency := ⟨"Vlan5", none, some "0242.0000.0001"⟩

def there : Adjacency := ⟨"Vlan6", none, some "0242.0000.0001"⟩

/-- The address of this neighbor is not known. -/
def incomplete : Adjacency := ⟨"Vlan7", none, some "incomplete"⟩

end Sample

open Sample in
/-- A host is where it was seen last, with or without a neighbor that cannot be read. -/
theorem Switch.survey_exact_moved :
    ∃ map, surveyed (listed [here, there]) = .ok map ∧ map.lookup mac = some "Vlan6" ∧
      surveyed (listed [here, incomplete, there]) = .ok map := by
  obtain ⟨-, exact⟩ := survey_exact (listed [here, there])
  obtain ⟨map, told, charts, same⟩ :=
    exact _ ⟨[⟨"default", [⟨"ipv6", [here] ++ [there]⟩]⟩]⟩ rfl rfl
  have located : (mac, "Vlan6") ∈ map := (charts.last _ _).2 ⟨there, by decide, rfl⟩
  have useless : incomplete.Useless := .inr (.inl ⟨_, rfl, by decide⟩)
  have gains := NeighborTable.gains_row incomplete [] [] "default" [] [] "ipv6" [here] [there]
  exact ⟨map, told, (charts.lookup _ _).2 located,
    same (listed [here, incomplete, there]) _ _ rfl rfl (.rel _ _ ⟨incomplete, useless, gains⟩)⟩

end LeaseRoutes
