import LeaseRoutes.Switch.Survey
import LeaseRoutes.Text.Class
import Mathlib.Data.List.TakeWhile

namespace LeaseRoutes

namespace Text

theorem blank_iff {s : String} : Blank s ↔ ∀ c ∈ s.toList, isBlank c = true := by
  simp only [Blank, trim, List.reverse_eq_nil_iff, List.dropWhile_eq_nil_iff, List.mem_reverse]
  constructor
  · intro rest c hc
    rw [← List.takeWhile_append_dropWhile (p := isBlank) (l := s.toList)] at hc
    rcases List.mem_append.1 hc with hc | hc
    · exact List.mem_takeWhile_imp hc
    · exact rest c hc
  · intro all c hc
    exact all c ((List.dropWhile_sublist _).subset hc)

end Text

namespace Switch

theorem not_blank_of_isVlan {name : String} (h : isVlan name = true) : ¬Text.Blank name := by
  intro blank
  unfold isVlan at h
  split at h
  · next v l a n number chars =>
    have first : Text.isBlank v = true := Text.blank_iff.1 blank v (by simp [chars])
    simp only [Bool.and_eq_true, Bool.or_eq_true, beq_iff_eq] at h
    rcases h.1.1.1.1.1 with rfl | rfl
    · exact absurd first (by decide)
    · exact absurd first (by decide)
  · exact absurd h (by decide)

namespace HardwareMap

theorem mem_set {e : Mac × String} {mac : Mac} {interface : String} {map : HardwareMap}
    (h : e ∈ set mac interface map) : e = (mac, interface) ∨ e ∈ map := by
  induction map with
  | nil => exact .inl (List.mem_singleton.1 h)
  | cons first rest ih =>
    obtain ⟨m, i⟩ := first
    simp only [set] at h
    split at h
    · rcases List.mem_cons.1 h with h | h
      · exact .inl h
      · exact .inr (List.mem_cons_of_mem _ h)
    · split at h
      · rcases List.mem_cons.1 h with h | h
        · exact .inl h
        · exact .inr h
      · rcases List.mem_cons.1 h with h | h
        · exact .inr (h ▸ List.mem_cons_self)
        · rcases ih h with h | h
          · exact .inl h
          · exact .inr (List.mem_cons_of_mem _ h)

theorem isVlan_of_entry? {a : Adjacency} {e : Mac × String} (h : entry? a = some e) :
    isVlan e.2 = true := by
  unfold entry? at h
  split at h
  · next vlan =>
    obtain ⟨mac, _, rfl⟩ := Option.map_eq_some_iff.1 h
    exact vlan
  · cases h

theorem mem_foldl_set {e : Mac × String} {entries : List (Mac × String)} {map : HardwareMap}
    (h : e ∈ entries.foldl (fun map e => set e.1 e.2 map) map) : e ∈ entries ∨ e ∈ map := by
  induction entries generalizing map with
  | nil => exact .inr h
  | cons first entries ih =>
    rcases ih h with h | h
    · exact .inl (List.mem_cons_of_mem _ h)
    · rcases mem_set h with h | h
      · exact .inl (h ▸ List.mem_cons_self)
      · exact .inr h

theorem isVlan_of_mem_ofAdjacencies {e : Mac × String} {as : List Adjacency}
    (h : e ∈ ofAdjacencies as) : isVlan e.2 = true := by
  rcases mem_foldl_set h with h | h
  · obtain ⟨a, _, ha⟩ := List.mem_filterMap.1 h
    exact isVlan_of_entry? ha
  · cases h

end HardwareMap

theorem isVlan_of_surveyed {r : Reply} {map : HardwareMap} (h : surveyed r = .ok map)
    {e : Mac × String} (he : e ∈ map) : isVlan e.2 = true := by
  cases out : r.output NeighborTable.output with
  | error f => simp [surveyed, out, bind, Except.bind] at h
  | ok table =>
    simp only [surveyed, out, bind, Except.bind, pure, Except.pure, Except.ok.injEq] at h
    exact HardwareMap.isVlan_of_mem_ofAdjacencies (h ▸ he)

/-- A survey leads a hardware address to an interface that has a name. -/
theorem not_blank_of_lookup {r : Reply} {map : HardwareMap} (h : surveyed r = .ok map) {mac : Mac}
    {interface : String} (found : map.lookup mac = some interface) : ¬Text.Blank interface := by
  obtain ⟨before, after, rfl, _⟩ := List.lookup_eq_some_iff.1 found
  exact not_blank_of_isVlan (isVlan_of_surveyed h (e := (mac, interface)) (by simp))

end Switch

end LeaseRoutes
