import LeaseRoutes.Proofs.Heartbeat.Regression
import LeaseRoutes.Proofs.Text.Numeral
import Mathlib.Algebra.Group.Nat.Defs

namespace LeaseRoutes

namespace Uptime

/-! ## The sum -/

/-- The seconds, however many. -/
def exact (u : Uptime) : Nat :=
  86400 * u.days.toNat + 3600 * u.hours.toNat + 60 * u.minutes.toNat + u.seconds.toNat

/-- The word is the number, or the largest word if the number is larger. -/
def Caps (w : UInt64) (n : Nat) : Prop := w.toNat = min (2 ^ 64 - 1) n

theorem caps_toNat (w : UInt64) : Caps w w.toNat := by
  have small := w.toNat_lt
  unfold Caps
  omega

theorem caps_largest {n : Nat} (h : 2 ^ 64 ≤ n) : Caps largest n := by
  change 2 ^ 64 - 1 = _
  omega

theorem Caps.addUpTo {a b : UInt64} {m n : Nat} (h : Caps a m) (k : Caps b n) :
    Caps (addUpTo a b) (m + n) := by
  have small := a.toNat_lt
  have small' := b.toNat_lt
  have sum := UInt64.toNat_add a b
  unfold Caps at h k
  unfold Uptime.addUpTo
  split
  · next wrapped =>
    -- A sum of words that is less than one of them is one that has wrapped.
    rw [UInt64.lt_iff_toNat_lt] at wrapped
    exact caps_largest (by omega)
  · next within =>
    rw [UInt64.lt_iff_toNat_lt] at within
    unfold Caps
    omega

theorem caps_mulUpTo (a b : UInt64) : Caps (mulUpTo a b) (a.toNat * b.toNat) := by
  have size : Text.word64 = 2 ^ 64 := rfl
  unfold mulUpTo
  split
  · next fits =>
    have product : (a * b).toNat = a.toNat * b.toNat := by
      rw [UInt64.toNat_mul, Nat.mod_eq_of_lt (size ▸ fits)]
    exact product ▸ caps_toNat (a * b)
  · next large => exact caps_largest (by omega)

/-- Stopping at the largest word on the way is the same as stopping there at the end. -/
theorem toNat_total (u : Uptime) : u.total.toNat = min (2 ^ 64 - 1) u.exact := by
  have sum : u.exact = u.seconds.toNat + u.minutes.toNat * 60 + u.hours.toNat * 3600 +
      u.days.toNat * 86400 := by
    unfold exact
    omega
  have minutes : Caps (mulUpTo u.minutes 60) (u.minutes.toNat * 60) := caps_mulUpTo _ _
  have hours : Caps (mulUpTo u.hours 3600) (u.hours.toNat * 3600) := caps_mulUpTo _ _
  have days : Caps (mulUpTo u.days 86400) (u.days.toNat * 86400) := caps_mulUpTo _ _
  rw [sum]
  exact (((caps_toNat u.seconds).addUpTo minutes).addUpTo hours).addUpTo days

theorem total_le {u v : Uptime} (h : u.exact ≤ v.exact) : u.total ≤ v.total := by
  rw [UInt64.le_iff_toNat_le, toNat_total, toNat_total]
  omega

/-- No part of the first is larger than that of the second. -/
structure Within (u v : Uptime) : Prop where
  days : u.days ≤ v.days
  hours : u.hours ≤ v.hours
  minutes : u.minutes ≤ v.minutes
  seconds : u.seconds ≤ v.seconds

theorem Within.exact_le {u v : Uptime} (h : u.Within v) : u.exact ≤ v.exact := by
  obtain ⟨days, hours, minutes, seconds⟩ := h
  rw [UInt64.le_iff_toNat_le] at days hours minutes seconds
  unfold exact
  omega

/-- A number of seconds in days, hours, minutes and seconds. -/
def ofSeconds (n : UInt64) : Uptime :=
  ⟨n / 86400, n % 86400 / 3600, n % 3600 / 60, n % 60⟩

theorem exact_ofSeconds (n : UInt64) : (ofSeconds n).exact = n.toNat := by
  have minute : (60 : UInt64).toNat = 60 := rfl
  have hour : (3600 : UInt64).toNat = 3600 := rfl
  have day : (86400 : UInt64).toNat = 86400 := rfl
  simp only [exact, ofSeconds, UInt64.toNat_div, UInt64.toNat_mod, minute, hour, day]
  omega

theorem total_eq_of_exact {u : Uptime} {n : UInt64} (h : u.exact = n.toNat) : u.total = n := by
  have small := n.toNat_lt
  rw [← UInt64.toNat_inj, toNat_total, h]
  omega

/-! ## The parts -/

/-- A value that stands for a number: the number, or a numeral with blank characters around it. -/
inductive Writes (n : UInt64) : Json → Prop
  | number : Writes n (.num (.whole n.toNat))
  | text {before cs after : List Char} (blank : Text.AllBlank before)
      (numeral : Text.Spells n.toNat cs) (blank' : Text.AllBlank after) :
      Writes n (.str (String.ofList (before ++ cs ++ after)))

theorem part_number {i : Int} {n : UInt64} :
    part (.num (.whole i)) = .ok n ↔ Writes n (.num (.whole i)) := by
  constructor
  · intro read
    simp only [part] at read
    split at read
    · next fits =>
      obtain ⟨k, rfl⟩ := Int.eq_ofNat_of_zero_le fits.1
      cases read
      have written : Writes (UInt64.ofNat k) _ := .number
      have value : (UInt64.ofNat k).toNat = k := UInt64.toNat_ofNat_of_lt (Int.ofNat_lt.1 fits.2)
      rwa [value] at written
    · cases read
  · rintro ⟨⟩
    have fits : 0 ≤ (n.toNat : Int) ∧ (n.toNat : Int) < Text.word64 :=
      ⟨Int.natCast_nonneg _, Int.ofNat_lt.2 n.toNat_lt⟩
    simp only [part, if_pos fits, Int.toNat_natCast, UInt64.ofNat_toNat]

theorem part_text {s : String} {n : UInt64} : part (.str s) = .ok n ↔ Writes n (.str s) := by
  constructor
  · intro read
    simp only [part] at read
    split at read
    · next k bounded =>
      cases read
      obtain ⟨numeral, fits⟩ := Text.bounded_eq_ok_iff.1 bounded
      obtain ⟨before, after, blank, blank', shape⟩ := Text.exists_append_trim s.toList
      have value : (UInt64.ofNat k).toNat = k := UInt64.toNat_ofNat_of_lt fits
      rw [← value] at numeral
      have text := Writes.text blank numeral blank'
      rwa [← shape, String.ofList_toList] at text
    · cases read
  · rintro (_ | @⟨before, cs, after, blank, numeral, blank'⟩)
    have bounded : Text.bounded Text.word64 cs = .ok n.toNat :=
      Text.bounded_eq_ok_iff.2 ⟨numeral, n.toNat_lt⟩
    simp only [part, String.toList_ofList, numeral.trim_append blank blank', bounded,
      UInt64.ofNat_toNat]

theorem part_eq_ok_iff {j : Json} {n : UInt64} : part j = .ok n ↔ Writes n j := by
  cases j with
  | num x =>
    cases x with
    | whole i => exact part_number
    | real => exact ⟨nofun, nofun⟩
  | str s => exact part_text
  | null | bool | arr | obj => exact ⟨nofun, nofun⟩

/-- The member of this name is there and writes the number. -/
def Gives (members : List (String × Json)) (name : String) (n : UInt64) : Prop :=
  ∃ j, members.lookup name = some j ∧ Writes n j

/-- The members write the parts of the uptime, whatever else there is. -/
structure Told (u : Uptime) (members : List (String × Json)) : Prop where
  days : Gives members "kern_uptm_days" u.days
  hours : Gives members "kern_uptm_hrs" u.hours
  minutes : Gives members "kern_uptm_mins" u.minutes
  seconds : Gives members "kern_uptm_secs" u.seconds

section Members

variable {members : List (String × Json)}

theorem member_eq_ok_iff {name : String} {n : UInt64} :
    member members name = .ok n ↔ Gives members name n := by
  unfold member Gives
  cases members.lookup name with
  | none => simp
  | some j => simp [part_eq_ok_iff]

theorem present_of_gives {names : List String} (h : ∀ name ∈ names, ∃ n, Gives members name n) :
    present members names = .ok () := by
  induction names with
  | nil => rfl
  | cons name names ih =>
    obtain ⟨⟨n, j, found, written⟩, others⟩ := List.forall_mem_cons.1 h
    simp only [present, found, part_eq_ok_iff.2 written]
    exact ih others

/-- Each of the four members is there. -/
theorem Told.gives {u : Uptime} (h : u.Told members) :
    ∀ name ∈ names, ∃ n, Gives members name n := by
  obtain ⟨days, hours, minutes, seconds⟩ := h
  intro name required
  simp only [names, List.mem_cons, List.not_mem_nil, or_false] at required
  rcases required with rfl | rfl | rfl | rfl
  · exact ⟨_, days⟩
  · exact ⟨_, hours⟩
  · exact ⟨_, minutes⟩
  · exact ⟨_, seconds⟩

theorem read_eq_ok_iff {u : Uptime} : read (.obj members) = .ok u ↔ u.Told members := by
  constructor
  · intro read
    simp only [Uptime.read, bind_eq_ok_iff] at read
    obtain ⟨_, -, d, days, h, hours, m, minutes, s, seconds, same⟩ := read
    cases same
    exact ⟨member_eq_ok_iff.1 days, member_eq_ok_iff.1 hours, member_eq_ok_iff.1 minutes,
      member_eq_ok_iff.1 seconds⟩
  · intro told
    have all := present_of_gives told.gives
    obtain ⟨days, hours, minutes, seconds⟩ := told
    rw [← member_eq_ok_iff] at days hours minutes seconds
    simp only [Uptime.read, all, days, hours, minutes, seconds, bind, Except.bind]
    rfl

end Members

end Uptime

namespace Heartbeat

open Switch (Reply)

/-! ## Replies -/

/-- A clean reply with the status 200 whose first result has this body. -/
structure Carries (r : Reply) (body : Json) : Prop where
  exchanged : r.transport = none
  clean : r.exception = none
  status : r.status = 200
  body : ∃ first rest, r.results = first :: rest ∧ first.result.get? "body" = some body

/-- The reply has a body that tells this uptime. -/
def Tells (r : Reply) (u : Uptime) : Prop := ∃ members, Carries r (.obj members) ∧ u.Told members

theorem Carries.lookup {r : Reply} {members : List (String × Json)}
    (h : Carries r (.obj members)) :
    ∃ x, r.lookup = .ok x ∧ Output.body? x.result = some (.obj members) := by
  obtain ⟨exchanged, clean, status, first, rest, results, body⟩ := h
  refine ⟨first, ?_, ?_⟩
  · simp only [Reply.lookup, exchanged, clean, status, results, ↓reduceIte]
  · rw [Output.body?, body]

theorem outcome_of_tells {r : Reply} {u : Uptime} (h : Tells r u) : outcome r = .ok u.total := by
  obtain ⟨members, carries, told⟩ := h
  obtain ⟨x, accepted, body⟩ := carries.lookup
  have parsed : Uptime.output.parse x.result = .ok u := by
    simp only [Output.parse, body, Uptime.output, Uptime.read_eq_ok_iff.2 told]
  rw [outcome, Reply.output_of_parsed accepted parsed]
  rfl

/-- An object that does not tell an uptime is reported as unreadable. -/
theorem outcome_of_untold {r : Reply} {members : List (String × Json)}
    (h : Carries r (.obj members)) (untold : ∀ u : Uptime, ¬u.Told members) :
    ∃ f, outcome r = .error (.output (.unreadable "UptimeResponse" f)) := by
  obtain ⟨x, accepted, body⟩ := h.lookup
  cases read : Uptime.read (.obj members) with
  | ok u => exact absurd (Uptime.read_eq_ok_iff.1 read) (untold u)
  | error f =>
    have unparsed : Uptime.output.parse x.result = .error (.unreadable "UptimeResponse" f) := by
      simp only [Output.parse, body, Uptime.output, read]
    refine ⟨f, ?_⟩
    rw [outcome, Reply.output_of_unparsed accepted unparsed]
    rfl

/-! ## Growing uptimes -/

/-- Probes in a row, with the uptimes that their replies tell. None is behind an earlier one. -/
structure Growing (probes : List (Reply × Uptime)) : Prop where
  told : ∀ p ∈ probes, Tells p.1 p.2
  ordered : probes.Pairwise fun p q => p.2.exact ≤ q.2.exact

theorem Growing.tail {p : Reply × Uptime} {probes : List (Reply × Uptime)}
    (h : Growing (p :: probes)) : Growing probes :=
  ⟨fun q member => h.told q (List.mem_cons_of_mem p member), (List.pairwise_cons.1 h.ordered).2⟩

namespace Monitor

/-- A monitor that is up and ahead of none of the uptimes finds every probe steady. -/
theorem run_steady {m : Monitor} {probes : List (Reply × Uptime)} (h : Growing probes)
    (up : m.state.lost = false) (behind : ∀ p ∈ probes, m.state.previous ≤ p.2.total) :
    (m.run (probes.map fun p => .probed p.1)).1 = List.replicate probes.length .steady := by
  induction probes generalizing m with
  | nil => rfl
  | cons p probes ih =>
    have good := outcome_of_tells (h.told p List.mem_cons_self)
    have level : ¬(m.state.lost = true ∨ p.2.total < m.state.previous) := by
      simp [up, UInt64.not_lt.2 (behind p List.mem_cons_self)]
    have one : m.take p.1 = (.steady, m.steady p.2.total) :=
      (take_of_ok m good).trans (if_neg level)
    have later (q) (member : q ∈ probes) : p.2.total ≤ q.2.total :=
      Uptime.total_le ((List.pairwise_cons.1 h.ordered).1 q member)
    have others := ih h.tail (m := m.steady p.2.total) rfl later
    simp only [List.map_cons, run, feed, one, others]
    rfl

/-- Whatever the monitor has seen before, only the first of growing uptimes may be no steady
one. -/
theorem steady_of_growing (m : Monitor) {p : Reply × Uptime} {probes : List (Reply × Uptime)}
    (h : Growing (p :: probes)) : (m.run ((p :: probes).map fun p => .probed p.1)).1 =
      (m.take p.1).1 :: List.replicate probes.length .steady := by
  have good := outcome_of_tells (h.told p List.mem_cons_self)
  have later (q) (member : q ∈ probes) : p.2.total ≤ q.2.total :=
    Uptime.total_le ((List.pairwise_cons.1 h.ordered).1 q member)
  have next : (m.take p.1).2.state.lost = false ∧
      ∀ q ∈ probes, (m.take p.1).2.state.previous ≤ q.2.total := by
    rw [take_of_ok m good]
    split
    · exact ⟨rfl, fun q _ => UInt64.zero_le⟩
    · exact ⟨rfl, later⟩
  have others := run_steady h.tail next.1 next.2
  simp only [List.map_cons, run, feed, others]
  rfl

end Monitor

/-! ## The outcome of a probe -/

/-- A good reply gives the exact sum of its parts, or the largest word if that is smaller. It is no
less for a reply no part of which is less, growing uptimes are never a discontinuity, and a number
of seconds comes back from its parts. A reply that is refused, has no body or does not tell all
four parts gives none. -/
theorem outcome_exact :
    (∀ r u, Tells r u → (outcome r).map UInt64.toNat = .ok (min (2 ^ 64 - 1) u.exact)) ∧
    (∀ r s u v, Tells r u → Tells s v → u.Within v →
      ∃ a b, outcome r = .ok a ∧ outcome s = .ok b ∧ a ≤ b) ∧
    (∀ (m : Monitor) p probes, Growing (p :: probes) →
      (m.run ((p :: probes).map fun p => .probed p.1)).1 =
        (m.take p.1).1 :: List.replicate probes.length .steady) ∧
    (∀ r n, Tells r (.ofSeconds n) → outcome r = .ok n) ∧
    (∀ r e, r.lookup = .error e → outcome r = .error e) ∧
    (∀ r x, r.lookup = .ok x → Output.body? x.result = none →
      outcome r = .error (.output (.missing "UptimeResponse"))) ∧
    ∀ r members name, Carries r (.obj members) → name ∈ Uptime.names →
      (∀ n, ¬Uptime.Gives members name n) → ∃ e, outcome r = .error e := by
  refine ⟨?exact, ?monotone, ?growing, ?seconds, ?refused, ?absent, ?untold⟩
  case exact =>
    intro r u told
    rw [outcome_of_tells told, Except.map, Uptime.toNat_total]
  case monotone =>
    intro r s u v first second within
    exact ⟨_, _, outcome_of_tells first, outcome_of_tells second, Uptime.total_le within.exact_le⟩
  case growing =>
    intro m p probes growing
    exact m.steady_of_growing growing
  case seconds =>
    intro r n told
    rw [outcome_of_tells told, Uptime.total_eq_of_exact (Uptime.exact_ofSeconds n)]
  case refused =>
    intro r e refused
    rw [outcome, Reply.output_of_refused _ refused]
    rfl
  case absent =>
    intro r x accepted none
    have unparsed : Uptime.output.parse x.result = .error (.missing "UptimeResponse") := by
      simp only [Output.parse, none, Uptime.output]
    rw [outcome, Reply.output_of_unparsed accepted unparsed]
    rfl
  case untold =>
    intro r members name carries required untold
    have none (u : Uptime) (told : u.Told members) : False := by
      obtain ⟨n, gives⟩ := told.gives name required
      exact untold n gives
    obtain ⟨f, error⟩ := outcome_of_untold carries none
    exact ⟨_, error⟩

/-- A reply in which the days are as many as a word can count. The minutes are left out if there
are none. -/
def longUp (minutes : Option String) : Reply :=
  let uptime := [("kern_uptm_days", .str " +018446744073709551615\t"),
    ("kern_uptm_hrs", .num (.whole 1))] ++
    minutes.toList.map (fun text => ("kern_uptm_mins", .str text)) ++
    [("kern_uptm_secs", .str "00"), ("kickstart_ver_str", .str "10.2(5)")]
  ⟨none, 200, [⟨.num 1, .obj [("body", .obj uptime)]⟩], none⟩

/-- The sum stops at the largest word, and the monitor takes it for no restart. A reply without
minutes tells nothing. -/
theorem outcome_exact_long :
    (outcome (longUp (some "007"))).map UInt64.toNat = .ok (2 ^ 64 - 1) ∧
    (Monitor.fresh.run [.probed (upFor 1 40), .probed (longUp (some "007")),
      .probed (longUp (some "007"))]).1 = [.discontinuity, .steady, .steady] ∧
    ∃ e, outcome (longUp none) = .error e := by
  obtain ⟨exact, -, growing, -, -, -, untold⟩ := outcome_exact
  have short : Tells (upFor 1 40) ⟨0, 0, 1, 40⟩ :=
    ⟨_, ⟨rfl, rfl, rfl, _, _, rfl, rfl⟩, ⟨_, rfl, .number⟩, ⟨_, rfl, .number⟩, ⟨_, rfl, .number⟩,
      ⟨_, rfl, .number⟩⟩
  have long : Tells (longUp (some "007")) ⟨18446744073709551615, 1, 7, 0⟩ :=
    ⟨_, ⟨rfl, rfl, rfl, _, _, rfl, rfl⟩, ⟨_, rfl, Uptime.part_eq_ok_iff.1 rfl⟩, ⟨_, rfl, .number⟩,
      ⟨_, rfl, Uptime.part_eq_ok_iff.1 rfl⟩, ⟨_, rfl, Uptime.part_eq_ok_iff.1 rfl⟩⟩
  refine ⟨?_, ?_, ?_⟩
  · rw [exact _ _ long]
    rfl
  · have ordered : Growing [(upFor 1 40, ⟨0, 0, 1, 40⟩),
        (longUp (some "007"), ⟨18446744073709551615, 1, 7, 0⟩),
        (longUp (some "007"), ⟨18446744073709551615, 1, 7, 0⟩)] :=
      ⟨by simp [short, long], by decide⟩
    exact growing .fresh _ _ ordered
  · refine untold _ _ "kern_uptm_mins" ⟨rfl, rfl, rfl, _, _, rfl, rfl⟩ (by decide) ?_
    rintro n ⟨j, found, -⟩
    cases found

end Heartbeat

end LeaseRoutes
