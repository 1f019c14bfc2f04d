import LeaseRoutes.Json.Reader
import LeaseRoutes.Proofs.Json.RoundTrip
import Mathlib.Data.List.Nodup
import Mathlib.Data.List.Perm.Basic

namespace LeaseRoutes.Json

open Document

/-! ## Records -/

/-- The members of an object with these keys. -/
def Document.named (members : List (String × Document)) : List (Document × Document) :=
  members.map fun m => (.str m.1, m.2)

/-- What is written of one field: the trees that its value has, and whether it may be left out. -/
structure Slot where
  name : String
  spare : Prop
  writes : Document → Prop

namespace Slot

def required (name : String) (writes : α → Document → Prop) (a : α) : Slot :=
  ⟨name, False, writes a⟩

/-- A field that may be left out if it has its default. -/
def defaulted (name : String) (default : α) (writes : α → Document → Prop) (a : α) : Slot :=
  ⟨name, a = default, writes a⟩

end Slot

/-- What is absent is written as `null`. -/
def orNull (writes : α → Document → Prop) : Option α → Document → Prop
  | some a, d => writes a d
  | none, d => d = .null

/-- A field that may be absent. -/
def Slot.optional (name : String) (writes : α → Document → Prop) (a : Option α) : Slot :=
  .defaulted name none (orNull writes) a

/-- The fields that were not left out. -/
inductive Kept : List Slot → List (String × Document) → Prop
  | nil : Kept [] []
  | write {slot : Slot} {slots : List Slot} {d : Document} {kept : List (String × Document)}
      (written : slot.writes d) (others : Kept slots kept) :
      Kept (slot :: slots) ((slot.name, d) :: kept)
  | leave {slot : Slot} {slots : List Slot} {kept : List (String × Document)}
      (spare : slot.spare) (others : Kept slots kept) : Kept (slot :: slots) kept

/-- An object with the fields in any order and among them other members, whose values are some that
`extra` allows. -/
inductive Records (extra : Document → Prop) (slots : List Slot) : Document → Prop
  | members {members kept others : List (String × Document)} (fields : Kept slots kept)
      (foreign : ∀ m ∈ others, m.1 ∉ slots.map Slot.name ∧ extra m.2)
      (order : members.Perm (kept ++ others)) : Records extra slots (.obj (named members) true)

/-- The value is read from every tree that it has. -/
def Reader.Reads (read : Reader α) (writes : α → Document → Prop) (a : α) : Prop :=
  ∀ source d, writes a d → d.skips = true → read source d = .ok a

/-- The field reads `a` in the slot, or stands for it if the slot is left out. -/
structure Field.Reads (f : Field α) (slot : Slot) (a : α) : Prop where
  name : f.name = slot.name
  written : ∀ source d, slot.writes d → d.skips = true → f.read source d = .ok a
  absent : slot.spare → f.absent = some a

/-! ## Kept fields -/

namespace Kept

variable {slots : List Slot} {kept : List (String × Document)}

theorem sublist (h : Kept slots kept) :
    (kept.map Prod.fst).Sublist (slots.map Slot.name) := by
  induction h with
  | nil => exact .slnil
  | write _ _ ih => exact .cons_cons _ ih
  | leave _ _ ih => exact .cons _ ih

theorem slot_of_mem (h : Kept slots kept) {m : String × Document} (member : m ∈ kept) :
    ∃ slot ∈ slots, slot.name = m.1 ∧ slot.writes m.2 := by
  induction h with
  | nil => cases member
  | write written _ ih =>
    rcases List.mem_cons.1 member with rfl | member
    · exact ⟨_, List.mem_cons_self, rfl, written⟩
    · obtain ⟨slot, among, found⟩ := ih member
      exact ⟨slot, List.mem_cons_of_mem _ among, found⟩
  | leave _ _ ih =>
    obtain ⟨slot, among, found⟩ := ih member
    exact ⟨slot, List.mem_cons_of_mem _ among, found⟩

/-- A field is there, or it was left out. -/
theorem written_or_left (h : Kept slots kept) (distinct : (slots.map Slot.name).Nodup)
    {slot : Slot} (among : slot ∈ slots) :
    (∃ d, (slot.name, d) ∈ kept ∧ slot.writes d) ∨
      (slot.spare ∧ slot.name ∉ kept.map Prod.fst) := by
  induction h with
  | nil => cases among
  | write written others ih =>
    obtain ⟨new, distinct⟩ := List.nodup_cons.1 distinct
    rcases List.mem_cons.1 among with rfl | among
    · exact .inl ⟨_, List.mem_cons_self, written⟩
    · rcases ih distinct among with ⟨d, member, writes⟩ | ⟨spare, absent⟩
      · exact .inl ⟨d, List.mem_cons_of_mem _ member, writes⟩
      · refine .inr ⟨spare, ?_⟩
        rw [List.map_cons, List.mem_cons, not_or]
        refine ⟨fun same => new ?_, absent⟩
        have named := List.mem_map_of_mem (f := Slot.name) among
        rwa [same] at named
  | leave spare others ih =>
    obtain ⟨new, distinct⟩ := List.nodup_cons.1 distinct
    rcases List.mem_cons.1 among with rfl | among
    · exact .inr ⟨spare, fun member => new (others.sublist.subset member)⟩
    · exact ih distinct among

end Kept

/-! ## The fields that are found -/

theorem lookup_of_mem {found : List (String × Document)} {key : String} {d : Document}
    (distinct : (found.map Prod.fst).Nodup) (member : (key, d) ∈ found) :
    found.lookup key = some d := by
  obtain ⟨before, after, rfl⟩ := List.append_of_mem member
  refine List.lookup_eq_some_iff.2 ⟨before, after, rfl, fun m among => ?_⟩
  rw [List.map_append, List.map_cons, List.nodup_middle, List.nodup_cons] at distinct
  rw [bne_iff_ne]
  intro same
  have earlier := List.mem_map_of_mem (f := Prod.fst) among
  rw [← same] at earlier
  exact distinct.1 (List.mem_append_left _ earlier)

/-- Whichever fields were left out, and whatever their order, the value of each is got. -/
theorem Field.Reads.get {f : Field α} {slot : Slot} {a : α} (reads : f.Reads slot a)
    {slots : List Slot} {kept found : List (String × Document)} (fields : Kept slots kept)
    (distinct : (slots.map Slot.name).Nodup) (order : found.Perm kept) (among : slot ∈ slots)
    (skip : ∀ m ∈ kept, m.2.skips = true) (source : Source) : f.get source found = .ok a := by
  have keys : (found.map Prod.fst).Perm (kept.map Prod.fst) := order.map _
  rw [Field.get, reads.name]
  rcases fields.written_or_left distinct among with ⟨d, member, writes⟩ | ⟨spare, absent⟩
  · have once := keys.nodup_iff.2 (fields.sublist.nodup distinct)
    rw [lookup_of_mem once (order.mem_iff.2 member)]
    exact reads.written source d writes (skip _ member)
  · have none : found.lookup slot.name = none := by
      rw [List.lookup_eq_none_iff]
      intro m among
      rw [bne_iff_ne]
      rintro same
      exact absent (same ▸ keys.subset (List.mem_map_of_mem among))
    rw [none, reads.absent spare]

theorem Field.Reads.check {f : Field α} {slot : Slot} {a : α} (reads : f.Reads slot a) :
    f.check.Reads slot () where
  name := reads.name
  written source d writes skips := by
    simp only [Field.check, reads.written source d writes skips]
    rfl
  absent spare := by
    simp only [Field.check, reads.absent spare]
    rfl

namespace Schema

theorem find?_of_mem {fields : List (Field Unit)} (distinct : (fields.map Field.name).Nodup)
    {f : Field Unit} (among : f ∈ fields) :
    (fields.find? fun g => g.name = f.name) = some f := by
  cases found : fields.find? fun g => g.name = f.name with
  | none => exact absurd (decide_eq_true rfl) (List.find?_eq_none.1 found f among)
  | some g =>
    have same : g.name = f.name := by simpa using List.find?_some found
    rw [List.inj_on_of_nodup_map distinct (List.mem_of_find?_eq_some found) among same]

/-- A member is the value of a field, or is none and can be skipped. -/
def Takes (s : Schema) (source : Source) (m : String × Document) : Prop :=
  (∃ f ∈ s.fields, f.name = m.1 ∧ f.read source m.2 = .ok ()) ∨
    (m.1 ∉ s.fields.map Field.name ∧ m.2.skips = true)

/-- The members that are fields. -/
def known (s : Schema) (members : List (String × Document)) : List (String × Document) :=
  members.filter fun m => m.1 ∈ s.fields.map Field.name

variable {s : Schema} {source : Source}

theorem members_named (distinct : (s.fields.map Field.name).Nodup)
    {members : List (String × Document)} (takes : ∀ m ∈ members, s.Takes source m)
    (once : ((s.known members).map Prod.fst).Nodup) {seen : List String}
    (new : ∀ key ∈ (s.known members).map Prod.fst, key ∉ seen) :
    s.members source seen (named members) = .ok (s.known members) := by
  induction members generalizing seen with
  | nil => rfl
  | cons m members ih =>
    obtain ⟨key, d⟩ := m
    obtain ⟨first, others⟩ := List.forall_mem_cons.1 takes
    rw [named, List.map_cons, ← named, Schema.members]
    rcases first with ⟨f, among, rfl, read⟩ | ⟨foreign, skips⟩
    · have known : s.known ((f.name, d) :: members) = (f.name, d) :: s.known members :=
        List.filter_cons_of_pos (by simpa using ⟨f, among, rfl⟩)
      rw [known, List.map_cons] at once new
      obtain ⟨fresh, once⟩ := List.nodup_cons.1 once
      obtain ⟨unseen, new⟩ := List.forall_mem_cons.1 new
      have later : ∀ key ∈ (s.known members).map Prod.fst, key ∉ f.name :: seen := by
        intro key member
        rw [List.mem_cons, not_or]
        exact ⟨fun same => fresh (same ▸ member), new key member⟩
      rw [known, find?_of_mem distinct among]
      simp only [unseen, ↓reduceIte, read, ih others once later]
      rfl
    · have known : s.known ((key, d) :: members) = s.known members :=
        List.filter_cons_of_neg (by simpa using foreign)
      have none : (s.fields.find? fun g => g.name = key) = none := by
        rw [List.find?_eq_none]
        intro f among
        rw [decide_eq_true_iff]
        rintro rfl
        exact foreign (List.mem_map_of_mem among)
      rw [known] at once new ⊢
      rw [none]
      simp only [skips, ↓reduceIte]
      exact ih others once new

end Schema

theorem skips_named {members : List (String × Document)} :
    (Document.obj (named members) true).skips = true ↔ ∀ m ∈ members, m.2.skips = true := by
  rw [Document.skips, Bool.and_true]
  induction members with
  | nil => simp [named, skipsMembers]
  | cons m members ih =>
    rw [named, List.map_cons, ← named, skipsMembers, Bool.and_eq_true, ih, List.forall_mem_cons]
    exact Iff.rfl

section Fields

variable {fields : List (Field Unit)} {slots : List Slot}

theorem names_eq (h : List.Forall₂ (fun f slot => f.Reads slot ()) fields slots) :
    fields.map Field.name = slots.map Slot.name := by
  induction h with
  | nil => rfl
  | cons reads _ ih => rw [List.map_cons, List.map_cons, reads.name, ih]

theorem field_of_slot (h : List.Forall₂ (fun f slot => f.Reads slot ()) fields slots)
    {slot : Slot} (among : slot ∈ slots) : ∃ f ∈ fields, f.Reads slot () := by
  induction h with
  | nil => cases among
  | cons reads _ ih =>
    rcases List.mem_cons.1 among with rfl | among
    · exact ⟨_, List.mem_cons_self, reads⟩
    · obtain ⟨f, member, reads⟩ := ih among
      exact ⟨f, List.mem_cons_of_mem _ member, reads⟩

end Fields

/-- In a record the fields are found, each with its value. -/
theorem Schema.found_of_records {s : Schema} {slots : List Slot} {extra : Document → Prop}
    {d : Document} (fields : List.Forall₂ (fun f slot => f.Reads slot ()) s.fields slots)
    (distinct : (s.fields.map Field.name).Nodup) (h : Records extra slots d)
    (skips : d.skips = true) (source : Source) :
    ∃ found, s.found source d = .ok found ∧
      ∀ {α : Type} {f : Field α} {slot : Slot} {a : α}, slot ∈ slots → f.Reads slot a →
        f.get source found = .ok a := by
  obtain ⟨kept, foreign, order⟩ := h
  next members written others =>
    have skip := skips_named.1 skips
    have names := names_eq fields
    have apart : (slots.map Slot.name).Nodup := names ▸ distinct
    have takes : ∀ m ∈ members, s.Takes source m := by
      intro m member
      rcases List.mem_append.1 (order.mem_iff.1 member) with here | there
      · obtain ⟨slot, among, name, writes⟩ := kept.slot_of_mem here
        obtain ⟨f, field, reads⟩ := field_of_slot fields among
        exact .inl ⟨f, field, reads.name.trans name,
          reads.written source m.2 writes (skip m member)⟩
      · exact .inr ⟨names ▸ (foreign m there).1, skip m member⟩
    have known : (s.known members).Perm written := by
      have first : s.known written = written := by
        refine List.filter_eq_self.2 fun m here => ?_
        obtain ⟨slot, among, name, -⟩ := kept.slot_of_mem here
        rw [decide_eq_true_iff, names, ← name]
        exact List.mem_map_of_mem among
      have second : s.known others = [] := by
        refine List.filter_eq_nil_iff.2 fun m there => ?_
        rw [decide_eq_true_iff, names]
        exact (foreign m there).1
      have parts : s.known (written ++ others) = written := by
        rw [Schema.known, List.filter_append, ← Schema.known, ← Schema.known, first, second,
          List.append_nil]
      have filtered : (s.known members).Perm (s.known (written ++ others)) := order.filter _
      rwa [parts] at filtered
    have once : ((s.known members).map Prod.fst).Nodup :=
      (known.map _).nodup_iff.2 (kept.sublist.nodup apart)
    refine ⟨s.known members, ?_, fun among reads => ?_⟩
    · rw [Schema.found, members_named distinct takes once fun _ _ => List.not_mem_nil]
      rfl
    · refine reads.get kept apart known among (fun m here => ?_) source
      exact skip m (order.mem_iff.2 (List.mem_append_left _ here))

/-! ## Kinds of fields -/

section Kinds

variable {name : String} {read : Reader α} {writes : α → Document → Prop}

theorem reads_required {a : α} (reads : read.Reads writes a) :
    Field.Reads ⟨name, read, none⟩ (.required name writes a) a :=
  ⟨rfl, reads, False.elim⟩

theorem reads_defaulted {default a : α} (reads : read.Reads writes a) :
    Field.Reads ⟨name, read, some default⟩ (.defaulted name default writes a) a :=
  ⟨rfl, reads, fun same => congrArg some same.symm⟩

/-- The reader of what is there must not take `null`, which stands for what is absent. -/
theorem reads_optional {a : Option α} (null : ∀ source, ∃ fault, read source .null = .error fault)
    (reads : ∀ x ∈ a, read.Reads writes x) :
    Field.Reads ⟨name, Reader.optional read, some none⟩ (.optional name writes a) a := by
  refine reads_defaulted fun source d written skips => ?_
  cases a with
  | none =>
    obtain rfl := written
    rfl
  | some x =>
    have value := reads x rfl source d written skips
    unfold Reader.optional
    split
    · obtain ⟨fault, refused⟩ := null source
      rw [refused] at value
      cases value
    · rw [value]
      rfl

/-- An array of values in their order. -/
def Lists (writes : α → Document → Prop) (as : List α) (d : Document) : Prop :=
  ∃ ds, List.Forall₂ writes as ds ∧ d = .arr ds true

theorem items_of_reads {as : List α} {ds : List Document} (reads : ∀ a ∈ as, read.Reads writes a)
    (written : List.Forall₂ writes as ds) (skips : skipsItems ds = true) (source : Source) :
    Reader.items read source ds = .ok as := by
  induction written with
  | nil => rfl
  | cons first _ ih =>
    obtain ⟨reader, readers⟩ := List.forall_mem_cons.1 reads
    rw [skipsItems, Bool.and_eq_true] at skips
    rw [Reader.items, reader source _ first skips.1, ih readers skips.2]
    rfl

theorem reads_list {as : List α} (reads : ∀ a ∈ as, read.Reads writes a) :
    Reader.Reads (Reader.list read) (Lists writes) as := by
  rintro source _ ⟨ds, written, rfl⟩ skips
  rw [Document.skips, Bool.and_true] at skips
  rw [Reader.list, items_of_reads reads written skips]
  rfl

end Kinds

/-! ## Records that have a value -/

theorem toMembers?_named (members : List (String × Document)) (n : Nat) :
    (toMembers? n (named members)).isSome ↔ ∀ m ∈ members, (m.2.toJson? n).isSome := by
  induction members with
  | nil => simp [named, toMembers?]
  | cons m members ih =>
    rw [List.forall_mem_cons, ← ih, named, List.map_cons, ← named, toMembers?]
    cases m.2.toJson? n <;> cases toMembers? n (named members) <;> simp

/-- A record has a value if its fields and its other members have. -/
theorem Records.isSome {extra : Document → Prop} {slots : List Slot} {d : Document} {n : Nat}
    (h : Records extra slots d)
    (fields : ∀ slot ∈ slots, ∀ x, slot.writes x → (x.toJson? n).isSome)
    (foreign : ∀ x, extra x → (x.toJson? n).isSome) : (d.toJson? (n + 1)).isSome := by
  obtain ⟨kept, others, order⟩ := h
  rw [toJson?, Option.isSome_map, toMembers?_named]
  intro m member
  rcases List.mem_append.1 (order.mem_iff.1 member) with here | there
  · obtain ⟨slot, among, -, writes⟩ := kept.slot_of_mem here
    exact fields slot among m.2 writes
  · exact foreign m.2 (others m there).2

/-- The fields and nothing else. -/
theorem Kept.reordered {extra : Document → Prop} {slots : List Slot}
    {kept members : List (String × Document)} (fields : Kept slots kept)
    (order : members.Perm kept) : Records extra slots (.obj (named members) true) :=
  .members fields (fun _ member => absurd member List.not_mem_nil) (by rwa [List.append_nil])

theorem Kept.records {extra : Document → Prop} {slots : List Slot}
    {kept : List (String × Document)} (fields : Kept slots kept) :
    Records extra slots (.obj (named kept) true) :=
  fields.reordered (.refl _)

/-- Within a field that may be absent, a value has a tree if it is there. -/
theorem isSome_optional {name : String} {writes : α → Document → Prop} {a : Option α} {n : Nat}
    (value : ∀ v ∈ a, ∀ x, writes v x → (x.toJson? n).isSome) :
    ∀ x, (Slot.optional name writes a).writes x → (x.toJson? n).isSome := by
  cases a with
  | none =>
    rintro _ rfl
    simp [toJson?]
  | some v => exact value v rfl

/-- A text is read as its tree is. -/
theorem Reader.text_of_writtenAs (read : Reader α) {d : Document} {s : String}
    (h : d.WrittenAs s) : read.text s = read .stream d := by
  simp only [Reader.text, ofText_of_writtenAs h, ↓reduceIte]
  cases read .stream d <;> rfl

end LeaseRoutes.Json
