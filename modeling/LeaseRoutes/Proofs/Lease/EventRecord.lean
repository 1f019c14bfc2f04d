import LeaseRoutes.Lease.Event
import LeaseRoutes.Proofs.Lease.Record

namespace LeaseRoutes

open Json

/-! ## Packets -/

namespace NaOption

def slots (o : NaOption) : List Slot := [
  .required "iaid" Word32 o.iaid,
  .optional "address" Address.Writes o.address]

def Recorded (extra : Document → Prop) (o : NaOption) : Document → Prop := Records extra o.slots

theorem reads (extra : Document → Prop) (o : NaOption) :
    Reader.Reads NaOption.read (Recorded extra) o := by
  intro source d h skips
  have iaid : iaidField.Reads _ o.iaid := reads_required (reads_word32 _)
  have address : addressField.Reads _ o.address :=
    reads_optional (fun _ => ⟨_, rfl⟩) fun a _ => reads_address a
  obtain ⟨found, there, get⟩ := Schema.found_of_records
    (s := ⟨"IaNaOption", [iaidField.check, addressField.check]⟩)
    (.cons iaid.check (.cons address.check .nil)) (by decide) h skips source
  simp only [NaOption.read, there, bind, Except.bind, get (by simp) iaid, get (by simp) address]
  rfl

end NaOption

namespace PdOption

def slots (o : PdOption) : List Slot := [
  .required "iaid" Word32 o.iaid,
  .optional "prefix" Address.Writes o.address,
  .optional "prefix-len" Word8 o.length]

def Recorded (extra : Document → Prop) (o : PdOption) : Document → Prop := Records extra o.slots

theorem reads (extra : Document → Prop) (o : PdOption) :
    Reader.Reads PdOption.read (Recorded extra) o := by
  intro source d h skips
  have iaid : iaidField.Reads _ o.iaid := reads_required (reads_word32 _)
  have address : addressField.Reads _ o.address :=
    reads_optional (fun _ => ⟨_, rfl⟩) fun a _ => reads_address a
  have length : lengthField.Reads _ o.length :=
    reads_optional (fun _ => ⟨_, rfl⟩) fun n _ => reads_word8 n
  obtain ⟨found, there, get⟩ := Schema.found_of_records
    (s := ⟨"IaPdOption", [iaidField.check, addressField.check, lengthField.check]⟩)
    (.cons iaid.check (.cons address.check (.cons length.check .nil))) (by decide) h skips source
  simp only [PdOption.read, there, bind, Except.bind, get (by simp) iaid, get (by simp) address,
    get (by simp) length]
  rfl

end PdOption

namespace Query

def slots (extra : Document → Prop) (q : Query) : List Slot := [
  .required "transaction-id" Word32 q.transaction,
  .required "link-address" Address.Writes q.link,
  .optional "ia-na" (NaOption.Recorded extra) q.na,
  .optional "ia-pd" (PdOption.Recorded extra) q.pd]

def Recorded (extra : Document → Prop) (q : Query) : Document → Prop :=
  Records extra (q.slots extra)

theorem reads (extra : Document → Prop) (q : Query) :
    Reader.Reads Query.read (Recorded extra) q := by
  intro source d h skips
  have transaction : transactionField.Reads _ q.transaction := reads_required (reads_word32 _)
  have link : linkField.Reads _ q.link := reads_required (reads_address _)
  have na : naField.Reads _ q.na := reads_optional (fun _ => ⟨_, rfl⟩) fun o _ => o.reads extra
  have pd : pdField.Reads _ q.pd := reads_optional (fun _ => ⟨_, rfl⟩) fun o _ => o.reads extra
  obtain ⟨found, there, get⟩ := Schema.found_of_records
    (s := ⟨"Query6", [transactionField.check, linkField.check, naField.check, pdField.check]⟩)
    (.cons transaction.check (.cons link.check (.cons na.check (.cons pd.check .nil))))
    (by decide) h skips source
  simp only [Query.read, there, bind, Except.bind, get (by simp) transaction, get (by simp) link,
    get (by simp) na, get (by simp) pd]
  rfl

end Query

namespace Selection

def slots (extra : Document → Prop) (s : Selection) : List Slot := [
  .defaulted "fake-allocation" false Truth s.fake,
  .required "query" (Query.Recorded extra) s.query,
  .required "lease" (Lease.Recorded extra) s.lease]

def Recorded (extra : Document → Prop) (s : Selection) : Document → Prop :=
  Records extra (s.slots extra)

theorem reads (extra : Document → Prop) {s : Selection} (named : s.lease.duid ≠ some ⟨[]⟩) :
    Reader.Reads Selection.read (Recorded extra) s := by
  intro source d h skips
  have fake : fakeField.Reads _ s.fake := reads_defaulted (reads_truth _)
  have query : queryField.Reads _ s.query := reads_required (Query.reads extra _)
  have lease : leaseField.Reads _ s.lease := reads_required (Lease.reads extra named)
  obtain ⟨found, there, get⟩ := Schema.found_of_records
    (s := ⟨"SelectEvent", [fakeField.check, queryField.check, leaseField.check]⟩)
    (.cons fake.check (.cons query.check (.cons lease.check .nil))) (by decide) h skips source
  simp only [Selection.read, there, bind, Except.bind, get (by simp) fake, get (by simp) query,
    get (by simp) lease]
  rfl

end Selection

/-! ## Events -/

namespace LeaseEvent

/-- The fields of a removal. -/
def removalSlots (extra : Document → Prop) (l : Lease) : List Slot := [
  .required "lease" (Lease.Recorded extra) l]

theorem reads_removal (extra : Document → Prop) {l : Lease} (named : l.duid ≠ some ⟨[]⟩) :
    Reader.Reads readRemoval (fun l => Records extra (removalSlots extra l)) l := by
  intro source d h skips
  have lease : removalField.Reads _ l := reads_required (Lease.reads extra named)
  obtain ⟨found, there, get⟩ := Schema.found_of_records
    (s := ⟨"RemovalEvent", [removalField.check]⟩) (.cons lease.check .nil) (by decide) h skips source
  simp only [readRemoval, there, bind, Except.bind, get (by simp) lease]

/-- The fields of an event besides its hook. -/
def content (extra : Document → Prop) : LeaseEvent → List Slot
  | .select s => s.slots extra
  | .release l | .expire l | .decline l => removalSlots extra l

def HookIs (h : Hook) (d : Document) : Prop := d = .str h.name

def slots (extra : Document → Prop) (e : LeaseEvent) : List Slot :=
  .required "hook" HookIs e.hook :: e.content extra

def Recorded (extra : Document → Prop) (e : LeaseEvent) : Document → Prop :=
  Records extra (e.slots extra)

theorem reads_hook (h : Hook) : Reader.Reads Hook.read HookIs h := by
  rintro source _ rfl -
  cases h <;> rfl

/-- A member that is not the hook is kept as it is, if it has a value. -/
theorem splitMembers_other {key : String} (other : key ≠ "hook") (hook : Option Hook)
    (d : Document) (rest : List (Document × Document)) :
    splitMembers hook ((.str key, d) :: rest) =
      if (d.toJson? (Document.depthLimit - 1)).isSome then
        (splitMembers hook rest).map fun r => (r.1, (.str key, d) :: r.2)
      else .error .malformed := by
  rw [splitMembers, whole]
  · split
    · cases splitMembers hook rest <;> rfl
    · rfl
  · exact other

theorem splitMembers_hook (h : Hook) (rest : List (Document × Document)) :
    splitMembers none ((.str "hook", .str h.name) :: rest) = splitMembers (some h) rest := by
  rw [splitMembers, reads_hook h .stream _ rfl rfl]
  rfl

theorem splitMembers_append {members : List (String × Document)}
    (other : ∀ m ∈ members, m.1 ≠ "hook")
    (values : ∀ m ∈ members, (m.2.toJson? (Document.depthLimit - 1)).isSome)
    (hook : Option Hook) (rest : List (Document × Document)) :
    splitMembers hook (Document.named members ++ rest) =
      (splitMembers hook rest).map fun r => (r.1, Document.named members ++ r.2) := by
  induction members with
  | nil =>
    rw [Document.named, List.map_nil, List.nil_append]
    cases splitMembers hook rest <;> rfl
  | cons m members ih =>
    obtain ⟨first, others⟩ := List.forall_mem_cons.1 other
    obtain ⟨value, values⟩ := List.forall_mem_cons.1 values
    rw [Document.named, List.map_cons, ← Document.named, List.cons_append,
      splitMembers_other first, if_pos value, ih others values]
    cases splitMembers hook rest <;> rfl

/-- Only members that have values are split. -/
theorem values_of_splitMembers {members : List (String × Document)} {hook : Option Hook}
    {r : Option Hook × List (Document × Document)}
    (h : splitMembers hook (Document.named members) = .ok r) :
    ∀ m ∈ members, m.1 ≠ "hook" → (m.2.toJson? (Document.depthLimit - 1)).isSome := by
  induction members generalizing hook r with
  | nil => exact fun _ member => absurd member List.not_mem_nil
  | cons m members ih =>
    obtain ⟨key, d⟩ := m
    rw [Document.named, List.map_cons, ← Document.named] at h
    by_cases same : key = "hook"
    · subst same
      rw [splitMembers] at h
      cases hook with
      | some _ => cases h
      | none =>
        cases name : Hook.read .stream d with
        | error _ =>
          simp only [name] at h
          cases h
        | ok _ =>
          simp only [name] at h
          exact List.forall_mem_cons.2 ⟨fun other => absurd rfl other, ih h⟩
    · rw [splitMembers_other same] at h
      split at h
      · next value =>
        cases tail : splitMembers hook (Document.named members) with
        | error _ =>
          rw [tail] at h
          cases h
        | ok _ => exact List.forall_mem_cons.2 ⟨fun _ => value, ih tail⟩
      · cases h

theorem hook_notMem_content (extra : Document → Prop) (e : LeaseEvent) :
    "hook" ∉ (e.content extra).map Slot.name := by
  cases e with
  | select s =>
    have names : "hook" ∉ ["fake-allocation", "query", "lease"] := by decide
    exact names
  | release l | expire l | decline l =>
    have names : "hook" ∉ ["lease"] := by decide
    exact names

/-- An event that is recorded has one hook, and the other members record its content. -/
theorem Recorded.hook {extra : Document → Prop} {e : LeaseEvent} {d : Document}
    (h : e.Recorded extra d) : ∃ before after,
      d = .obj (Document.named (before ++ ("hook", .str e.hook.name) :: after)) true ∧
      (∀ m ∈ before ++ after, m.1 ≠ "hook") ∧
      Records extra (e.content extra) (.obj (Document.named (before ++ after)) true) := by
  obtain ⟨fields, foreign, order⟩ := h
  next members kept others =>
    cases fields with
    | leave spare => exact spare.elim
    | @write _ _ name kept written fields =>
      obtain rfl := written
      obtain ⟨before, after, rfl⟩ :=
        List.append_of_mem (order.mem_iff.2 (List.mem_cons_self (a := ("hook", _))))
      have rest : (before ++ after).Perm (kept ++ others) :=
        (List.perm_middle.symm.trans order).cons_inv
      refine ⟨before, after, rfl, fun m member same => ?_,
        .members fields (fun m there => ?_) rest⟩
      · rcases List.mem_append.1 (rest.mem_iff.1 member) with here | there
        · have field := fields.sublist.subset (List.mem_map_of_mem (f := Prod.fst) here)
          exact hook_notMem_content extra e (same ▸ field)
        · exact (foreign m there).1 (same ▸ List.mem_cons_self)
      · exact ⟨fun field => (foreign m there).1 (List.mem_cons_of_mem _ field),
          (foreign m there).2⟩

theorem named_append (xs ys : List (String × Document)) :
    Document.named (xs ++ ys) = Document.named xs ++ Document.named ys :=
  List.map_append

/-- The members of an event besides its hook have values just if the event has one. -/
theorem values_iff {before after : List (String × Document)} (h : Hook) :
    ((Document.obj (Document.named (before ++ ("hook", .str h.name) :: after)) true).toJson?
        Document.depthLimit).isSome ↔
      ∀ m ∈ before ++ after, (m.2.toJson? (Document.depthLimit - 1)).isSome := by
  rw [Document.depthLimit, Document.toJson?, Option.isSome_map, toMembers?_named]
  simp only [List.forall_mem_append, List.forall_mem_cons, Document.toJson?, Option.isSome_some,
    true_and]

theorem splitHook_named {before after : List (String × Document)} (h : Hook)
    (other : ∀ m ∈ before ++ after, m.1 ≠ "hook")
    (values : ∀ m ∈ before ++ after, (m.2.toJson? (Document.depthLimit - 1)).isSome) :
    splitHook (.obj (Document.named (before ++ ("hook", .str h.name) :: after)) true) =
      .ok (h, .obj (Document.named (before ++ after)) true) := by
  obtain ⟨otherBefore, otherAfter⟩ := List.forall_mem_append.1 other
  obtain ⟨valuesBefore, valuesAfter⟩ := List.forall_mem_append.1 values
  have tail := splitMembers_append otherAfter valuesAfter (some h) []
  rw [List.append_nil] at tail
  have head := splitMembers_append otherBefore valuesBefore none
    ((.str "hook", .str h.name) :: Document.named after)
  rw [splitMembers_hook, tail] at head
  rw [named_append, splitHook, named_append, Document.named, Document.named, List.map_cons,
    ← Document.named, ← Document.named, head]
  simp [splitMembers, Except.map, bind, Except.bind, pure, Except.pure]

/-- An event is read from what records it if that has a value, and else nothing is read. -/
theorem read_recorded_iff {extra : Document → Prop} {e : LeaseEvent} {d : Document}
    (named : e.lease.duid ≠ some ⟨[]⟩) (h : e.Recorded extra d) (skips : d.skips = true)
    (source : Source) :
    LeaseEvent.read source d = .ok e ↔ (d.toJson? Document.depthLimit).isSome := by
  obtain ⟨before, after, rfl, other, content⟩ := h.hook
  have among : before ++ after ⊆ before ++ ("hook", .str e.hook.name) :: after :=
    ((List.Sublist.refl before).append (List.sublist_cons_self _ after)).subset
  rw [values_iff]
  constructor
  · intro read m member
    rw [LeaseEvent.read, splitHook] at read
    cases split : splitMembers none
        (Document.named (before ++ ("hook", .str e.hook.name) :: after)) with
    | error _ =>
      rw [split] at read
      cases read
    | ok _ => exact values_of_splitMembers split m (among member) (other m member)
  · intro values
    have inner : (Document.obj (Document.named (before ++ after)) true).skips = true :=
      skips_named.2 fun m member => skips_named.1 skips m (among member)
    rw [LeaseEvent.read, splitHook_named e.hook other values]
    cases e with
    | select s =>
      have selection := Selection.reads extra named .buffer _ content inner
      simp only [LeaseEvent.hook, bind, Except.bind, selection]
      rfl
    | release l | expire l | decline l =>
      have removal := reads_removal extra named .buffer _ content inner
      simp only [LeaseEvent.hook, bind, Except.bind, removal]
      rfl

/-- An event is read from a line that records it, unless the line is nested too deep, or holds a
number beyond the doubles or a lone surrogate. -/
theorem ofText_recorded_iff {extra : Document → Prop} {e : LeaseEvent} {d : Document}
    (named : e.lease.duid ≠ some ⟨[]⟩) (h : e.Recorded extra d) {line : String}
    (written : d.WrittenAs line) :
    LeaseEvent.ofText line = .ok e ↔ d.levels ≤ Document.depthLimit ∧ d.ordinary := by
  rw [LeaseEvent.ofText, Reader.text_of_writtenAs _ written, ← toJson?_isSome_iff]
  exact read_recorded_iff named h written.skips .stream

end LeaseEvent

end LeaseRoutes
