import LeaseRoutes.Lease.Store

namespace LeaseRoutes.LeaseStore

/-- Two lists that are sorted by a key are equal if they agree on the items of every key. -/
theorem eq_of_sorted_of_filter_eq {α : Type} (key : α → UInt32) {xs ys : List α}
    (hx : xs.Pairwise fun a b => key a ≤ key b) (hy : ys.Pairwise fun a b => key a ≤ key b)
    (same : ∀ k, xs.filter (fun a => key a = k) = ys.filter (fun a => key a = k)) : xs = ys := by
  induction xs generalizing ys with
  | nil =>
    cases ys with
    | nil => rfl
    | cons b ys =>
      have hb := same (key b)
      simp at hb
  | cons a xs ih =>
    cases ys with
    | nil =>
      have ha := same (key a)
      simp at ha
    | cons b ys =>
      have ha : a ∈ b :: ys := by
        have : a ∈ (b :: ys).filter (fun c => key c = key a) := by simp [← same (key a)]
        exact (List.mem_filter.1 this).1
      have hb : b ∈ a :: xs := by
        have : b ∈ (a :: xs).filter (fun c => key c = key b) := by simp [same (key b)]
        exact (List.mem_filter.1 this).1
      have hab : key a ≤ key b := by
        rcases List.mem_cons.1 hb with rfl | hb
        · exact UInt32.le_refl _
        · exact List.rel_of_pairwise_cons hx hb
      have hba : key b ≤ key a := by
        rcases List.mem_cons.1 ha with rfl | ha
        · exact UInt32.le_refl _
        · exact List.rel_of_pairwise_cons hy ha
      have keys : key b = key a := UInt32.le_antisymm hba hab
      have heads := same (key a)
      simp only [List.filter_cons, keys, decide_true, ↓reduceIte, List.cons.injEq] at heads
      obtain ⟨rfl, _⟩ := heads
      refine congrArg (a :: ·) (ih hx.tail hy.tail fun k => ?_)
      have hk := same k
      by_cases h : key a = k
      · simpa [h] using hk
      · simpa [h] using hk

/-- Subnets in the order of their ids, none of them empty, and every lease under its own. -/
structure Grouped (subnets : List (UInt32 × List Lease)) : Prop where
  ordered : subnets.Pairwise fun a b => a.1 < b.1
  inhabited : ∀ g ∈ subnets, g.2 ≠ []
  own : ∀ g ∈ subnets, ∀ l ∈ g.2, l.subnet = g.1

theorem Grouped.tail {g : UInt32 × List Lease} {rest : List (UInt32 × List Lease)}
    (h : Grouped (g :: rest)) : Grouped rest :=
  ⟨h.ordered.tail, fun a ha => h.inhabited a (List.mem_cons_of_mem _ ha),
    fun a ha => h.own a (List.mem_cons_of_mem _ ha)⟩

theorem Grouped.cons {g : UInt32 × List Lease} {rest : List (UInt32 × List Lease)}
    (first : ∀ a ∈ rest, g.1 < a.1) (inhabited : g.2 ≠ []) (own : ∀ l ∈ g.2, l.subnet = g.1)
    (h : Grouped rest) : Grouped (g :: rest) := by
  refine ⟨List.pairwise_cons.2 ⟨first, h.ordered⟩, ?_, ?_⟩
  · intro a ha
    rcases List.mem_cons.1 ha with rfl | ha
    · exact inhabited
    · exact h.inhabited a ha
  · intro a ha
    rcases List.mem_cons.1 ha with rfl | ha
    · exact own
    · exact h.own a ha

theorem subnet_of_mem_addTo {l : Lease} {subnets : List (UInt32 × List Lease)}
    {g : UInt32 × List Lease} (h : g ∈ addTo l subnets) :
    g.1 = l.subnet ∨ ∃ a ∈ subnets, a.1 = g.1 := by
  induction subnets with
  | nil =>
    simp only [addTo, List.mem_singleton] at h
    exact .inl (by rw [h])
  | cons a rest ih =>
    obtain ⟨id, leases⟩ := a
    simp only [addTo] at h
    split at h
    · rcases List.mem_cons.1 h with rfl | h
      · exact .inr ⟨(id, leases), List.mem_cons_self, rfl⟩
      · exact .inr ⟨g, List.mem_cons_of_mem _ h, rfl⟩
    · split at h
      · rcases List.mem_cons.1 h with rfl | h
        · exact .inl rfl
        · exact .inr ⟨g, h, rfl⟩
      · rcases List.mem_cons.1 h with rfl | h
        · exact .inr ⟨(id, leases), List.mem_cons_self, rfl⟩
        · rcases ih h with h | ⟨a, ha, h⟩
          · exact .inl h
          · exact .inr ⟨a, List.mem_cons_of_mem _ ha, h⟩

theorem grouped_addTo (l : Lease) {subnets : List (UInt32 × List Lease)} (h : Grouped subnets) :
    Grouped (addTo l subnets) := by
  induction subnets with
  | nil => exact .cons (by simp) (by simp) (by simp) h
  | cons a rest ih =>
    obtain ⟨id, leases⟩ := a
    have own : ∀ m ∈ leases, m.subnet = id := h.own (id, leases) List.mem_cons_self
    have first : ∀ a ∈ rest, id < a.1 := fun _ ha => List.rel_of_pairwise_cons h.ordered ha
    unfold addTo
    split
    · next same =>
      refine .cons first (by simp) ?_ h.tail
      intro m hm
      rcases List.mem_append.1 hm with hm | hm
      · exact own m hm
      · exact (List.mem_singleton.1 hm) ▸ same
    · next other =>
      split
      · next less =>
        refine .cons ?_ (by simp) (by simp) h
        intro a ha
        rcases List.mem_cons.1 ha with rfl | ha
        · exact less
        · exact UInt32.lt_trans less (first a ha)
      · next more =>
        refine .cons ?_ (h.inhabited (id, leases) List.mem_cons_self) own (ih h.tail)
        intro a ha
        rcases subnet_of_mem_addTo ha with ha | ⟨b, hb, ha⟩
        · have le : id ≤ l.subnet := UInt32.not_lt.1 more
          exact ha ▸ UInt32.lt_of_le_of_ne le fun e => other e.symm
        · exact ha ▸ first b hb

/-- Subnets that all have larger ids hold no lease of a smaller one. -/
theorem Grouped.filter_eq_nil {subnets : List (UInt32 × List Lease)} (h : Grouped subnets)
    {id : UInt32} (larger : ∀ a ∈ subnets, id < a.1) :
    (subnets.flatMap Prod.snd).filter (fun m => m.subnet = id) = [] := by
  apply List.filter_eq_nil_iff.2
  intro m hm
  obtain ⟨a, ha, hm⟩ := List.mem_flatMap.1 hm
  have less := larger a ha
  rw [decide_eq_true_eq, h.own a ha m hm]
  exact fun same => UInt32.lt_irrefl _ (same ▸ less)

/-- A lease goes behind those of its subnet and leaves the order of the others. -/
theorem filter_addTo (l : Lease) (id : UInt32) {subnets : List (UInt32 × List Lease)}
    (h : Grouped subnets) :
    ((addTo l subnets).flatMap Prod.snd).filter (fun m => m.subnet = id) =
      (subnets.flatMap Prod.snd).filter (fun m => m.subnet = id) ++
        [l].filter (fun m => m.subnet = id) := by
  induction subnets with
  | nil => simp [addTo]
  | cons a rest ih =>
    obtain ⟨key, leases⟩ := a
    have first : ∀ a ∈ rest, key < a.1 := fun _ ha => List.rel_of_pairwise_cons h.ordered ha
    unfold addTo
    split
    · next same =>
      simp only [List.flatMap_cons, List.filter_append, List.append_assoc]
      congr 1
      by_cases e : l.subnet = id
      · simp [h.tail.filter_eq_nil (e ▸ same ▸ first)]
      · simp [e]
    · split
      · next less =>
        rw [List.flatMap_cons, List.filter_append]
        by_cases e : l.subnet = id
        · have larger : ∀ a ∈ (key, leases) :: rest, id < a.1 := by
            intro a ha
            rcases List.mem_cons.1 ha with rfl | ha
            · exact e ▸ less
            · exact e ▸ UInt32.lt_trans less (first a ha)
          rw [h.filter_eq_nil larger]
          simp
        · simp [e]
      · simp only [List.flatMap_cons, List.filter_append, ih h.tail, List.append_assoc]

theorem grouped_foldl (leases : List Lease) {subnets : List (UInt32 × List Lease)}
    (h : Grouped subnets) : Grouped (leases.foldl (fun s l => addTo l s) subnets) := by
  induction leases generalizing subnets with
  | nil => exact h
  | cons l leases ih => exact ih (grouped_addTo l h)

theorem filter_foldl (leases : List Lease) (id : UInt32) {subnets : List (UInt32 × List Lease)}
    (h : Grouped subnets) :
    ((leases.foldl (fun s l => addTo l s) subnets).flatMap Prod.snd).filter
        (fun m => m.subnet = id) =
      (subnets.flatMap Prod.snd).filter (fun m => m.subnet = id) ++
        leases.filter (fun m => m.subnet = id) := by
  induction leases generalizing subnets with
  | nil => simp
  | cons l leases ih =>
    rw [List.foldl_cons, ih (grouped_addTo l h), filter_addTo l id h, List.append_assoc,
      ← List.filter_append, List.singleton_append]

theorem grouped_ofList (leases : List Lease) : Grouped (ofList leases).subnets :=
  grouped_foldl leases ⟨.nil, by simp, by simp⟩

theorem Grouped.sorted {subnets : List (UInt32 × List Lease)} (h : Grouped subnets) :
    (subnets.flatMap Prod.snd).Pairwise fun a b => a.subnet ≤ b.subnet := by
  induction subnets with
  | nil => exact .nil
  | cons g rest ih =>
    have own : ∀ m ∈ g.2, m.subnet = g.1 := h.own g List.mem_cons_self
    rw [List.flatMap_cons]
    refine List.pairwise_append.2 ⟨?_, ih h.tail, ?_⟩
    · exact List.pairwise_of_forall_mem_list fun a ha b hb => by
        rw [own a ha, own b hb]
        exact UInt32.le_refl _
    · intro a ha b hb
      obtain ⟨k, hk, hb⟩ := List.mem_flatMap.1 hb
      rw [own a ha, h.tail.own k hk b hb]
      exact UInt32.le_of_lt (List.rel_of_pairwise_cons h.ordered hk)

/-- The leases of one subnet stand as they were listed. -/
theorem filter_toList_ofList (leases : List Lease) (id : UInt32) :
    (ofList leases).toList.filter (fun m => m.subnet = id) =
      leases.filter (fun m => m.subnet = id) :=
  have empty : Grouped [] := ⟨.nil, by simp, by simp⟩
  filter_foldl leases id empty

/-- Leases by subnet; those of one subnet keep their order. -/
def bySubnet (leases : List Lease) : List Lease :=
  leases.mergeSort fun a b => a.subnet ≤ b.subnet

theorem subnet_le_trans (a b c : Lease) (hab : decide (a.subnet ≤ b.subnet) = true)
    (hbc : decide (b.subnet ≤ c.subnet) = true) : decide (a.subnet ≤ c.subnet) = true := by
  rw [decide_eq_true_eq] at hab hbc ⊢
  exact UInt32.le_trans hab hbc

theorem subnet_le_total (a b : Lease) :
    (decide (a.subnet ≤ b.subnet) || decide (b.subnet ≤ a.subnet)) = true := by
  rw [Bool.or_eq_true, decide_eq_true_eq, decide_eq_true_eq]
  exact UInt32.le_total a.subnet b.subnet

theorem bySubnet_sorted (leases : List Lease) :
    (bySubnet leases).Pairwise fun a b => a.subnet ≤ b.subnet :=
  (List.pairwise_mergeSort subnet_le_trans subnet_le_total leases).imp of_decide_eq_true

theorem filter_bySubnet (leases : List Lease) (id : UInt32) :
    (bySubnet leases).filter (fun m => m.subnet = id) = leases.filter (fun m => m.subnet = id) := by
  have kept : (leases.filter fun m => m.subnet = id).Sublist (bySubnet leases) := by
    refine List.sublist_mergeSort subnet_le_trans subnet_le_total ?_ List.filter_sublist
    apply List.pairwise_of_forall_mem_list
    intro a ha b hb
    simp only [List.mem_filter, decide_eq_true_eq] at ha hb
    simp [ha.2, hb.2]
  have part := kept.filter (fun m => m.subnet = id)
  rw [List.filter_filter] at part
  simp only [Bool.and_self] at part
  have perm := (List.mergeSort_perm leases fun a b => a.subnet ≤ b.subnet).filter
    (fun m => m.subnet = id)
  exact (part.eq_of_length perm.length_eq.symm).symm

/-- The store holds the leases in the order of their subnets, those of one subnet as they were
listed. -/
theorem toList_ofList (leases : List Lease) : (ofList leases).toList = bySubnet leases := by
  apply eq_of_sorted_of_filter_eq Lease.subnet (grouped_ofList leases).sorted
    (bySubnet_sorted leases)
  intro id
  rw [filter_bySubnet]
  exact filter_toList_ofList leases id

/-- No lease is lost or added. -/
theorem toList_ofList_perm (leases : List Lease) : (ofList leases).toList.Perm leases := by
  rw [toList_ofList]
  exact List.mergeSort_perm leases _

/-- An active address lease of the client with this identity. -/
def isSibling (duid : Option Duid) (iaid : UInt32) (l : Lease) : Bool :=
  l.isActive && l.association = .na && l.iaid = iaid && l.duid.isSome && l.duid = duid

theorem siblings_eq_filter (s : LeaseStore) (duid : Option Duid) (iaid : UInt32) :
    s.siblings duid iaid = s.toList.filter (isSibling duid iaid) := by
  cases duid with
  | none =>
    symm
    apply List.filter_eq_nil_iff.2
    intro l _
    cases h : l.duid <;> simp [isSibling, h]
  | some duid =>
    simp only [siblings, ofIdentity, List.filter_filter]
    apply List.filter_congr
    intro l _
    cases h : l.duid <;> grind [isSibling]

/-- The sibling is the first active address lease of the client. -/
theorem sibling_eq_find? (s : LeaseStore) (duid : Option Duid) (iaid : UInt32) :
    s.sibling duid iaid = s.toList.find? (isSibling duid iaid) := by
  rw [sibling, siblings_eq_filter, List.head?_filter]

end LeaseRoutes.LeaseStore
