import LeaseRoutes.Proofs.Exporter.Course

namespace LeaseRoutes

namespace RouteTable

/-! ## The interface of a single route -/

/-- The first accepted name of an interface among some paths. -/
def Names (accepts : String → Bool) (paths : List Path) (name : String) : Prop :=
  ∃ before path after, paths = before ++ path :: after ∧ path.interface = some name ∧
    accepts name = true ∧ ∀ p ∈ before, ∀ other, p.interface = some other → accepts other = false

/-- The levels of a table are judged from the outside in. -/
inductive FirstInterface (accepts : String → Bool) : RouteTable → Except OutputFault String → Prop
  | vrfs (t : RouteTable) : t.vrfs.length ≠ 1 →
      FirstInterface accepts t (.error (.notSingle "TABLE_vrf" t.vrfs.length))
  | families (vrf : RouteVrf) : vrf.families.length ≠ 1 →
      FirstInterface accepts ⟨[vrf]⟩ (.error (.notSingle "TABLE_addrf" vrf.families.length))
  | prefixes (vrf family : String) :
      FirstInterface accepts ⟨[⟨vrf, [⟨family, []⟩]⟩]⟩ (.error (.notSingle "TABLE_prefix" 0))
  | interface (vrf family : String) (route : RoutePrefix) (rest : List RoutePrefix) :
      (∀ path ∈ route.paths, ∀ name, path.interface = some name → accepts name = false) →
      FirstInterface accepts ⟨[⟨vrf, [⟨family, route :: rest⟩]⟩]⟩
        (.error (.missing "vlan interface id"))
  | found (vrf family : String) (route : RoutePrefix) (rest : List RoutePrefix) {name : String} :
      Names accepts route.paths name →
      FirstInterface accepts ⟨[⟨vrf, [⟨family, route :: rest⟩]⟩]⟩ (.ok name)

theorem only_of_ne {rows : List α} (several : rows.length ≠ 1) (table : String) :
    only table rows = .error (.notSingle table rows.length) := by
  unfold only
  split
  · exact absurd rfl several
  · rfl

/-- A search through the names is a search through the paths. -/
theorem find?_interfaces (accepts : String → Bool) (paths : List Path) :
    (paths.filterMap Path.interface).find? accepts =
      paths.findSome? fun p => p.interface.filter accepts := by
  induction paths with
  | nil => rfl
  | cons p paths ih =>
    cases named : p.interface with
    | none => simp [named, ih]
    | some name => cases accepted : accepts name <;> simp [named, accepted, ih, Option.filter]

theorem filter_eq_none_iff {accepts : String → Bool} {interface : Option String} :
    interface.filter accepts = none ↔ ∀ name, interface = some name → accepts name = false := by
  cases interface <;> simp

theorem find?_eq_some_iff {accepts : String → Bool} {paths : List Path} {name : String} :
    (paths.filterMap Path.interface).find? accepts = some name ↔ Names accepts paths name := by
  simp only [find?_interfaces, List.findSome?_eq_some_iff, filter_eq_none_iff,
    Option.filter_eq_some_iff, Names, and_assoc]

theorem find?_eq_none_iff {accepts : String → Bool} {paths : List Path} :
    (paths.filterMap Path.interface).find? accepts = none ↔
      ∀ path ∈ paths, ∀ name, path.interface = some name → accepts name = false := by
  simp only [find?_interfaces, List.findSome?_eq_none_iff, filter_eq_none_iff]

theorem firstInterface_single (accepts : String → Bool) (vrf family : String) (route : RoutePrefix)
    (rest : List RoutePrefix) :
    firstInterface accepts ⟨[⟨vrf, [⟨family, route :: rest⟩]⟩]⟩ =
      match (route.paths.filterMap Path.interface).find? accepts with
      | some name => .ok name
      | none => .error (.missing "vlan interface id") :=
  rfl

theorem firstInterface_eq_iff {accepts : String → Bool} {t : RouteTable}
    {r : Except OutputFault String} :
    t.firstInterface accepts = r ↔ FirstInterface accepts t r := by
  constructor
  · rintro rfl
    match t with
    | ⟨[]⟩ => exact .vrfs ⟨[]⟩ (by decide)
    | ⟨a :: b :: vrfs⟩ => exact .vrfs ⟨a :: b :: vrfs⟩ (by simp)
    | ⟨[⟨vrf, []⟩]⟩ => exact .families ⟨vrf, []⟩ (by simp)
    | ⟨[⟨vrf, a :: b :: families⟩]⟩ => exact .families ⟨vrf, a :: b :: families⟩ (by simp)
    | ⟨[⟨vrf, [⟨family, []⟩]⟩]⟩ => exact .prefixes vrf family
    | ⟨[⟨vrf, [⟨family, route :: rest⟩]⟩]⟩ =>
      rw [firstInterface_single]
      cases named : (route.paths.filterMap Path.interface).find? accepts with
      | some name => exact .found vrf family route rest (find?_eq_some_iff.1 named)
      | none => exact .interface vrf family route rest (find?_eq_none_iff.1 named)
  · intro h
    cases h with
    | vrfs t several =>
      rw [firstInterface, singleRoute, only_of_ne several]
      rfl
    | families vrf several =>
      change ((only "TABLE_addrf" vrf.families >>= _) >>= _) = _
      rw [only_of_ne several]
      rfl
    | prefixes vrf family => rfl
    | interface vrf family route rest none =>
      rw [firstInterface_single, find?_eq_none_iff.2 none]
    | found vrf family route rest names =>
      rw [firstInterface_single, find?_eq_some_iff.2 names]

/-! ## The first next hop -/

/-- Where a path stands in a table: the numbers of its virtual router, of its family there, of its
prefix there, and of the path. -/
structure Place where
  vrf : Nat
  family : Nat
  route : Nat
  path : Nat

/-- The path at a place. -/
def at? (t : RouteTable) (p : Place) : Option Path := do
  let vrf ← t.vrfs[p.vrf]?
  let family ← vrf.families[p.family]?
  let route ← family.prefixes[p.route]?
  route.paths[p.path]?

/-- The order in which a table is written. -/
def Place.Before (p q : Place) : Prop :=
  p.vrf < q.vrf ∨ p.vrf = q.vrf ∧ (p.family < q.family ∨ p.family = q.family ∧
    (p.route < q.route ∨ p.route = q.route ∧ p.path < q.path))

theorem Place.trichotomy (p q : Place) : p.Before q ∨ p = q ∨ q.Before p := by
  obtain ⟨a, b, c, d⟩ := p
  obtain ⟨e, f, g, h⟩ := q
  simp only [Before, mk.injEq]
  omega

theorem findSome?_flatMap {α β γ : Type} (f : α → List β) (g : β → Option γ) (xs : List α) :
    (xs.flatMap f).findSome? g = xs.findSome? fun x => (f x).findSome? g := by
  induction xs with
  | nil => rfl
  | cons x xs ih => cases found : (f x).findSome? g <;> simp [List.findSome?_append, found, ih]

/-- A search in a list of lists, level by level. -/
theorem firstNextHop_eq (t : RouteTable) : t.firstNextHop =
    t.vrfs.findSome? fun v => v.families.findSome? fun f => f.prefixes.findSome? fun r =>
      r.paths.findSome? Path.nextHop := by
  simp only [firstNextHop, prefixes, findSome?_flatMap]

/-- The first item that gives something, by its number. -/
theorem findSome?_eq_some_iff_getElem? {α β : Type} {f : α → Option β} {xs : List α} {b : β} :
    xs.findSome? f = some b ↔ ∃ i a, xs[i]? = some a ∧ f a = some b ∧
      ∀ (j : Nat) c, j < i → xs[j]? = some c → f c = none := by
  rw [List.findSome?_eq_some_iff]
  constructor
  · rintro ⟨before, a, after, rfl, gives, none⟩
    refine ⟨before.length, a, by simp, gives, fun j c earlier there => ?_⟩
    rw [List.getElem?_append_left earlier] at there
    exact none c (List.mem_of_getElem? there)
  · rintro ⟨i, a, there, gives, none⟩
    obtain ⟨bound, rfl⟩ := List.getElem?_eq_some_iff.1 there
    refine ⟨xs.take i, xs[i], xs.drop (i + 1), by simp, gives, fun c member => ?_⟩
    obtain ⟨j, earlier, rfl⟩ := List.mem_take_iff_getElem.1 member
    exact none j _ (by omega) (List.getElem?_eq_getElem _)

theorem at?_eq_some_iff {t : RouteTable} {p : Place} {path : Path} : t.at? p = some path ↔
    ∃ v, t.vrfs[p.vrf]? = some v ∧ ∃ f, v.families[p.family]? = some f ∧
      ∃ r, f.prefixes[p.route]? = some r ∧ r.paths[p.path]? = some path := by
  simp only [at?, bind, Option.bind_eq_some_iff]

/-- The hop is that of a path, and no path that is written before it has one. -/
def FirstHop (t : RouteTable) (hop : String) : Prop :=
  ∃ place path, t.at? place = some path ∧ path.nextHop = some hop ∧
    ∀ earlier other, earlier.Before place → t.at? earlier = some other → other.nextHop = none

theorem firstHop_of_eq_some {t : RouteTable} {hop : String} (h : t.firstNextHop = some hop) :
    t.FirstHop hop := by
  rw [firstNextHop_eq] at h
  obtain ⟨a, v, atVrf, h, vrfs⟩ := findSome?_eq_some_iff_getElem?.1 h
  obtain ⟨b, f, atFamily, h, families⟩ := findSome?_eq_some_iff_getElem?.1 h
  obtain ⟨c, r, atRoute, h, routes⟩ := findSome?_eq_some_iff_getElem?.1 h
  obtain ⟨d, p, atPath, gives, paths⟩ := findSome?_eq_some_iff_getElem?.1 h
  simp only [List.findSome?_eq_none_iff] at vrfs families routes
  refine ⟨⟨a, b, c, d⟩, p, at?_eq_some_iff.2 ⟨v, atVrf, f, atFamily, r, atRoute, atPath⟩, gives, ?_⟩
  rintro ⟨a', b', c', d'⟩ other before there
  obtain ⟨v', vrf', f', family', r', route', path'⟩ := at?_eq_some_iff.1 there
  simp only [Place.Before] at before
  have inRoute := List.mem_of_getElem? path'
  have inFamily := List.mem_of_getElem? route'
  have inVrf := List.mem_of_getElem? family'
  -- The two places agree down to some level and part there.
  rcases before with less | ⟨rfl, before⟩
  · exact vrfs _ v' less vrf' f' inVrf r' inFamily other inRoute
  obtain rfl : v = v' := Option.some.inj (atVrf.symm.trans vrf')
  rcases before with less | ⟨rfl, before⟩
  · exact families _ f' less family' r' inFamily other inRoute
  obtain rfl : f = f' := Option.some.inj (atFamily.symm.trans family')
  rcases before with less | ⟨rfl, less⟩
  · exact routes _ r' less route' other inRoute
  obtain rfl : r = r' := Option.some.inj (atRoute.symm.trans route')
  exact paths _ other less path'

theorem firstNextHop_eq_none_iff {t : RouteTable} :
    t.firstNextHop = none ↔ ∀ place path, t.at? place = some path → path.nextHop = none := by
  simp only [firstNextHop_eq, List.findSome?_eq_none_iff]
  constructor
  · intro none place path there
    obtain ⟨v, vrf, f, family, r, route, path'⟩ := at?_eq_some_iff.1 there
    exact none v (List.mem_of_getElem? vrf) f (List.mem_of_getElem? family) r
      (List.mem_of_getElem? route) path (List.mem_of_getElem? path')
  · intro none v vrf f family r route p path
    obtain ⟨a, atVrf⟩ := List.mem_iff_getElem?.1 vrf
    obtain ⟨b, atFamily⟩ := List.mem_iff_getElem?.1 family
    obtain ⟨c, atRoute⟩ := List.mem_iff_getElem?.1 route
    obtain ⟨d, atPath⟩ := List.mem_iff_getElem?.1 path
    exact none ⟨a, b, c, d⟩ p (at?_eq_some_iff.2 ⟨v, atVrf, f, atFamily, r, atRoute, atPath⟩)

/-- A table has no two first hops. -/
theorem FirstHop.unique {t : RouteTable} {hop other : String} (h : t.FirstHop hop)
    (k : t.FirstHop other) : hop = other := by
  obtain ⟨p, path, atP, gives, earliest⟩ := h
  obtain ⟨q, path', atQ, gives', earliest'⟩ := k
  rcases p.trichotomy q with before | rfl | before
  · rw [earliest' p path before atP] at gives
    cases gives
  · obtain rfl : path = path' := Option.some.inj (atP.symm.trans atQ)
    exact Option.some.inj (gives.symm.trans gives')
  · rw [earliest q path' before atQ] at gives'
    cases gives'

theorem firstNextHop_eq_some_iff {t : RouteTable} {hop : String} :
    t.firstNextHop = some hop ↔ t.FirstHop hop := by
  constructor
  · exact firstHop_of_eq_some
  · intro h
    cases found : t.firstNextHop with
    | some other => rw [(firstHop_of_eq_some found).unique h]
    | none =>
      obtain ⟨place, path, there, gives, -⟩ := h
      rw [firstNextHop_eq_none_iff.1 found place path there] at gives
      cases gives

/-! ## What becomes of a lookup -/

/-- A prefix is listed somewhere. -/
def Lists (t : RouteTable) : Prop := ∃ v ∈ t.vrfs, ∃ f ∈ v.families, f.prefixes ≠ []

theorem lists_iff {t : RouteTable} : t.Lists ↔ t.prefixes.isEmpty = false := by
  simp [prefixes, Lists]

end RouteTable

namespace Switch.Stage

open RouteTable

/-- A route leads to the first next hop. Where no prefix is listed there is nothing to change, and
where none of those that are listed has a next hop the lookup fails. -/
theorem resolve_nextHop (target : Destination) (d : Direction) (t : RouteTable) :
    (¬t.Lists ∧ resolve (.nextHop target) d t = .done none) ∨
    (t.Lists ∧ t.firstNextHop = none ∧
      resolve (.nextHop target) d t = .failed (.output (.missing "ipnexthop"))) ∨
    ∃ hop, t.Lists ∧ t.firstNextHop = some hop ∧
      resolve (.nextHop target) d t = .change (.pd d target hop) := by
  cases unlisted : t.prefixes.isEmpty with
  | true =>
    refine .inl ⟨by simp [lists_iff, unlisted], ?_⟩
    simp only [resolve, unlisted, ↓reduceIte]
  | false =>
    have listed : t.Lists := lists_iff.2 unlisted
    cases found : t.firstNextHop with
    | none =>
      refine .inr (.inl ⟨listed, rfl, ?_⟩)
      simp only [resolve, unlisted, found, Bool.false_eq_true, ↓reduceIte]
    | some hop =>
      refine .inr (.inr ⟨hop, listed, rfl, ?_⟩)
      simp only [resolve, unlisted, found, Bool.false_eq_true, ↓reduceIte]

/-- An interface is read off a single route, and the outermost level that is not single is the
fault. A next hop is the first that is written anywhere in the table. The lookup of a next hop ends
without one exactly if no prefix is listed, fails exactly if prefixes are listed without one, and
goes on to the change otherwise. -/
theorem resolution_exact :
    (∀ (accepts : String → Bool) (t : RouteTable) (r : Except OutputFault String),
      t.firstInterface accepts = r ↔ FirstInterface accepts t r) ∧
    (∀ t : RouteTable, (∀ hop, t.firstNextHop = some hop ↔ t.FirstHop hop) ∧
      (t.firstNextHop = none ↔
        ∀ place path, t.at? place = some path → path.nextHop = none)) ∧
    ∀ (target : Destination) (d : Direction) (r : Reply) (x : Rpc.Response) (t : RouteTable),
      r.lookup = .ok x → RouteTable.output.parse x.result = .ok t →
      let resolved := (lookup (.nextHop target) d).next r
      (resolved = .done none ↔ ¬t.Lists) ∧
      (∀ e, resolved = .failed e ↔ t.Lists ∧
        (∀ place path, t.at? place = some path → path.nextHop = none) ∧
        e = .output (.missing "ipnexthop")) ∧
      ∀ c, resolved = .change c ↔ ∃ hop, t.FirstHop hop ∧ c = .pd d target hop := by
  refine ⟨fun accepts t r => firstInterface_eq_iff, fun t => ⟨fun hop => firstNextHop_eq_some_iff,
    firstNextHop_eq_none_iff⟩, fun target d r x t accepted parsed => ?_⟩
  simp only [next_of_parsed accepted parsed, ← firstNextHop_eq_none_iff, ← firstNextHop_eq_some_iff]
  rcases resolve_nextHop target d t with ⟨unlisted, done⟩ | ⟨listed, without, failed⟩ |
    ⟨hop, listed, found, changed⟩
  · have without : t.firstNextHop = none :=
      firstNextHop_of_no_prefixes (by simpa [lists_iff] using unlisted)
    simp [done, unlisted, without]
  · simp [failed, listed, without, eq_comm]
  · simp [changed, listed, found, eq_comm]

end Switch.Stage

namespace Sample

open Switch

def site : Destination := ⟨⟨[0x2001, 0xdb8, 3, 0, 0, 0, 0, 0], rfl⟩, 56⟩

/-- A virtual router with one path to the prefix. -/
def routerWith (name : String) (path : Json) : Json :=
  let route := Json.obj [("TABLE_path", .obj [("ROW_path", path)]), ("attached", .str "true"),
    ("ipprefix", .str "2001:db8:3::/56")]
  let family := Json.obj
    [("TABLE_prefix", .obj [("ROW_prefix", route)]), ("addrf", .str "ipv6")]
  .obj [("TABLE_addrf", .obj [("ROW_addrf", family)]), ("vrf-name-out", .str name)]

/-- Two virtual routers, of which only the second tells a next hop. -/
def twoRouters : Reply :=
  let rows := Json.arr [routerWith "default" (.obj [("ifname", .str "Vlan5")]),
    routerWith "mgmt" (.obj [("ipnexthop", .str "2001:db8::77")])]
  ⟨none, 200, [⟨.num 1, .obj [("body", .obj [("TABLE_vrf", .obj [("ROW_vrf", rows)])])]⟩], none⟩

end Sample

namespace Switch.Stage

open Sample

/-- The next hop is found in the second virtual router, where no interface is looked for. -/
theorem resolution_exact_two_routers :
    ∃ x t, twoRouters.lookup = .ok x ∧ RouteTable.output.parse x.result = .ok t ∧
      (lookup (.nextHop site) .remove).next twoRouters =
        .change (.pd .remove site "2001:db8::77") ∧
      t.firstInterface isVlan = .error (.notSingle "TABLE_vrf" 2) := by
  obtain ⟨interface, hop, resolved⟩ := resolution_exact
  refine ⟨_, _, rfl, rfl, ?_, ?_⟩
  · exact ((resolved site .remove twoRouters _ _ rfl rfl).2.2 _).2 ⟨_, ((hop _).1 _).1 rfl, rfl⟩
  · exact (interface _ _ _).2 (.vrfs _ (by decide))

end Switch.Stage

end LeaseRoutes
