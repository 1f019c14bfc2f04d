import LeaseRoutes.Table.Neighbor
import LeaseRoutes.Table.Route
import Mathlib.Data.List.Forall2
/-!
The switch writes one table in many ways: a single row with or without an array around it, rows
spread over several objects, empty columns left out. The relations say which values render which
rows, at every depth on its own.
-/

namespace LeaseRoutes

namespace Table

/-! ## Columns -/

/-- A text; the empty one may be missing. -/
inductive RendersText : String → Option Json → Prop
  | there (s : String) : RendersText s (some (.str s))
  | missing : RendersText "" none

/-- A text that may be absent, and then missing or `null`. -/
inductive RendersText? : Option String → Option Json → Prop
  | there (s : String) : RendersText? (some s) (some (.str s))
  | null : RendersText? none (some .null)
  | missing : RendersText? none none

/-- A truth value as itself or as a text; only a false one may be missing. -/
inductive RendersFlag : Bool → Option Json → Prop
  | bool (b : Bool) : RendersFlag b (some (.bool b))
  | untrue {s : String} (h : s = "false" ∨ s = "FALSE") : RendersFlag false (some (.str s))
  | otherwise {s : String} (h : ¬(s = "false" ∨ s = "FALSE")) : RendersFlag true (some (.str s))
  | missing : RendersFlag false none

section Columns

variable {name : String} {columns : List (String × Json)}

theorem textColumn_of_renders {s : String} (h : RendersText s (columns.lookup name)) :
    textColumn name columns = some s := by
  unfold textColumn
  generalize columns.lookup name = column at h
  cases h with
  | there => rfl
  | missing => rfl

theorem textColumn?_of_renders {s : Option String} (h : RendersText? s (columns.lookup name)) :
    textColumn? name columns = some s := by
  unfold textColumn?
  generalize columns.lookup name = column at h
  cases h with
  | there => rfl
  | null => rfl
  | missing => rfl

theorem flagColumn_of_renders {b : Bool} (h : RendersFlag b (columns.lookup name)) :
    flagColumn name columns = some b := by
  unfold flagColumn
  generalize columns.lookup name = column at h
  cases h with
  | bool => rfl
  | untrue written => rcases written with rfl | rfl <;> rfl
  | otherwise written => simpa using written
  | missing => rfl

end Columns

/-! ## Rows and tables -/

variable {α : Type}

/-- The rows in an array; one row may also stand for itself. -/
inductive RendersRows (renders : α → Json → Prop) : List α → Json → Prop
  | array {rows : List α} {items : List Json} (h : List.Forall₂ renders rows items) :
    RendersRows renders rows (.arr items)
  | alone {row : α} {j : Json} (h : renders row j) : RendersRows renders [row] j

/-- An object whose only member holds the rows. -/
def RendersObject (key : String) (renders : α → Json → Prop) (rows : List α) (object : Json) :
    Prop :=
  ∃ j, object = .obj [(key, j)] ∧ RendersRows renders rows j

/-- The rows in one object, or in an array of objects one after the other. A table without rows
may be missing. -/
inductive RendersTable (key : String) (renders : α → Json → Prop) :
    List α → Option Json → Prop
  | object {rows : List α} {j : Json} (h : RendersObject key renders rows j) :
    RendersTable key renders rows (some j)
  | array {parts : List (List α)} {objects : List Json}
    (h : List.Forall₂ (RendersObject key renders) parts objects) :
    RendersTable key renders parts.flatten (some (.arr objects))
  | empty : RendersTable key renders [] (some (.obj []))
  | null : RendersTable key renders [] (some .null)
  | missing : RendersTable key renders [] none

/-- Every rendering of a row is an object, from which the row is read. -/
structure Reads (read : Json → Option α) (renders : α → Json → Prop) : Prop where
  object : ∀ row j, renders row j → ∃ members, j = .obj members
  row : ∀ row j, renders row j → read j = some row

theorem mapM_of_forall₂ {read : Json → Option α} {renders : α → Json → Prop}
    (reads : ∀ a j, renders a j → read j = some a) {as : List α} {items : List Json}
    (h : List.Forall₂ renders as items) : items.mapM read = some as := by
  induction h with
  | nil => rfl
  | cons first _ ih =>
    rw [List.mapM_cons, reads _ _ first, ih]
    rfl

section Rows

variable {read : Json → Option α} {renders : α → Json → Prop} (reads : Reads read renders)

include reads

/-- An array of rows is never taken for a single row, and a single row is no array. -/
theorem oneOrMany_of_renders {rows : List α} {j : Json} (h : RendersRows renders rows j) :
    oneOrMany read j = some rows := by
  cases h with
  | array h => simp only [oneOrMany, mapM_of_forall₂ reads.row h]
  | alone h =>
    obtain ⟨members, rfl⟩ := reads.object _ _ h
    simp only [oneOrMany, reads.row _ _ h, Option.map_some]

theorem memberRows_of_renders {key : String} {rows : List α} {j : Json}
    (h : RendersObject key renders rows j) : memberRows read j = some rows := by
  obtain ⟨member, rfl, held⟩ := h
  have one := oneOrMany_of_renders reads held
  simp only [memberRows, List.mapM_cons, List.mapM_nil, one, bind, pure, Option.bind_some,
    Option.map_some, List.flatten_singleton]

theorem rows_of_renders {key : String} {as : List α} {j : Json}
    (h : RendersTable key renders as (some j)) : rows read j = some as := by
  cases h with
  | object h =>
    have held := memberRows_of_renders reads h
    obtain ⟨member, rfl, -⟩ := h
    simp only [rows, oneOrMany, held, Option.map_some, List.flatten_singleton]
  | array h =>
    have objects : ∀ as j, RendersObject key renders as j → memberRows read j = some as :=
      fun _ _ => memberRows_of_renders reads
    have held := mapM_of_forall₂ objects h
    simp only [rows, oneOrMany, held, Option.map_some]
  | empty => rfl
  | null => rfl

theorem tableColumn_of_renders {key name : String} {as : List α} {columns : List (String × Json)}
    (h : RendersTable key renders as (columns.lookup name)) :
    tableColumn read name columns = some as := by
  unfold tableColumn
  cases found : columns.lookup name with
  | none =>
    rw [found] at h
    cases h
    rfl
  | some j =>
    rw [found] at h
    exact rows_of_renders reads h

end Rows

/-- The result of a command whose output has one table, in a body with whatever else there is, or
without a body if the table is empty. -/
inductive RendersResult (column key : String) (renders : α → Json → Prop) : List α → Json → Prop
  | body {rows : List α} {result : Json} {members : List (String × Json)}
    (body : result.get? "body" = some (.obj members))
    (table : RendersTable key renders rows (members.lookup column)) :
    RendersResult column key renders rows result
  | absent {result : Json}
    (body : result.get? "body" = none ∨ result.get? "body" = some .null ∨
      result.get? "body" = some (.str "")) :
    RendersResult column key renders [] result

/-- The output of a command is its table, however it is rendered. -/
theorem parse_onlyTable {β : Type} {read : Json → Option α} {renders : α → Json → Prop}
    (reads : Reads read renders) {name column key : String} (make : List α → β) {rows : List α}
    {result : Json} (h : RendersResult column key renders rows result) :
    Output.parse ⟨name, fun body => (Output.onlyTable read name column body).map make,
      some (make [])⟩ result = .ok (make rows) := by
  cases h with
  | @body rows _ members body table =>
    have there : Output.body? result = some (.obj members) := by
      simp only [Output.body?, body]
    have read : Output.onlyTable read name column (.obj members) = .ok rows := by
      unfold Output.onlyTable
      cases found : members.lookup column with
      | none =>
        rw [found] at table
        cases table
        simp only [found]
      | some j =>
        rw [found] at table
        simp only [found, rows_of_renders reads table]
    simp only [Output.parse, there, read, Except.map]
  | absent body =>
    have missing : Output.body? result = none := by
      rcases body with body | body | body <;> simp only [Output.body?, body]
    simp only [Output.parse, missing]

end Table

open Table

/-! ## Routes -/

structure Path.Renders (p : Path) (j : Json) : Prop where
  object : ∃ columns, j = .obj columns
  nextHop : RendersText? p.nextHop (j.get? "ipnexthop")
  interface : RendersText? p.interface (j.get? "ifname")

structure RoutePrefix.Renders (p : RoutePrefix) (j : Json) : Prop where
  object : ∃ columns, j = .obj columns
  destination : RendersText p.destination (j.get? "ipprefix")
  attached : RendersFlag p.attached (j.get? "attached")
  paths : RendersTable "ROW_path" Path.Renders p.paths (j.get? "TABLE_path")

structure RouteFamily.Renders (f : RouteFamily) (j : Json) : Prop where
  object : ∃ columns, j = .obj columns
  name : RendersText f.name (j.get? "addrf")
  prefixes : RendersTable "ROW_prefix" RoutePrefix.Renders f.prefixes (j.get? "TABLE_prefix")

structure RouteVrf.Renders (v : RouteVrf) (j : Json) : Prop where
  object : ∃ columns, j = .obj columns
  name : RendersText v.name (j.get? "vrf-name-out")
  families : RendersTable "ROW_addrf" RouteFamily.Renders v.families (j.get? "TABLE_addrf")

/-- The result of a command renders the routes. -/
def RouteTable.Renders (t : RouteTable) (result : Json) : Prop :=
  RendersResult "TABLE_vrf" "ROW_vrf" RouteVrf.Renders t.vrfs result

theorem Path.reads : Reads Path.ofRow Path.Renders where
  object _ _ h := h.object
  row _ _ h := by
    obtain ⟨⟨columns, rfl⟩, nextHop, interface⟩ := h
    simp only [ofRow, Table.columns, textColumn?_of_renders nextHop,
      textColumn?_of_renders interface, bind, Option.bind_some, pure]

theorem RoutePrefix.reads : Reads RoutePrefix.ofRow RoutePrefix.Renders where
  object _ _ h := h.object
  row _ _ h := by
    obtain ⟨⟨columns, rfl⟩, destination, attached, paths⟩ := h
    simp only [ofRow, Table.columns, textColumn_of_renders destination,
      flagColumn_of_renders attached, tableColumn_of_renders Path.reads paths, bind,
      Option.bind_some, pure]

theorem RouteFamily.reads : Reads RouteFamily.ofRow RouteFamily.Renders where
  object _ _ h := h.object
  row _ _ h := by
    obtain ⟨⟨columns, rfl⟩, name, prefixes⟩ := h
    simp only [ofRow, Table.columns, textColumn_of_renders name,
      tableColumn_of_renders RoutePrefix.reads prefixes, bind, Option.bind_some, pure]

theorem RouteVrf.reads : Reads RouteVrf.ofRow RouteVrf.Renders where
  object _ _ h := h.object
  row _ _ h := by
    obtain ⟨⟨columns, rfl⟩, name, families⟩ := h
    simp only [ofRow, Table.columns, textColumn_of_renders name,
      tableColumn_of_renders RouteFamily.reads families, bind, Option.bind_some, pure]

theorem RouteTable.parse_of_renders {t : RouteTable} {result : Json} (h : t.Renders result) :
    RouteTable.output.parse result = .ok t :=
  parse_onlyTable RouteVrf.reads RouteTable.mk h

/-! ## Neighbors -/

structure Adjacency.Renders (a : Adjacency) (j : Json) : Prop where
  object : ∃ columns, j = .obj columns
  interface : RendersText a.interface (j.get? "intf-out")
  address : RendersText? a.address (j.get? "ipaddr")
  mac : RendersText? a.mac (j.get? "mac")

structure NeighborFamily.Renders (f : NeighborFamily) (j : Json) : Prop where
  object : ∃ columns, j = .obj columns
  name : RendersText f.name (j.get? "afi")
  adjacencies : RendersTable "ROW_adj" Adjacency.Renders f.adjacencies (j.get? "TABLE_adj")

structure NeighborVrf.Renders (v : NeighborVrf) (j : Json) : Prop where
  object : ∃ columns, j = .obj columns
  name : RendersText v.name (j.get? "vrf-name-out")
  families : RendersTable "ROW_afi" NeighborFamily.Renders v.families (j.get? "TABLE_afi")

/-- The result of a command renders the neighbors. -/
def NeighborTable.Renders (t : NeighborTable) (result : Json) : Prop :=
  RendersResult "TABLE_vrf" "ROW_vrf" NeighborVrf.Renders t.vrfs result

theorem Adjacency.reads : Reads Adjacency.ofRow Adjacency.Renders where
  object _ _ h := h.object
  row _ _ h := by
    obtain ⟨⟨columns, rfl⟩, interface, address, mac⟩ := h
    simp only [ofRow, Table.columns, textColumn_of_renders interface,
      textColumn?_of_renders address, textColumn?_of_renders mac, bind, Option.bind_some, pure]

theorem NeighborFamily.reads : Reads NeighborFamily.ofRow NeighborFamily.Renders where
  object _ _ h := h.object
  row _ _ h := by
    obtain ⟨⟨columns, rfl⟩, name, adjacencies⟩ := h
    simp only [ofRow, Table.columns, textColumn_of_renders name,
      tableColumn_of_renders Adjacency.reads adjacencies, bind, Option.bind_some, pure]

theorem NeighborVrf.reads : Reads NeighborVrf.ofRow NeighborVrf.Renders where
  object _ _ h := h.object
  row _ _ h := by
    obtain ⟨⟨columns, rfl⟩, name, families⟩ := h
    simp only [ofRow, Table.columns, textColumn_of_renders name,
      tableColumn_of_renders NeighborFamily.reads families, bind, Option.bind_some, pure]

theorem NeighborTable.parse_of_renders {t : NeighborTable} {result : Json} (h : t.Renders result) :
    NeighborTable.output.parse result = .ok t :=
  parse_onlyTable NeighborVrf.reads NeighborTable.mk h

/-! ## Every rendering -/

/-- The output of a lookup of routes or neighbors is the table that was rendered, with all its rows
in order, whatever the rendering. -/
theorem Output.parse_rendering :
    (∀ (t : RouteTable) (result : Json), t.Renders result →
      RouteTable.output.parse result = .ok t) ∧
    ∀ (t : NeighborTable) (result : Json), t.Renders result →
      NeighborTable.output.parse result = .ok t :=
  ⟨fun _ _ => RouteTable.parse_of_renders, fun _ _ => NeighborTable.parse_of_renders⟩

/-! ## Tables in pieces -/

namespace Sample

def route : RoutePrefix :=
  ⟨"2001:db8::/64", true, [⟨none, some "Vlan5"⟩, ⟨some "2001:db8::1", none⟩]⟩

def routeRow : Json :=
  let paths := Json.arr [.obj [("ifname", .str "Vlan5"), ("ubest", .bool true)],
    .obj [("ifname", .null), ("ipnexthop", .str "2001:db8::1")]]
  .obj [("TABLE_path", .obj [("ROW_path", paths)]), ("attached", .str "yes"),
    ("ipprefix", .str "2001:db8::/64")]

/-- A prefix of which the switch tells nothing. -/
def blank : RoutePrefix := ⟨"", false, []⟩

def blankRow : Json := .obj [("TABLE_path", .null), ("attached", .str "FALSE")]

def family : RouteFamily := ⟨"ipv6", [route, blank]⟩

/-- The prefixes are in two objects, of which the first has its row alone. -/
def familyRow : Json :=
  .obj [("TABLE_prefix", .arr [.obj [("ROW_prefix", routeRow)],
    .obj [("ROW_prefix", .arr [blankRow])]]), ("addrf", .str "ipv6")]

def vrfRow : Json := .obj [("TABLE_addrf", .obj [("ROW_addrf", familyRow)])]

def routesResult : Json :=
  .obj [("body", .obj [("TABLE_vrf", .arr [.obj [("ROW_vrf", vrfRow)]]), ("uptime", .null)])]

theorem renders_route : route.Renders routeRow := by
  refine ⟨⟨_, rfl⟩, .there _, .otherwise (by decide), .object ⟨_, rfl, .array ?_⟩⟩
  exact .cons ⟨⟨_, rfl⟩, .missing, .there _⟩ (.cons ⟨⟨_, rfl⟩, .there _, .null⟩ .nil)

theorem renders_blank : blank.Renders blankRow := ⟨⟨_, rfl⟩, .missing, .untrue (.inr rfl), .null⟩

theorem renders_family : family.Renders familyRow := by
  have prefixes : List.Forall₂ (RendersObject "ROW_prefix" RoutePrefix.Renders) [[route], [blank]]
      [.obj [("ROW_prefix", routeRow)], .obj [("ROW_prefix", .arr [blankRow])]] :=
    .cons ⟨_, rfl, .alone renders_route⟩ (.cons ⟨_, rfl, .array (.cons renders_blank .nil)⟩ .nil)
  exact ⟨⟨_, rfl⟩, .there _, .array prefixes⟩

theorem renders_routes : RouteTable.Renders ⟨[⟨"", [family]⟩]⟩ routesResult := by
  have vrf : RouteVrf.Renders ⟨"", [family]⟩ vrfRow :=
    ⟨⟨_, rfl⟩, .missing, .object ⟨_, rfl, .alone renders_family⟩⟩
  have vrfs : List.Forall₂ (RendersObject "ROW_vrf" RouteVrf.Renders) [[⟨"", [family]⟩]]
      [.obj [("ROW_vrf", vrfRow)]] := .cons ⟨_, rfl, .alone vrf⟩ .nil
  exact .body rfl (.array vrfs)

end Sample

open Sample in
/-- The neighbors are not there at all. -/
theorem Output.parse_rendering_pieces :
    RouteTable.Renders ⟨[⟨"", [family]⟩]⟩ routesResult ∧
      RouteTable.output.parse routesResult = .ok ⟨[⟨"", [family]⟩]⟩ ∧
      NeighborTable.Renders ⟨[]⟩ .null ∧ NeighborTable.output.parse .null = .ok ⟨[]⟩ := by
  have neighbors : NeighborTable.Renders ⟨[]⟩ .null := .absent (.inl rfl)
  exact ⟨renders_routes, parse_rendering.1 _ _ renders_routes, neighbors,
    parse_rendering.2 _ _ neighbors⟩

end LeaseRoutes
