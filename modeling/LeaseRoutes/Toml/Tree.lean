import LeaseRoutes.Json.Value
/-!
The tree that a TOML document builds. A table grows while its document is read: by headers, by
dotted keys, or because something below it was named first. Nothing is defined twice, and what one
way has made another does not extend.
-/

namespace LeaseRoutes.Toml

/-- Values are closed. A table is `implicit` until it has a header of its own, and `dotted` if it
comes from a dotted key. Of an array of tables the last is open. -/
inductive Node
  | value (j : Json)
  | table (implicit dotted : Bool) (entries : List (String × Node))
  | tables (items : List (List (String × Node)))

abbrev Entries := List (String × Node)

namespace Node

mutual

def toJson : Node → Json
  | .value j => j
  | .table _ _ entries => Json.object (members entries)
  | .tables items => .arr (objects items)

def members : List (String × Node) → List (String × Json)
  | [] => []
  | (k, n) :: rest => (k, toJson n) :: members rest

def objects : List (List (String × Node)) → List Json
  | [] => []
  | entries :: rest => Json.object (members entries) :: objects rest

end

end Node

namespace Entries

/-- Puts a node in the place of a key. -/
def put (key : String) (n : Node) : Entries → Entries
  | [] => [(key, n)]
  | (k, m) :: rest => if k = key then (k, n) :: rest else (k, m) :: put key n rest

/-- Adds a key that is not there yet. -/
def add (key : String) (n : Node) (es : Entries) : Option Entries :=
  match es.lookup key with
  | some _ => none
  | none => some (es ++ [(key, n)])

/-- Changes what lies at the end of the path of a header. -/
def under (change : Entries → Option Entries) : List String → Entries → Option Entries
  | [], es => change es
  | key :: path, es =>
    match es.lookup key with
    | none => (under change path []).map fun sub => es ++ [(key, .table true false sub)]
    | some (.table implicit dotted sub) =>
      (under change path sub).map fun sub => put key (.table implicit dotted sub) es
    | some (.tables items) =>
      match items.getLast? with
      | some sub => (under change path sub).map fun sub =>
          put key (.tables (items.dropLast ++ [sub])) es
      | none => none
    | some (.value _) => none

/-- Sets the value of a dotted key. The table of the value is one that dotted keys have made. A
table before it may also be there because of a header below it, or be the last of an array. -/
def set (value : Json) : List String → Entries → Option Entries
  | [], _ => none
  | [key], es => add key (.value value) es
  | key :: path, es =>
    match es.lookup key with
    | none => (set value path []).map fun sub => es ++ [(key, .table true true sub)]
    | some (.table true dotted sub) =>
      if dotted ∨ 1 < path.length then
        (set value path sub).map fun sub => put key (.table true dotted sub) es
      else none
    | some (.tables items) =>
      match items.getLast? with
      | some sub =>
        if 1 < path.length then
          (set value path sub).map fun sub => put key (.tables (items.dropLast ++ [sub])) es
        else none
      | none => none
    | some _ => none

/-- Opens the table of a header. -/
def openTable (key : String) (es : Entries) : Option Entries :=
  match es.lookup key with
  | none => some (es ++ [(key, .table false false [])])
  | some (.table true false sub) => some (put key (.table false false sub) es)
  | some _ => none

/-- Opens the next table of an array. -/
def openNext (key : String) (es : Entries) : Option Entries :=
  match es.lookup key with
  | none => some (es ++ [(key, .tables [[]])])
  | some (.tables items) => some (put key (.tables (items ++ [[]])) es)
  | some _ => none

end Entries

end LeaseRoutes.Toml
