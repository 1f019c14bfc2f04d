import LeaseRoutes.Json.Fault
/-!
Tables in the output of switch commands. A table is an object whose members hold its rows, or an
array of such objects; a member holds one row or an array of rows. All rows are taken in order,
whatever the members are called. A row is an object of its columns, or an array of them.
-/

namespace LeaseRoutes.Table

/-- One thing, or an array of things. What can be read as an array of things is one. -/
def oneOrMany (read : Json → Option α) (j : Json) : Option (List α) :=
  match j with
  | .arr items =>
    match items.mapM read with
    | some as => some as
    | none => (read j).map ([·])
  | j => (read j).map ([·])

/-- The rows of one table object, the members in the order of their keys. -/
def memberRows (row : Json → Option α) : Json → Option (List α)
  | .obj members => (members.mapM fun m => oneOrMany row m.2).map List.flatten
  | _ => none

/-- The rows of a table. `null` is a table without rows. -/
def rows (row : Json → Option α) (j : Json) : Option (List α) :=
  match j with
  | .null => some []
  | j => (oneOrMany (memberRows row) j).map List.flatten

/-- The columns of a row with their names. -/
def columns (names : List String) : Json → Option (List (String × Json))
  | .obj members => some members
  | .arr items => if items.length ≤ names.length then some (names.zip items) else none
  | _ => none

/-- A text column; one that is missing is empty. -/
def textColumn (name : String) (columns : List (String × Json)) : Option String :=
  match columns.lookup name with
  | none => some ""
  | some (.str s) => some s
  | some _ => none

/-- A text column that may be absent. -/
def textColumn? (name : String) (columns : List (String × Json)) : Option (Option String) :=
  match columns.lookup name with
  | none | some .null => some none
  | some (.str s) => some (some s)
  | some _ => none

/-- A truth value, perhaps written as text: every text but `false` and `FALSE` is true. -/
def flagColumn (name : String) (columns : List (String × Json)) : Option Bool :=
  match columns.lookup name with
  | none => some false
  | some (.bool b) => some b
  | some (.str s) => some (!(s == "false" || s == "FALSE"))
  | some _ => none

/-- A column that is itself a table. -/
def tableColumn (row : Json → Option α) (name : String) (columns : List (String × Json)) :
    Option (List α) :=
  match columns.lookup name with
  | none => some []
  | some j => rows row j

end LeaseRoutes.Table
