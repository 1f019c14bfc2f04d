import LeaseRoutes.Service
import LeaseRoutes.Text.Pieces

namespace LeaseRoutes

/-- A daemon that has taken so many lines and queued so many operations. Blank lines count as lines;
lines that are no event are noted by their numbers. -/
structure Daemon (σ : Type) where
  service : Service σ
  lines : Nat
  queued : Nat
  malformed : List Nat

namespace Daemon

def fresh (s : Service σ) : Daemon σ := ⟨s, 0, 0, []⟩

def handle (d : Daemon σ) (e : LeaseEvent) : Daemon σ :=
  let (taken, service) := d.service.handle e
  { d with service := service, queued := d.queued + if taken then 1 else 0 }

/-- Takes the next line. -/
def take (d : Daemon σ) (line : String) : Daemon σ :=
  let d := { d with lines := d.lines + 1 }
  if Text.Blank line then d
  else match LeaseEvent.ofText line with
    | .ok e => d.handle e
    | .error _ => { d with malformed := d.malformed ++ [d.lines] }

/-- Does the first piece of work that is queued. -/
def workFirst (network : Http.Network σ) (d : Daemon σ) : Daemon σ :=
  { d with service := d.service.workFirst network }

/-- Probes the switch. -/
def tick (network : Http.Network σ) (d : Daemon σ) : Daemon σ :=
  { d with service := d.service.tick network }

/-- Does all work that is queued. -/
def work (network : Http.Network σ) (d : Daemon σ) : Daemon σ :=
  { d with service := d.service.work network }

/-- A line without the carriage return of its line break. -/
def withoutReturn (line : List Char) : List Char :=
  if line.getLast? = some '\r' then line.dropLast else line

/-- The lines that stand between line feeds. What follows the last line feed has no line break, and
it is a line unless it is empty. -/
def broken : List (List Char) → List (List Char)
  | [] => []
  | [last] => if last.isEmpty then [] else [last]
  | line :: more => withoutReturn line :: broken more

/-- The lines of a text. A line ends with a line feed, which a carriage return may precede; the
last one may lack its line break. -/
def linesOf (input : String) : List String :=
  (broken (Text.pieces '\n' input.toList)).map String.ofList

/-- Takes all lines of a text and does the work of each before the next. -/
def takeAll (network : Http.Network σ) (d : Daemon σ) (input : String) : Daemon σ :=
  (linesOf input).foldl (fun d line => (d.take line).work network) d

end Daemon

end LeaseRoutes
