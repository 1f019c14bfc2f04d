import LeaseRoutes.Toml.Quoted
import LeaseRoutes.Toml.Scalar
import LeaseRoutes.Toml.Tree

namespace LeaseRoutes.Toml

def skipSpace (cs : List Char) : List Char := cs.dropWhile isSpace

/-- The text after a comment, if one begins here. A comment goes on to the end of the line. -/
def comment? (cs : List Char) : Option (List Char) :=
  match cs with
  | '#' :: rest =>
    let words := rest.takeWhile fun c => !isControl c
    let rest := rest.drop words.length
    if rest.isEmpty ∨ (lineBreak? rest).isSome then some rest else none
  | cs => some cs

/-- White space, comments and line breaks, with a bound on their number. -/
def skipLines : Nat → List Char → Option (List Char)
  | 0, _ => none
  | bound + 1, cs => do
    let cs ← comment? (skipSpace cs)
    match lineBreak? cs with
    | some rest => skipLines bound rest
    | none => return cs

/-- The text after the end of the line. Nothing but a comment may stand before it. -/
def endOfLine? (cs : List Char) : Option (List Char) := do
  let cs ← comment? (skipSpace cs)
  if cs.isEmpty then return [] else lineBreak? cs

def isBare (c : Char) : Bool := c.isAlphanum || c == '_' || c == '-'

def simpleKeyAt (cs : List Char) : Option (String × List Char) :=
  match cs.takeWhile isBare with
  | [] => keyStringAt cs
  | bare => some (String.ofList bare, cs.drop bare.length)

/-- Keys have no more parts than this, and arrays and tables are nested no deeper in a value. -/
def depthLimit : Nat := 80

/-- The parts of a key between its dots, with a bound on their number. -/
def partsAt : Nat → List Char → Option (List String × List Char)
  | 0, _ => none
  | bound + 1, cs => do
    let (key, rest) ← simpleKeyAt (skipSpace cs)
    match skipSpace rest with
    | '.' :: rest =>
      let (keys, rest) ← partsAt bound rest
      return (key :: keys, rest)
    | rest => return ([key], rest)

def keyAt (cs : List Char) : Option (List String × List Char) := partsAt depthLimit cs

mutual

/-- The value at the start of a text. `steps` bounds the work and `depth` the nesting. -/
def valueAt : (steps depth : Nat) → List Char → Option (Json × List Char)
  | 0, _, _ => none
  | steps + 1, depth, cs =>
    match cs with
    | '"' :: _ | '\'' :: _ => (stringAt cs).map fun (s, rest) => (.str s, rest)
    | '[' :: rest =>
      match depth with
      | 0 => none
      | depth + 1 => (itemsAt steps depth rest).map fun (items, rest) => (.arr items, rest)
    | '\x7b' :: rest =>
      match depth with
      | 0 => none
      | depth + 1 => (entriesAt steps depth [] rest).map fun (es, rest) =>
          (Json.object (Node.members es), rest)
    | cs => wordAt cs

/-- The items of an array up to its bracket. -/
def itemsAt : (steps depth : Nat) → List Char → Option (List Json × List Char)
  | 0, _, _ => none
  | steps + 1, depth, cs => do
    match ← skipLines (cs.length + 1) cs with
    | ']' :: rest => return ([], rest)
    | cs =>
      let (item, rest) ← valueAt steps depth cs
      match ← skipLines (rest.length + 1) rest with
      | ']' :: rest => return ([item], rest)
      | ',' :: rest =>
        let (items, rest) ← itemsAt steps depth rest
        return (item :: items, rest)
      | _ => none

/-- The entries of a table in braces, after those that were read. -/
def entriesAt : (steps depth : Nat) → Entries → List Char → Option (Entries × List Char)
  | 0, _, _, _ => none
  | steps + 1, depth, es, cs => do
    match ← skipLines (cs.length + 1) cs with
    | '\x7d' :: rest => return (es, rest)
    | cs =>
      let (key, rest) ← keyAt cs
      match ← skipLines (rest.length + 1) rest with
      | '=' :: rest =>
        let (value, rest) ← valueAt steps depth (← skipLines (rest.length + 1) rest)
        let es ← es.set value key
        match ← skipLines (rest.length + 1) rest with
        | '\x7d' :: rest => return (es, rest)
        | ',' :: rest => entriesAt steps depth es rest
        | _ => none
      | _ => none

end

/-- Changes the entries at the last part of a key. -/
def atLast (change : String → Entries → Option Entries) (key : List String) (root : Entries) :
    Option Entries := do
  let last ← key.getLast?
  root.under (change last) key.dropLast

/-- Reads the lines of a document, with a bound on their number. `header` is the table that is
open. -/
def linesFrom : Nat → List String → Entries → List Char → Option Entries
  | 0, _, _, _ => none
  | bound + 1, header, root, cs => do
    match ← skipLines (cs.length + 1) cs with
    | [] => return root
    | '[' :: '[' :: rest =>
      match ← keyAt rest with
      | (key, ']' :: ']' :: rest) =>
        linesFrom bound key (← atLast Entries.openNext key root) (← endOfLine? rest)
      | _ => none
    | '[' :: rest =>
      match ← keyAt rest with
      | (key, ']' :: rest) =>
        linesFrom bound key (← atLast Entries.openTable key root) (← endOfLine? rest)
      | _ => none
    | cs =>
      match ← keyAt cs with
      | (key, '=' :: rest) =>
        let (value, rest) ← valueAt (2 * cs.length + 2) depthLimit (skipSpace rest)
        let root ← root.under (fun es => es.set value key) header
        linesFrom bound header root (← endOfLine? rest)
      | _ => none

/-- Reads a document as an object. -/
def ofText? (s : String) : Option Json :=
  let cs := match s.toList with
    | '\uFEFF' :: rest => rest
    | cs => cs
  (linesFrom (cs.length + 1) [] [] cs).map fun es => Json.object (Node.members es)

end LeaseRoutes.Toml
