import LeaseRoutes.Json.Document
import LeaseRoutes.Rpc.Exception
/-!
Answers to a batch. They come as one object, as an array of objects, or with some of the objects
wrapped in arrays of their own. Either all of them decode or the first exception is the result.
-/

namespace LeaseRoutes.Rpc

inductive Id
  | num (n : Int64)
  | text (s : String)
  deriving DecidableEq, Repr

def Id.label : Id → String
  | .num n => Text.signed n.toInt
  | .text s => s

/-- The result of one command. Commands that change the configuration have the result `null`. -/
structure Response where
  id : Id
  result : Json
  deriving DecidableEq, Repr

/-- The structured output of the command. -/
def Response.body (r : Response) : Option Json := r.result.get? "body"

/-- A whole number of 64 bits with sign. -/
def int64? : Json → Option Int64
  | .num (.whole n) =>
    if Int64.minValue.toInt ≤ n ∧ n ≤ Int64.maxValue.toInt then some (Int64.ofInt n) else none
  | _ => none

def id? : Json → Option Id
  | .str s => some (.text s)
  | j => (int64? j).map .num

/-- The exception in an `error` object. -/
def Exception.ofObject (error : Json) : Exception :=
  match (error.get? "code").bind int64?, error.get? "message" with
  | some code, some (.str message) => ⟨code, message, error.get? "data"⟩
  | _, _ => .internal
    "invalid error response: \"code\" (negative number) and \"message\" (string) are required"

/-- Decodes the answer to one command. -/
def Response.ofObject (j : Json) : Except Exception Response :=
  match j with
  | .obj _ =>
    match j.get? "error" with
    | some (.obj members) => .error (.ofObject (.obj members))
    | some (.str message) => .error (.internal message)
    | _ =>
      let id := (j.get? "id").bind id?
      match id, j.get? "result" with
      | some id, some result => .ok ⟨id, result⟩
      | _, _ => .error (.internal
        ("invalid server response: neither \"result\" nor \"error\" fields found (id: " ++
          (id.elim "none" Id.label) ++ ")"))
  | _ => .error (.internal "invalid server response: expected a JSON object")

/-- Decodes an item of an array of answers. -/
def Response.ofItem : Json → Except Exception Response
  | .arr [j] => Response.ofObject j
  | .arr items => .error (.internal
    ("invalid server response: nested array with " ++ Text.decimal items.length ++ " elements"))
  | j => Response.ofObject j

def responsesOfItems : List Json → Except Exception (List Response)
  | [] => .ok []
  | j :: rest => do return (← Response.ofItem j) :: (← responsesOfItems rest)

def responsesOfJson : Json → Except Exception (List Response)
  | .arr items => responsesOfItems items
  | j => (Response.ofObject j).map ([·])

/-- Decodes the body of an answer. -/
def decode (body : String) : Except Exception (List Response) :=
  match Json.ofText? body with
  | some j => responsesOfJson j
  | none => .error (.unparsable "not well-formed")

end LeaseRoutes.Rpc
