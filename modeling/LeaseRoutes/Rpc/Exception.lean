import LeaseRoutes.Json.Printer

namespace LeaseRoutes.Rpc

/-- What an exception is about. It is reported by the switch, or raised where its answer cannot be
decoded. -/
inductive Kind
  | parseError
  | invalidRequest
  | methodNotFound
  | invalidParams
  | internalError
  | serverError
  | invalid
  deriving DecidableEq, Repr

def Kind.name : Kind → String
  | .parseError => "parse_error"
  | .invalidRequest => "invalid_request"
  | .methodNotFound => "method_not_found"
  | .invalidParams => "invalid_params"
  | .internalError => "internal_error"
  | .serverError => "server_error"
  | .invalid => "invalid"

/-- The kind that a code stands for. -/
def Kind.ofCode (code : Int64) : Kind :=
  if code = -32700 then .parseError
  else if code = -32600 then .invalidRequest
  else if code = -32601 then .methodNotFound
  else if code = -32602 then .invalidParams
  else if code = -32603 then .internalError
  else if -32099 ≤ code ∧ code ≤ -32000 then .serverError
  else .invalid

structure Exception where
  code : Int64
  message : String
  data : Option Json
  deriving DecidableEq, Repr

namespace Exception

def kind (e : Exception) : Kind := Kind.ofCode e.code

def internal (message : String) : Exception := ⟨-32603, message, none⟩

def unparsable (reason : String) : Exception :=
  ⟨-32700, "invalid JSON response from server: " ++ reason, none⟩

/-- The exception in words. -/
def text (e : Exception) : String :=
  e.kind.name ++ ": " ++ e.message ++
    match e.data with
    | some d => ", data: " ++ d.text
    | none => ""

end Exception

end LeaseRoutes.Rpc
