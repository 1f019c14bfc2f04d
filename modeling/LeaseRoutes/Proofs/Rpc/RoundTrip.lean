import LeaseRoutes.Proofs.Json.RoundTrip
import LeaseRoutes.Proofs.Rpc.Decoding
import LeaseRoutes.Rpc.Batch

namespace LeaseRoutes.Rpc

/-! ## Requests -/

/-- The value requests the command. -/
structure Command.Asked (c : Command) (request : Json) : Prop where
  method : request.get? "method" = some (.str "cli")
  id : request.get? "id" = some (Json.ofInt c.id.toInt)
  jsonrpc : request.get? "jsonrpc" = some (.str "2.0")
  params : request.get? "params" =
    some (.obj [("cmd", .str c.text), ("version", Json.ofNat 1)])

/-- The members of a request stand in the order of their keys. -/
theorem Batch.request_eq (c : Command) : Batch.request c = .obj [
    ("id", Json.ofInt c.id.toInt), ("jsonrpc", .str "2.0"), ("method", .str "cli"),
    ("params", .obj [("cmd", .str c.text), ("version", Json.ofNat 1)])] := by
  simp (disch := decide) only [request, Json.object, List.foldl_cons, List.foldl_nil,
    Json.setMember.eq_1, Json.setMember_of_lt, Json.setMember_of_gt]

theorem Command.asked_request (c : Command) : c.Asked (Batch.request c) := by
  rw [Batch.request_eq]
  exact ⟨rfl, rfl, rfl, rfl⟩

theorem fits_id (i : Int64) : Json.Fits i.toInt :=
  ⟨i.le_toInt, Int.lt_trans i.toInt_lt (by decide)⟩

namespace Batch

theorem exact_request (c : Command) : (request c).Exact := by
  have version : Json.Fits 1 := ⟨by decide, by decide⟩
  rw [request_eq]
  exact ⟨fits_id c.id, trivial, trivial, ⟨trivial, version, trivial⟩, trivial⟩

theorem depth_request (c : Command) : (request c).depth = 2 := by
  rw [request_eq]
  rfl

theorem normal_request (c : Command) : (request c).normal = request c := by
  rw [request_eq]
  simp (disch := decide) only [Json.normal, Json.normalMembers, Json.object, List.foldl_cons,
    List.foldl_nil, Json.setMember.eq_1, Json.setMember_of_gt, Json.ofInt, Json.ofNat]

/-- The requests are read back from the wire. -/
theorem ofText?_wire (b : Batch) : Json.ofText? b.wire = some (.arr (b.commands.map request)) := by
  have exact : b.encode.Exact := by
    refine Json.exactItems_iff.2 fun x member => ?_
    obtain ⟨c, -, rfl⟩ := List.mem_map.1 member
    exact exact_request c
  have shallow : b.encode.depth ≤ 3 := by
    refine Nat.succ_le_succ (Json.depthItems_le_iff.2 fun x member => ?_)
    obtain ⟨c, -, rfl⟩ := List.mem_map.1 member
    exact Nat.le_of_eq (depth_request c)
  have normal : b.encode.normal = .arr (b.commands.map request) := by
    rw [encode, Json.normal, Json.normalItems_eq_map, List.map_map]
    congr 1
    exact List.map_congr_left fun c _ => normal_request c
  rw [wire, Json.ofText?_text exact (Nat.le_trans shallow (by decide)), normal]

end Batch

/-! ## Answers -/

/-- The answer has the id of the request, and the output is the command of the request. Its members
may stand in any order. -/
def Echoes (request answer : Json) : Prop :=
  ∃ id params command members, request.get? "id" = some id ∧
    request.get? "params" = some params ∧ params.get? "cmd" = some command ∧
    answer = .obj members ∧ members.Perm [("jsonrpc", .str "2.0"), ("id", id),
      ("result", .obj [("body", .obj [("echo", command)])])]

/-- A reply to all requests: an array with an answer to each of them, some perhaps wrapped in arrays
of their own, or the answer alone if there is one request. -/
inductive EchoReply : List Json → Json → Prop
  | array {requests items : List Json}
      (h : List.Forall₂ (fun request item =>
        Echoes request item ∨ ∃ answer, item = .arr [answer] ∧ Echoes request answer)
        requests items) : EchoReply requests (.arr items)
  | single {request answer : Json} (h : Echoes request answer) : EchoReply [request] answer

/-- What the command is answered with. -/
def Command.echo (c : Command) : Response :=
  ⟨.num c.id, .obj [("body", .obj [("echo", .str c.text)])]⟩

/-- A value that is read back from its text as the answer to the command. -/
structure Command.Echoed (c : Command) (answer : Json) : Prop where
  exact : answer.Exact
  shallow : answer.depth ≤ 3
  stands : c.echo.Stands answer.normal

theorem Command.Asked.echoed {c : Command} {request answer : Json} (h : c.Asked request)
    (echoes : Echoes request answer) : c.Echoed answer := by
  obtain ⟨id, params, command, members, sameId, sameParams, sameCommand, rfl, perm⟩ := echoes
  obtain rfl : Json.ofInt c.id.toInt = id := Option.some.inj (h.id.symm.trans sameId)
  obtain rfl := Option.some.inj (h.params.symm.trans sameParams)
  obtain rfl : Json.str c.text = command := Option.some.inj sameCommand
  have keys : (members.map Prod.fst).Perm ["jsonrpc", "id", "result"] := perm.map Prod.fst
  have distinct : (members.map Prod.fst).Nodup := keys.nodup_iff.2 (by decide)
  have noError : "error" ∉ members.map Prod.fst := by
    rw [keys.mem_iff]
    decide
  have absent := Json.get?_normal_of_notMem noError
  have id : ("id", Json.ofInt c.id.toInt) ∈ members := perm.mem_iff.2 (by simp)
  have result : ("result", c.echo.result) ∈ members := perm.mem_iff.2 (by simp [echo])
  constructor
  · refine Json.exactMembers_iff.2 fun m member => ?_
    rcases List.mem_cons.1 (perm.mem_iff.1 member) with rfl | member
    · trivial
    rcases List.mem_pair.1 member with rfl | rfl
    · exact fits_id c.id
    · exact ⟨⟨trivial, trivial⟩, trivial⟩
  · refine Nat.succ_le_succ (Json.depthMembers_le_iff.2 fun m member => ?_)
    rcases List.mem_cons.1 (perm.mem_iff.1 member) with rfl | member
    · exact Nat.zero_le 2
    rcases List.mem_pair.1 member with rfl | rfl
    · exact Nat.zero_le 2
    · exact Nat.le_refl 2
  · refine ⟨⟨_, rfl⟩, ?_, ?_, ⟨_, Json.get?_normal_of_mem distinct id, .num c.id⟩, ?_⟩
    · intro error there
      rw [absent] at there
      cases there
    · intro message there
      rw [absent] at there
      cases there
    · exact Json.get?_normal_of_mem distinct result

/-- An item of a reply holds the answer, be it wrapped or not. -/
structure Command.Held (c : Command) (item : Json) : Prop where
  exact : item.Exact
  shallow : item.depth ≤ 4
  holds : c.echo.Holds item.normal

theorem Command.Asked.held {c : Command} {request item : Json} (h : c.Asked request)
    (echoes : Echoes request item ∨ ∃ answer, item = .arr [answer] ∧ Echoes request answer) :
    c.Held item := by
  rcases echoes with echoes | ⟨answer, rfl, echoes⟩
  · obtain ⟨exact, shallow, stands⟩ := h.echoed echoes
    exact ⟨exact, Nat.le_succ_of_le shallow, .inl stands⟩
  · obtain ⟨exact, shallow, stands⟩ := h.echoed echoes
    have depth : (Json.arr [answer]).depth ≤ 4 := by
      refine Nat.succ_le_succ (Json.depthItems_le_iff.2 fun x member => ?_)
      rwa [List.mem_singleton.1 member]
    exact ⟨⟨exact, trivial⟩, depth, .inr ⟨_, rfl, stands⟩⟩

theorem items_of_held {commands : List Command} {items : List Json}
    (h : List.Forall₂ Command.Held commands items) :
    Json.ExactItems items ∧ Json.depthItems items ≤ 4 ∧
      List.Forall₂ (fun j (r : Response) => r.Holds j) (Json.normalItems items)
        (commands.map Command.echo) := by
  induction h with
  | nil => exact ⟨trivial, Nat.zero_le 4, .nil⟩
  | cons held _ ih =>
    obtain ⟨exact, shallow, holds⟩ := ih
    exact ⟨⟨held.exact, exact⟩, Nat.max_le.2 ⟨held.shallow, shallow⟩, .cons held.holds holds⟩

theorem EchoReply.answers {commands : List Command} {requests : List Json} {reply : Json}
    (h : EchoReply requests reply) (asked : commands.map Batch.request = requests) :
    reply.Exact ∧ reply.depth ≤ 5 ∧ Answers reply.normal (commands.map Command.echo) := by
  cases h with
  | array h =>
    subst asked
    have held : List.Forall₂ Command.Held commands _ :=
      (List.forall₂_map_left_iff.1 h).imp fun c _ echoes => c.asked_request.held echoes
    obtain ⟨exact, shallow, holds⟩ := items_of_held held
    exact ⟨exact, Nat.succ_le_succ shallow, .array holds⟩
  | single h =>
    obtain ⟨c, rfl, rfl⟩ := List.map_eq_singleton_iff.1 asked
    obtain ⟨exact, shallow, stands⟩ := c.asked_request.echoed h
    exact ⟨exact, Nat.le_trans shallow (by decide), .single stands⟩

theorem decode_of_answers {reply : Json} {rs : List Response} (exact : reply.Exact)
    (shallow : reply.depth ≤ Json.Document.depthLimit) (h : Answers reply.normal rs) :
    decode reply.text = .ok rs := by
  rw [decode, Json.ofText?_text exact shallow]
  exact responsesOfJson_of_answers h

/-- The requests that arrive are those of the commands in their order, and the answers to them
decode to the ids and the texts of the commands in their order. -/
theorem Batch.round_trip (b : Batch) : ∃ requests, Json.ofText? b.wire = some (.arr requests) ∧
    List.Forall₂ (fun request (c : Command) => c.Asked request) requests b.commands ∧
    ∀ reply, EchoReply requests reply → ∃ rs, decode reply.text = .ok rs ∧
      List.Forall₂ (fun (r : Response) (c : Command) => r.id = .num c.id ∧
        ∃ body, r.body = some body ∧ body.get? "echo" = some (.str c.text)) rs b.commands := by
  refine ⟨b.commands.map request, b.ofText?_wire, ?_, fun reply h => ?_⟩
  · rw [List.forall₂_map_left_iff, List.forall₂_same]
    exact fun c _ => c.asked_request
  · obtain ⟨exact, shallow, answers⟩ := h.answers rfl
    refine ⟨_, decode_of_answers exact (Nat.le_trans shallow (by decide)) answers, ?_⟩
    rw [List.forall₂_map_left_iff, List.forall₂_same]
    exact fun c _ => ⟨rfl, _, rfl, rfl⟩

/-! ## An exchange with escapes -/

def sampleQuoted : Command := ⟨Int64.minValue, "description \"a\\b\""⟩

def sampleControl : Command := ⟨7, "banner é\x01\n"⟩

/-- An answer whose members are not in the order of their keys. -/
def sampleAnswer (c : Command) : Json :=
  .obj [("result", c.echo.result), ("jsonrpc", .str "2.0"), ("id", Json.ofInt c.id.toInt)]

theorem echoes_sampleAnswer (c : Command) : Echoes (Batch.request c) (sampleAnswer c) := by
  have asked := c.asked_request
  refine ⟨_, _, _, _, asked.id, asked.params, rfl, rfl, ?_⟩
  exact (List.perm_append_singleton _ _).symm

/-- A quote, a backslash and a control character come back from the switch as they are, from an
answer that is wrapped as well as from one that is not. -/
theorem Batch.round_trip_escapes :
    ∃ rs, decode (Json.text
        (.arr [sampleAnswer sampleQuoted, .arr [sampleAnswer sampleControl]])) = .ok rs ∧
      List.Forall₂ (fun (r : Response) (c : Command) => r.id = .num c.id ∧
        ∃ body, r.body = some body ∧ body.get? "echo" = some (.str c.text)) rs
        [sampleQuoted, sampleControl] := by
  obtain ⟨requests, read, -, replies⟩ := Batch.round_trip ⟨[sampleQuoted, sampleControl]⟩
  rw [Batch.ofText?_wire] at read
  obtain rfl := Json.arr.inj (Option.some.inj read)
  refine replies _ (.array (.cons (.inl ?_) (.cons (.inr ⟨_, rfl, ?_⟩) .nil)))
  · exact echoes_sampleAnswer sampleQuoted
  · exact echoes_sampleAnswer sampleControl

end LeaseRoutes.Rpc
