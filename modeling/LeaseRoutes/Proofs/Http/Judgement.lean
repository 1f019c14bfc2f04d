import LeaseRoutes.Http.Client

namespace LeaseRoutes

namespace Switch.Reply

/-! ## Responses that were received to the end -/

/-- What a body holds. An empty one is the fault of the switch. -/
def contents (body : String) : Except Rpc.Exception (List Rpc.Response) :=
  if body = "" then .error (.internal "no body found in the response") else Rpc.decode body

/-- The verdict on the reply to a command that changes a route. With the status 500 the contents
do not matter. -/
inductive Judged (status : Nat) :
    Except Rpc.Exception (List Rpc.Response) → Except Fault Verdict → Prop
  | benign (contents : Except Rpc.Exception (List Rpc.Response)) : status = 500 →
      Judged status contents (.ok .benign)
  | exception (e : Rpc.Exception) : status ≠ 500 → Judged status (.error e) (.error (.rpc e))
  | unauthorized (results : List Rpc.Response) : status = 401 →
      Judged status (.ok results) (.error .unauthorized)
  | empty : status ≠ 500 → status ≠ 401 → Judged status (.ok []) (.error .emptyResponse)
  | success (first : Rpc.Response) (rest : List Rpc.Response) : status ≠ 500 → status ≠ 401 →
      Judged status (.ok (first :: rest)) (.ok .success)

/-- The result of a lookup. With an exception the status does not matter. -/
inductive LookedUp (status : Nat) :
    Except Rpc.Exception (List Rpc.Response) → Except Fault Rpc.Response → Prop
  | exception (e : Rpc.Exception) : LookedUp status (.error e) (.error (.rpc e))
  | result (first : Rpc.Response) (rest : List Rpc.Response) : status = 200 →
      LookedUp status (.ok (first :: rest)) (.ok first)
  | empty : status = 200 → LookedUp status (.ok []) (.error .emptyResponse)
  | unauthorized (results : List Rpc.Response) : status = 401 →
      LookedUp status (.ok results) (.error .unauthorized)
  | status (results : List Rpc.Response) : status ≠ 200 → status ≠ 401 →
      LookedUp status (.ok results) (.error (.status status))

theorem contents_eq (body : String) :
    contents body = if body.isEmpty then .error (.internal "no body found in the response")
      else Rpc.decode body := by
  simp only [contents, String.isEmpty_iff]

/-- An exception leaves no results. -/
theorem ofBody_of_error (status : Nat) {body : String} {e : Rpc.Exception}
    (h : contents body = .error e) : ofBody status body = ⟨none, status, [], some e⟩ := by
  rw [contents_eq] at h
  simp only [ofBody, h]

theorem ofBody_of_ok (status : Nat) {body : String} {results : List Rpc.Response}
    (h : contents body = .ok results) : ofBody status body = ⟨none, status, results, none⟩ := by
  rw [contents_eq] at h
  simp only [ofBody, h]

theorem judged_judge (status : Nat) (body : String) :
    Judged status (contents body) (ofBody status body).judge := by
  by_cases benign : status = 500
  · have : (ofBody status body).judge = .ok .benign := by
      cases held : contents body with
      | error e => simp only [ofBody_of_error status held, judge, if_pos benign]
      | ok results => simp only [ofBody_of_ok status held, judge, if_pos benign]
    rw [this]
    exact .benign _ benign
  · cases held : contents body with
    | error e =>
      have : (ofBody status body).judge = .error (.rpc e) := by
        simp [ofBody_of_error status held, judge, benign]
      rw [this]
      exact .exception e benign
    | ok results =>
      rw [ofBody_of_ok status held]
      by_cases unauthorized : status = 401
      · simp only [judge, if_neg benign, if_pos unauthorized]
        exact .unauthorized results unauthorized
      · simp only [judge, if_neg benign, if_neg unauthorized]
        cases results with
        | nil => exact .empty benign unauthorized
        | cons first rest => exact .success first rest benign unauthorized

theorem lookedUp_lookup (status : Nat) (body : String) :
    LookedUp status (contents body) (ofBody status body).lookup := by
  cases held : contents body with
  | error e =>
    rw [ofBody_of_error status held]
    exact .exception e
  | ok results =>
    rw [ofBody_of_ok status held]
    by_cases fine : status = 200
    · simp only [lookup, if_pos fine]
      cases results with
      | nil => exact .empty fine
      | cons first rest => exact .result first rest fine
    · by_cases unauthorized : status = 401
      · simp only [lookup, if_neg fine, if_pos unauthorized]
        exact .unauthorized results unauthorized
      · simp only [lookup, if_neg fine, if_neg unauthorized]
        exact .status results fine unauthorized

/-- Status and contents leave room for one verdict only. -/
theorem Judged.unique {status : Nat} {contents : Except Rpc.Exception (List Rpc.Response)}
    {v w : Except Fault Verdict} (hv : Judged status contents v) (hw : Judged status contents w) :
    v = w := by
  cases hv <;> cases hw <;> first | rfl | omega

theorem LookedUp.unique {status : Nat} {contents : Except Rpc.Exception (List Rpc.Response)}
    {v w : Except Fault Rpc.Response} (hv : LookedUp status contents v)
    (hw : LookedUp status contents w) : v = w := by
  cases hv <;> cases hw <;> first | rfl | omega

theorem judge_ofBody_iff (status : Nat) (body : String) (v : Except Fault Verdict) :
    (ofBody status body).judge = v ↔ Judged status (contents body) v :=
  ⟨fun h => h ▸ judged_judge status body, (judged_judge status body).unique⟩

theorem lookup_ofBody_iff (status : Nat) (body : String) (v : Except Fault Rpc.Response) :
    (ofBody status body).lookup = v ↔ LookedUp status (contents body) v :=
  ⟨fun h => h ▸ lookedUp_lookup status body, (lookedUp_lookup status body).unique⟩

theorem Judged.benign_iff {status : Nat} {contents : Except Rpc.Exception (List Rpc.Response)} :
    Judged status contents (.ok .benign) ↔ status = 500 := by
  constructor
  · intro h
    cases h with
    | benign _ h => exact h
  · exact .benign contents

/-- What has a result is a success when it is judged. -/
theorem LookedUp.judged {status : Nat} {contents : Except Rpc.Exception (List Rpc.Response)}
    {x : Rpc.Response} (h : LookedUp status contents (.ok x)) :
    Judged status contents (.ok .success) := by
  cases h with
  | result _ rest fine => exact .success x rest (by omega) (by omega)

/-- Success needs contents without an exception. -/
theorem Judged.contents_of_success {status : Nat}
    {contents : Except Rpc.Exception (List Rpc.Response)}
    (h : Judged status contents (.ok .success)) : ∃ first rest, contents = .ok (first :: rest) := by
  cases h with
  | success first rest => exact ⟨first, rest, rfl⟩

end Switch.Reply

namespace Http

open Switch

/-! ## Replies that a client hands out -/

/-- How a reply can arise: from a response with a whole body, or for want of one. -/
inductive Arises : Reply → Prop
  | received (status : Nat) (body : String) : Arises (.ofBody status body)
  | failed (e : TransportFault) (status : Nat) : Arises (.failed e status)

theorem Response.arises_reply (a : Response) : Arises a.reply := by
  unfold reply
  split
  · exact .received a.status _
  · next e _ => exact .failed e a.status

theorem Request.arises_of_next {r : Request} {o : Outcome} {x : Reply} (h : r.next o = .reply x) :
    Arises x := by
  cases o with
  | error e =>
    obtain rfl := Next.reply.inj h
    exact .failed e 0
  | ok a =>
    simp only [next] at h
    split at h
    · cases h
    · obtain rfl := Next.reply.inj h
      exact .failed .connection 0
    · obtain rfl := Next.reply.inj h
      exact a.arises_reply

/-- However many redirects are followed. -/
theorem Network.arises_post (network : Network σ) (redirects : Nat) (r : Request) (s : σ) :
    Arises (network.post redirects r s).1 := by
  induction redirects generalizing r s with
  | zero =>
    unfold post
    split
    next o t _ =>
    cases next : r.next o with
    | reply x => simpa only [next] using Request.arises_of_next next
    | request _ => simpa only [next] using Arises.failed .redirects 0
  | succ redirects ih =>
    unfold post
    split
    next o t _ =>
    cases next : r.next o with
    | reply x => simpa only [next] using Request.arises_of_next next
    | request r' => simpa only [next] using ih r' t

theorem Refusal.arises_reply (e : Refusal) : Arises e.reply := by
  cases e <;> exact .failed _ 0

theorem Client.arises_exchange (c : Client) (network : Network σ) (b : Rpc.Batch) (s : σ) :
    Arises ((c.channel network).exchange s b).1 := by
  simp only [channel, send]
  cases c.request endpoint b with
  | error e => exact e.arises_reply
  | ok r =>
    cases r with
    | none => exact .failed .unknown 0
    | some r => exact network.arises_post redirectLimit r s

/-- A lookup accepts no reply that is not a success. -/
theorem Arises.success_of_lookup {r : Reply} (h : Arises r) {x : Rpc.Response}
    (found : r.lookup = .ok x) : r.judge = .ok .success := by
  cases h with
  | received status body =>
    have looked := (Reply.lookup_ofBody_iff status body _).1 found
    exact (Reply.judge_ofBody_iff status body _).2 looked.judged
  | failed e status => cases found

/-- No success hides an exception. -/
theorem Arises.exception_of_success {r : Reply} (h : Arises r) (success : r.judge = .ok .success) :
    r.exception = none := by
  cases h with
  | received status body =>
    have judged := (Reply.judge_ofBody_iff status body _).1 success
    obtain ⟨first, rest, held⟩ := judged.contents_of_success
    rw [Reply.ofBody_of_ok status held]
  | failed e status => cases success

end Http

namespace Switch.Reply

/-- Replies are judged by what was received. The status 500 is benign whatever the body holds, and
only it is. A lookup puts the exception first. A failure on the way comes before both. All replies
of a client are of these two kinds, so what a lookup accepts is a success, and a success has no
exception. -/
theorem judgement_exact :
    (∀ (status : Nat) (body : String),
      (∀ e, contents body = .error e → ofBody status body = ⟨none, status, [], some e⟩) ∧
      (∀ results, contents body = .ok results →
        ofBody status body = ⟨none, status, results, none⟩) ∧
      (∀ v, (ofBody status body).judge = v ↔ Judged status (contents body) v) ∧
      ((ofBody status body).judge = .ok .benign ↔ status = 500) ∧
      ∀ v, (ofBody status body).lookup = v ↔ LookedUp status (contents body) v) ∧
    (∀ (e : TransportFault) (status : Nat),
      (failed e status).judge = .error (.transport e) ∧
      (failed e status).lookup = .error (.transport e)) ∧
    (∀ a : Http.Response,
      (∀ bytes, a.body = .ok bytes →
        a.reply = ofBody a.status (String.ofList (Text.ofUtf8Lossy bytes))) ∧
      ∀ e, a.body = .error e → a.reply = failed e a.status) ∧
    (∀ (σ : Type) (client : Http.Client) (network : Http.Network σ) (b : Rpc.Batch) (s : σ),
      Http.Arises ((client.channel network).exchange s b).1) ∧
    ∀ r, Http.Arises r →
      (∀ x, r.lookup = .ok x → r.judge = .ok .success) ∧
      ∀ e, r.exception = some e → r.judge ≠ .ok .success := by
  refine ⟨fun status body => ⟨?_, ?_, ?_, ?_, ?_⟩, fun e status => ⟨rfl, rfl⟩, fun a => ⟨?_, ?_⟩,
    ?_, ?_⟩
  · exact fun e => ofBody_of_error status
  · exact fun results => ofBody_of_ok status
  · exact judge_ofBody_iff status body
  · rw [judge_ofBody_iff]
    exact Judged.benign_iff
  · exact lookup_ofBody_iff status body
  · intro bytes whole
    simp only [Http.Response.reply, whole]
  · intro e broken
    simp only [Http.Response.reply, broken]
  · intro σ client network b s
    exact client.arises_exchange network b s
  · intro r arises
    refine ⟨fun x => arises.success_of_lookup, fun e hidden success => ?_⟩
    rw [arises.exception_of_success success] at hidden
    cases hidden

/-- A change is judged by its results under most statuses, where a lookup is refused. -/
example :
    let r := ofBody 404 "\x7b\"id\":1,\"result\":null\x7d"
    r.judge.toOption = some .success ∧ r.lookup.toOption = none := by
  decide +kernel

end Switch.Reply

end LeaseRoutes
