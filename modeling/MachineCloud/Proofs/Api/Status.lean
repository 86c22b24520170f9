import MachineCloud.Proofs.Api.Operation

/-!
# Statuses that are errors

An operation whose inquiry is answered fails with an API error exactly if the status of the answer is
one of those from 400 to 599.  An answer with any other status is read as if its status were 200, or 204
if it is that one.  So an answer outside the range from 200 to 299 may still be taken for a result
(`perform_of_received`).
-/

namespace MachineCloud

namespace Http

variable {status : Int} (reason : String) (body : Bytes)

/-- The error statuses are those from 400 to 599. -/
theorem isOk_eq_false_iff : isOk status = false ↔ 400 ≤ status ∧ status < 600 := by
  simp only [isOk, Bool.or_eq_false_iff, decide_eq_false_iff_not, Int.not_lt, Int.not_le]

/-- An error status makes an API error of a response. -/
theorem content_of_isError (h : isOk status = false) :
    content status reason body = .error (.of (.api false (.int status) reason body)) := by
  rw [content, h]
  rfl

/-- All other statuses but 204 count as 200, and the reason is of no account. -/
theorem content_of_isOk (h : isOk status = true) :
    content status reason body = content (if status = 204 then 204 else 200) "" body := by
  by_cases hempty : status = 204
  · rw [if_pos hempty, hempty]
    rfl
  · have hok : isOk 200 = true := rfl
    rw [if_neg hempty, content, content, h, hok]
    simp [hempty]

/-- What such a response fails with is no API error. -/
theorem isApi_of_content (h : isOk status = true) {failure : Failure}
    (hfailure : content status reason body = .error failure) : failure.fault.isApi = false := by
  rw [content, h] at hfailure
  split at hfailure
  · next hnot => cases hnot
  · split at hfailure
    · cases hfailure
    · split at hfailure <;> cases hfailure
      rfl

end Http

namespace Operation

variable {h : Handle} {op : Operation} {w : World}

/-- Only a response that is an API error makes one of an operation. -/
theorem isApi_of_answer {result : Except Failure Value}
    (hresult : ∀ failure, result = .error failure → failure.fault.isApi = false) {failure : Failure}
    (hanswer : op.answer result = .error failure) : failure.fault.isApi = false := by
  cases result with
  | error f =>
    cases hanswer
    exact hresult _ rfl
  | ok v =>
    change Failure.orThrow Fault.misfit (op.read v) = _ at hanswer
    cases hread : op.read v with
    | error misfit =>
      rw [hread] at hanswer
      cases hanswer
      rfl
    | ok reply =>
      rw [hread] at hanswer
      cases hanswer

/-- An operation whose inquiry is answered makes its result of the response. -/
theorem perform_eq_answer {r : Request} {status : Int} {reason : String} {body : Bytes}
    (hmem : (.request r, .response status reason body) ∈
      w.dialogue ((op.perform (Remote.client h)).run w).2) :
    ((op.perform (Remote.client h)).run w).1 = op.answer (Http.content status reason body) := by
  cases hinquiry : op.inquiry with
  | error failure =>
    rw [run_perform_of_error h hinquiry, World.dialogue_of_append (List.append_nil _).symm] at hmem
    cases hmem
  | ok i =>
    rw [run_perform h hinquiry] at hmem ⊢
    have hsending := Handle.send_spec h i.method i.path i.params i.payload w
    exact congrArg op.answer (hsending.of_response hmem)

/-- An operation whose inquiry is answered fails with the API error that the response makes if the
status is one from 400 to 599.  With any other status it fails with no API error, and does what it does
for the status 200, or 204. -/
theorem perform_of_received (h : Handle) (op : Operation) (w : World) {r : Request} {status : Int}
    {reason : Option String} {body : Bytes}
    (hmem : (.request r, .received status reason body) ∈
      w.dialogue ((op.perform (Remote.client h)).run w).2) :
    let result := ((op.perform (Remote.client h)).run w).1
    (result = .error (.of (.api false (.int status) (reason.getD "") body)) ↔
      400 ≤ status ∧ status < 600) ∧
    (¬ (400 ≤ status ∧ status < 600) →
      (∀ failure, result = .error failure → failure.fault.isApi = false) ∧
      result = op.answer (Http.content (if status = 204 then 204 else 200) "" body)) := by
  intro result
  have hresult : result = op.answer (Http.content status (reason.getD "") body) :=
    perform_eq_answer hmem
  clear_value result
  subst hresult
  rw [← Http.isOk_eq_false_iff, Bool.not_eq_false]
  have hforeign (hok : Http.isOk status = true) (failure : Failure)
      (hfailure : op.answer (Http.content status (reason.getD "") body) = .error failure) :
      failure.fault.isApi = false :=
    isApi_of_answer (fun _ => Http.isApi_of_content _ _ hok) hfailure
  refine ⟨⟨fun heq => ?_, fun herror => ?_⟩, fun hok => ⟨hforeign hok, ?_⟩⟩
  · cases hok : Http.isOk status with
    | false => rfl
    | true => cases hforeign hok _ heq
  · rw [Http.content_of_isError _ _ herror]
    rfl
  · rw [← Http.content_of_isOk _ _ hok]

/-- An answer with the status 304 and without a body, which is taken for a server without an
identifier. -/
theorem perform_of_received_of_notModified :
    let h : Handle := ⟨"https://api.test", .none, 30, true⟩
    let op : Operation := .getServer (.str "p-1") (.str "eu01") (.str "s-1")
    let w : World := { outcomes := [.received 304 (some "Not Modified") []] }
    let ran := (op.perform (Remote.client h)).run w
    (∃ r, (.request r, .received 304 (some "Not Modified") []) ∈ w.dialogue ran.2) ∧
      ran.1 = .ok (.server ⟨.str "", .str "", .str "", .null⟩) := by
  intro h op w ran
  have hmem : (.request _, .received 304 (some "Not Modified") []) ∈ w.dialogue ran.2 :=
    List.mem_cons_self
  exact ⟨⟨_, hmem⟩, ((perform_of_received h op w hmem).2 (by decide)).2⟩

end Operation

end MachineCloud
