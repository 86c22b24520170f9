import MachineCloud.Client.Remote
import MachineCloud.Machine.Lookup
import MachineCloud.Proofs.Api.Sending
import MachineCloud.Proofs.Json.Grammar

/-!
# Deleting a server that may be gone

Deleting a server counts as done if there is no such server.  A failure must not be taken for that:
the server it leaves behind would go on running.  The remote client takes for it just the answer 404
to the request itself (`deleteIfExists_eq_false_iff`), whatever goes on in the exchange of a token
before.

The other way round, a deletion that is done may look like a failure.  Nothing is made of the body of
the answer, but it is read like any other, and a body that cannot be read fails
(`deleteServer_of_success`).
-/

namespace MachineCloud

namespace Http

/-! ## Answers whose body can be read -/

/-- Whether reading the body of a success comes to a value: there is nothing to read, or the body is
the text of a value. -/
def IsReadable (status : Int) (body : Bytes) : Prop :=
  status = 204 ∨ body = [] ∨ ∃ v, Json.IsReadAs v (bodyText body)

variable {status : Int} {body : Bytes}

/-- A success with a body that can be read has a value. -/
theorem exists_content_of_isReadable (hok : isOk status = true) (reason : String)
    (h : IsReadable status body) : ∃ v, content status reason body = .ok v := by
  by_cases hnone : status = 204 ∨ body = []
  · exact ⟨.null, by simp [content, hok, hnone]⟩
  · obtain ⟨hstatus, hbody⟩ := not_or.mp hnone
    obtain ⟨v, hread⟩ := (h.resolve_left hstatus).resolve_left hbody
    have hvalue : bodyValue body = .ok v := Json.read_eq_ok_iff.mpr hread
    exact ⟨v, by simp [content, hok, hstatus, hbody, hvalue]⟩

/-- A success with another body fails as the reader of the body does. -/
theorem exists_content_of_not_isReadable (hok : isOk status = true) (reason : String)
    (h : ¬ IsReadable status body) :
    ∃ fault, bodyValue body = .error fault ∧ content status reason body = .error (.of (.json fault)) := by
  obtain ⟨hstatus, hrest⟩ := not_or.mp h
  obtain ⟨hbody, hread⟩ := not_or.mp hrest
  cases hvalue : bodyValue body with
  | ok v => exact absurd ⟨v, Json.read_eq_ok_iff.mp hvalue⟩ hread
  | error fault => exact ⟨fault, rfl, by simp [content, hok, hstatus, hbody, hvalue]⟩

end Http

namespace Machine

/-! ## Answers that say that a server is gone -/

/-- A foreign failure does not say that there was nothing to delete. -/
theorem isAlreadyGone_of_isForeign {failure : Failure} (h : failure.IsForeign) :
    isAlreadyGone failure = false := by
  rw [isAlreadyGone, h.isNotFound_eq_false, Bool.and_false]

/-- An API error says that there was nothing to delete exactly if its status is 404. -/
theorem isAlreadyGone_of_api (status : Int) (reason : String) (body : Bytes) :
    isAlreadyGone (.of (.api false (.int status) reason body)) = true ↔ status = 404 := by
  rw [← Failure.isNotFound_of_api false status reason body]
  simp [isAlreadyGone, Fault.isInterrupt]

/-! ## Deletions -/

/-- Whether a request to delete a server was sent between two worlds, and was answered with the
status 404. -/
def FoundMissing (h : Handle) (project region server : String) (w w' : World) : Prop :=
  ∃ path authorization reason body,
    Handle.path (.str project) (.str region) [.str "servers", .str server] = .ok path ∧
    (.request (h.request "DELETE" path none none authorization), .response 404 reason body) ∈
      w.dialogue w'

/-- Deleting a server sends one request. -/
theorem run_deleteServer (h : Handle) {project region server : Value} {path : String}
    (hpath : Handle.path project region [.str "servers", server] = .ok path) (w : World) :
    ((Remote.client h).deleteServer project region server).run w =
      (((h.send "DELETE" path none none).run w).1.map fun _ => (),
        ((h.send "DELETE" path none none).run w).2) := by
  have hcall : (h.call "DELETE" project region [.str "servers", server] none none).run w =
      (h.send "DELETE" path none none).run w := by
    rw [Handle.call, hpath]
    rfl
  change ((fun _ => ()) <$> h.call "DELETE" project region [.str "servers", server] none none).run w
    = _
  rw [Action.run_map, hcall]

/-- A deletion tells a server that was there from one that was not, and passes on all failures that
tell neither. -/
theorem run_deleteIfExists (client : Client Action) (project region server : Value) (w : World) :
    (deleteIfExists client project region server).run w =
      match (client.deleteServer project region server).run w with
      | (.ok _, w') => (.ok true, w')
      | (.error failure, w') =>
        if isAlreadyGone failure then (.ok false, w') else (.error failure, w') := by
  rw [deleteIfExists, Action.run_tryCatch, Action.run_bind]
  rcases (client.deleteServer project region server).run w with ⟨failure | _, w'⟩
  · change (if isAlreadyGone failure = true then pure false else throw failure : Action Bool).run w' =
      if isAlreadyGone failure = true then (.ok false, w') else (.error failure, w')
    split <;> rfl
  · rfl

/-- Deleting says that the server was not there exactly if the request to delete it was sent and was
answered with the status 404.  Every other failure comes out as it was raised, and that goes for all
failures to get a response. -/
theorem deleteIfExists_eq_false_iff (h : Handle) (project region server : String) (w : World)
    (hw : ∀ failure, .failed failure ∈ w.outcomes → failure.IsForeign) :
    let deleting := (Remote.client h).deleteServer (.str project) (.str region) (.str server)
    let ran := (deleteIfExists (Remote.client h) (.str project) (.str region) (.str server)).run w
    (ran.1 = .ok false ↔ FoundMissing h project region server w ran.2) ∧
    (∀ failure, (deleting.run w).1 = .error failure →
      ¬ FoundMissing h project region server w ran.2 →
        ran = (.error failure, (deleting.run w).2)) ∧
    ∀ event failure, (event, .failed failure) ∈ w.dialogue ran.2 → ran.1 = .error failure := by
  intro deleting ran
  obtain ⟨path, hpath⟩ :
      ∃ path, Handle.path (.str project) (.str region) [.str "servers", .str server] = .ok path :=
    ⟨_, rfl⟩
  obtain ⟨result, w', hsend⟩ :
      ∃ result w', (h.send "DELETE" path none none).run w = (result, w') := ⟨_, _, rfl⟩
  have hsending := hsend ▸ Handle.send_spec h "DELETE" path none none w
  have hdeleting : deleting.run w = (result.map fun _ => (), w') := by
    rw [run_deleteServer h hpath w, hsend]
  have hran : ran = _ := run_deleteIfExists (Remote.client h) _ _ _ w
  rw [hdeleting] at hran ⊢
  clear_value ran
  have hmissing : FoundMissing h project region server w w' →
      ∃ reason body, result = .error (.of (.api false (.int 404) reason body)) := by
    rintro ⟨_, _, reason, body, -, hmem⟩
    exact ⟨reason, body, hsending.of_response hmem⟩
  cases result with
  | ok v =>
    obtain rfl : ran = (.ok true, w') := hran
    refine ⟨iff_of_false (fun heq => nomatch heq) ?_, nofun, fun event f hmem => ?_⟩
    · intro hfound
      obtain ⟨_, _, heq⟩ := hmissing hfound
      cases heq
    · cases hsending.of_failed hmem
  | error failure =>
    have hran' : ran = if isAlreadyGone failure then (.ok false, w') else (.error failure, w') := hran
    cases hgone : isAlreadyGone failure with
    | true =>
      obtain rfl : ran = (.ok false, w') := by rw [hran', hgone]; rfl
      have hfound : FoundMissing h project region server w w' := by
        rcases hsending.eq_error hw with hforeign | ⟨authorization, status, reason, body, hmem, rfl⟩
        · rw [isAlreadyGone_of_isForeign hforeign] at hgone
          cases hgone
        · obtain rfl := (isAlreadyGone_of_api status reason body).mp hgone
          exact ⟨path, authorization, reason, body, hpath, hmem⟩
      refine ⟨iff_of_true rfl hfound, fun _ _ hnot => absurd hfound hnot, fun event f hmem => ?_⟩
      have hforeign : f.IsForeign := hw f (List.of_mem_zip hmem).2
      cases hsending.of_failed hmem
      rw [isAlreadyGone_of_isForeign hforeign] at hgone
      cases hgone
    | false =>
      obtain rfl : ran = (.error failure, w') := by rw [hran', hgone]; rfl
      refine ⟨iff_of_false (fun heq => nomatch heq) fun hfound => ?_,
        fun f hf _ => by cases hf; rfl, fun event f hmem => ?_⟩
      · obtain ⟨reason, body, heq⟩ := hmissing hfound
        cases heq
        rw [(isAlreadyGone_of_api 404 reason body).mpr rfl] at hgone
        cases hgone
      · cases hsending.of_failed hmem
        rfl

/-- A request to delete that is answered with the status 404, after which a second one would have got
no connection. -/
theorem deleteIfExists_eq_false_iff_of_missing :
    let h : Handle := ⟨"https://api.test", .none, 30, true⟩
    let w : World :=
      { outcomes := [.response 404 "Not Found" [], .failed (.of (.connection "refused"))] }
    (∀ failure, .failed failure ∈ w.outcomes → failure.IsForeign) ∧
      ((deleteIfExists (Remote.client h) (.str "p-1") (.str "eu01") (.str "s-1")).run w).1 =
        .ok false := by
  intro h w
  have hw : ∀ failure, .failed failure ∈ w.outcomes → failure.IsForeign := by
    intro failure hmem
    rcases List.mem_cons.mp hmem with heq | hmem
    · cases heq
    · cases List.mem_singleton.mp hmem
      exact Failure.isForeign_of rfl
  refine ⟨hw, (deleteIfExists_eq_false_iff h "p-1" "eu01" "s-1" w hw).1.mpr ?_⟩
  exact ⟨_, none, "Not Found", [], rfl, List.mem_cons_self⟩

/-! ## Deletions that are done -/

/-- Deleting a server comes to what the value of the answer does, and nothing is made of the value. -/
theorem deleteServer_eq_of_response (h : Handle) (project region server : String) (w : World)
    {r : Request} {status : Int} {reason : String} {body : Bytes}
    (hmem : (.request r, .response status reason body) ∈ w.dialogue
      (((Remote.client h).deleteServer (.str project) (.str region) (.str server)).run w).2) :
    (((Remote.client h).deleteServer (.str project) (.str region) (.str server)).run w).1 =
      (Http.content status reason body).map fun _ => () := by
  obtain ⟨path, hpath⟩ :
      ∃ path, Handle.path (.str project) (.str region) [.str "servers", .str server] = .ok path :=
    ⟨_, rfl⟩
  rw [run_deleteServer h hpath w] at hmem ⊢
  have hsending := h.send_spec "DELETE" path none none w
  exact congrArg (Except.map fun _ => ()) (hsending.of_response hmem)

/-- A deletion that is answered with a success succeeds exactly if the body of the answer can be read,
and the server counts as one that was there.  Otherwise both ways to delete it fail as the reader of the
body does. -/
theorem deleteServer_of_success (h : Handle) (project region server : String) (w : World)
    {r : Request} {status : Int} {reason : Option String} {body : Bytes}
    (hstatus : 200 ≤ status ∧ status < 300)
    (hmem : (.request r, .received status reason body) ∈ w.dialogue
      (((Remote.client h).deleteServer (.str project) (.str region) (.str server)).run w).2) :
    let deleting := ((Remote.client h).deleteServer (.str project) (.str region) (.str server)).run w
    let ran := (deleteIfExists (Remote.client h) (.str project) (.str region) (.str server)).run w
    ran.2 = deleting.2 ∧
    (deleting.1 = .ok () ↔ Http.IsReadable status body) ∧
    (ran.1 = .ok true ↔ Http.IsReadable status body) ∧
    (¬ Http.IsReadable status body → ∃ fault, Http.bodyValue body = .error fault ∧
      deleting.1 = .error (.of (.json fault)) ∧ ran.1 = .error (.of (.json fault))) := by
  intro deleting ran
  have hok : Http.isOk status = true := by
    rw [Http.isOk, Bool.or_eq_true, decide_eq_true_eq]
    exact .inl (by omega)
  have hdeleting : deleting.1 = _ := deleteServer_eq_of_response h project region server w hmem
  have hran : ran = _ := run_deleteIfExists (Remote.client h) _ _ _ w
  rw [show ((Remote.client h).deleteServer _ _ _).run w = deleting from rfl] at hran
  clear_value deleting ran
  obtain ⟨result, w'⟩ := deleting
  by_cases hreadable : Http.IsReadable status body
  · obtain ⟨v, hcontent⟩ := Http.exists_content_of_isReadable hok (reason.getD "") hreadable
    rw [hcontent] at hdeleting
    obtain rfl : result = .ok () := hdeleting
    obtain rfl : ran = (.ok true, w') := hran
    exact ⟨rfl, iff_of_true rfl hreadable, iff_of_true rfl hreadable, absurd hreadable⟩
  · obtain ⟨fault, hfault, hcontent⟩ :=
      Http.exists_content_of_not_isReadable hok (reason.getD "") hreadable
    rw [hcontent] at hdeleting
    obtain rfl : result = .error (.of (.json fault)) := hdeleting
    -- A failure to read is no API error, so it does not pass for a server that is gone either.
    dsimp only at hran
    rw [isAlreadyGone_of_isForeign (Failure.isForeign_of rfl)] at hran
    obtain rfl : ran = (.error (.of (.json fault)), w') := hran
    exact ⟨rfl, iff_of_false (fun heq => nomatch heq) hreadable,
      iff_of_false (fun heq => nomatch heq) hreadable, fun _ => ⟨fault, hfault, rfl, rfl⟩⟩

/-- A request to delete that is accepted with the word `deleted`, which is not JSON. -/
theorem deleteServer_of_success_of_word :
    let h : Handle := ⟨"https://api.test", .none, 30, true⟩
    let body := Utf8.encode "deleted"
    let w : World := { outcomes := [.received 202 (some "Accepted") body] }
    let deleting := ((Remote.client h).deleteServer (.str "p-1") (.str "eu01") (.str "s-1")).run w
    let ran := (deleteIfExists (Remote.client h) (.str "p-1") (.str "eu01") (.str "s-1")).run w
    let failure : Failure := .of (.json (.malformed .value ⟨1, 1, 0⟩))
    (∃ r, (.request r, .received 202 (some "Accepted") body) ∈ w.dialogue deleting.2) ∧
      deleting.1 = .error failure ∧ ran.1 = .error failure := by
  intro h body w deleting ran failure
  obtain ⟨r, hmem⟩ : ∃ r, (.request r, .received 202 (some "Accepted") body) ∈ w.dialogue
      (((Remote.client h).deleteServer (.str "p-1") (.str "eu01") (.str "s-1")).run w).2 := by
    have hauthorized : h.authentication.authorization.run w = (.ok none, w) := rfl
    rw [run_deleteServer h rfl w, Handle.run_send_of_authorized h _ _ _ _ hauthorized]
    exact ⟨_, List.mem_cons_self⟩
  have htext : Http.bodyText (Utf8.encode "deleted") = "deleted" := by decide +kernel
  have hfault : Http.bodyValue (Utf8.encode "deleted") = .error (.malformed .value ⟨1, 1, 0⟩) := by
    simp only [Http.bodyValue, htext, Json.read, String.reduceToList]
    rfl
  have hreadable : ¬ Http.IsReadable 202 body := by
    rintro (hstatus | hbody | ⟨v, hread⟩)
    · cases hstatus
    · exact absurd hbody (show Utf8.encode "deleted" ≠ [] by decide)
    · cases hfault.symm.trans (Json.read_eq_ok_iff.mpr hread)
  obtain ⟨-, -, -, hfails⟩ := deleteServer_of_success h "p-1" "eu01" "s-1" w (by decide) hmem
  obtain ⟨fault, hfault', hdeleting, hran⟩ := hfails hreadable
  obtain rfl : fault = .malformed .value ⟨1, 1, 0⟩ := Except.error.inj (hfault'.symm.trans hfault)
  exact ⟨⟨r, hmem⟩, hdeleting, hran⟩

end Machine

end MachineCloud
