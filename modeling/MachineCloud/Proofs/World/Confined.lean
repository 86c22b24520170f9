import Mathlib.Data.List.Basic
import MachineCloud.World

/-!
# Confined actions

An action is confined to some events if nothing else reaches the log through it.  Such an action does
not look at the environment either, takes the outcomes of its requests from the front of the script,
and is interrupted only by one of these.  What is put together from confined actions is confined, so
that a whole command is as soon as its single steps are.
-/

namespace MachineCloud

/-- The world with another environment. -/
def World.within (w : World) (environment : Entries String) : World :=
  { w with environment := environment }

namespace Action

variable {α β : Type} {p q : Event → Prop}

/-- What a run does that is confined to some events. -/
structure Confines (p : Event → Prop) (w : World) (ran : Except Failure α × World) : Prop where
  /-- Only such events are logged. -/
  log : ∃ sent, ran.2.log = w.log ++ sent ∧ ∀ event ∈ sent, p event
  /-- Outcomes are taken from the front. -/
  outcomes : ran.2.outcomes <:+ w.outcomes
  /-- An interrupt is one of the outcomes. -/
  interrupted : ∀ failure, ran.1 = .error failure → failure.fault.isInterrupt = true →
    .failed failure ∈ w.outcomes

/-- Whether an action is confined to some events. -/
structure Confined (p : Event → Prop) (x : Action α) : Prop where
  /-- In every environment it does the same. -/
  run_within : ∀ w environment,
    x.run (w.within environment) = ((x.run w).1, (x.run w).2.within environment)
  confines : ∀ w, Confines p w (x.run w)

/-- A confined action leaves the environment as it is. -/
theorem Confined.environment {x : Action α} (hx : Confined p x) (w : World) :
    (x.run w).2.environment = w.environment := by
  have hrun := hx.run_within w w.environment
  exact congrArg (fun ran => ran.2.environment) hrun

/-- What is confined to some events is confined to more. -/
theorem Confined.mono {x : Action α} (hx : Confined p x) (hpq : ∀ event, p event → q event) :
    Confined q x := by
  refine ⟨hx.run_within, fun w => ?_⟩
  obtain ⟨⟨sent, hlog, hsent⟩, houtcomes, hinterrupted⟩ := hx.confines w
  exact ⟨⟨sent, hlog, fun event hmem => hpq event (hsent event hmem)⟩, houtcomes, hinterrupted⟩

/-! ## Single steps -/

/-- A run that changes neither log nor outcomes is confined unless it is interrupted. -/
theorem confines_of_eq {w : World} {ran : Except Failure α × World} (hlog : ran.2.log = w.log)
    (houtcomes : ran.2.outcomes = w.outcomes)
    (h : ∀ failure, ran.1 = .error failure → failure.fault.isInterrupt = false) :
    Confines p w ran := by
  refine ⟨⟨[], hlog.trans (List.append_nil _).symm, by simp⟩, ?_, fun failure hfailure hyes => ?_⟩
  · simp [houtcomes]
  · rw [h failure hfailure] at hyes
    cases hyes

theorem confined_pure (a : α) : Confined p (pure a : Action α) :=
  ⟨fun _ _ => rfl, fun _ => confines_of_eq rfl rfl fun _ hfailure => nomatch hfailure⟩

theorem confined_throw {failure : Failure} (h : failure.fault.isInterrupt = false) :
    Confined p (throw failure : Action α) := by
  refine ⟨fun _ _ => rfl, fun _ => confines_of_eq rfl rfl fun f hf => ?_⟩
  cases hf
  exact h

/-- A result that may be a fault is confined unless that is an interrupt. -/
theorem confined_orThrow {ε : Type} {toFault : ε → Fault} {x : Except ε α}
    (h : ∀ e, x = .error e → (toFault e).isInterrupt = false) :
    Confined p (Failure.orThrow toFault x : Action α) := by
  cases x with
  | error e => exact confined_throw (h e rfl)
  | ok a => exact confined_pure a

theorem confined_ofMisfit (x : Except Misfit α) : Confined p (ofMisfit x) :=
  confined_orThrow fun _ _ => rfl

theorem confined_note {event : Event} (h : p event) : Confined p (note event) := by
  refine ⟨fun _ _ => rfl, fun _ => ⟨⟨[event], rfl, fun e hmem => ?_⟩, List.suffix_rfl, nofun⟩⟩
  cases List.mem_singleton.mp hmem
  exact h

/-- A change is confined if it has nothing to do with environment, log and outcomes. -/
theorem confined_change {f : World → World}
    (hf : ∀ w environment, f (w.within environment) = (f w).within environment)
    (hlog : ∀ w, (f w).log = w.log) (houtcomes : ∀ w, (f w).outcomes = w.outcomes) :
    Confined p (change f) :=
  ⟨fun w environment => congrArg (Prod.mk _) (hf w environment),
    fun w => confines_of_eq (hlog w) (houtcomes w) nofun⟩

theorem confined_draw : Confined p draw :=
  ⟨fun _ _ => rfl, fun _ => confines_of_eq rfl rfl nofun⟩

/-! ## Sequences -/

/-- A confined run goes on with a confined run. -/
theorem Confines.trans {w w' : World} {r : Except Failure α} {ran : Except Failure β × World}
    (h : Confines p w (r, w')) (h' : Confines p w' ran) : Confines p w ran := by
  obtain ⟨⟨sent, hlog, hsent⟩, houtcomes, -⟩ := h
  obtain ⟨⟨more, hlog', hmore⟩, houtcomes', hinterrupted⟩ := h'
  refine ⟨⟨sent ++ more, ?_, fun event hmem => ?_⟩, houtcomes'.trans houtcomes,
    fun failure hfailure hyes => houtcomes.subset (hinterrupted failure hfailure hyes)⟩
  · rw [hlog', hlog, List.append_assoc]
  · exact (List.mem_append.mp hmem).elim (hsent event) (hmore event)

/-- A failure is passed on. -/
theorem Confines.fail {w w' : World} {failure : Failure}
    (h : Confines p w ((.error failure : Except Failure α), w')) :
    Confines p w ((.error failure : Except Failure β), w') := by
  refine ⟨h.log, h.outcomes, fun f hf => ?_⟩
  cases hf
  exact h.interrupted failure rfl

theorem Confined.bind {x : Action α} {k : α → Action β} (hx : Confined p x)
    (hk : ∀ a, Confined p (k a)) : Confined p (x >>= k) := by
  refine ⟨fun w environment => ?_, fun w => ?_⟩
  · rw [run_bind, run_bind, hx.run_within]
    rcases x.run w with ⟨failure | a, w'⟩
    · rfl
    · exact (hk a).run_within w' environment
  · have hfirst := hx.confines w
    rcases hrun : x.run w with ⟨failure | a, w'⟩
    · rw [hrun] at hfirst
      rw [run_bind_error hrun]
      exact hfirst.fail
    · rw [hrun] at hfirst
      rw [run_bind_ok hrun]
      exact hfirst.trans ((hk a).confines w')

theorem Confined.map {x : Action α} (hx : Confined p x) (f : α → β) : Confined p (f <$> x) := by
  rw [map_eq_pure_bind]
  exact hx.bind fun a => confined_pure (f a)

/-- A look at the world is confined if the environment makes no difference to what follows. -/
theorem confined_world {k : World → Action β} (hk : ∀ w, Confined p (k w))
    (hwithin : ∀ w environment, k (w.within environment) = k w) : Confined p (world >>= k) := by
  refine ⟨fun w environment => ?_, fun w => (hk w).confines w⟩
  change (k (w.within environment)).run (w.within environment) = _
  rw [hwithin]
  exact (hk w).run_within w environment

/-- The outcome of a request is confined to what is done about a response, if a failure to get one is
passed on. -/
theorem confined_nextOutcome {k : Outcome → Action β}
    (hresponse : ∀ status reason body, Confined p (k (.response status reason body)))
    (hfailed : ∀ failure, k (.failed failure) = throw failure) :
    Confined p (nextOutcome >>= k) := by
  have hrun (w : World) : (nextOutcome >>= k).run w =
      (k (upcoming w)).run { w with outcomes := w.outcomes.tail } :=
    run_bind_ok (run_nextOutcome w)
  have htail (w : World) : Confines p w
      ((.ok () : Except Failure Unit), { w with outcomes := w.outcomes.tail }) :=
    ⟨⟨[], (List.append_nil _).symm, by simp⟩, List.tail_suffix _, nofun⟩
  refine ⟨fun w environment => ?_, fun w => ?_⟩
  · have hwithin : (nextOutcome >>= k).run (w.within environment) =
        (k (upcoming w)).run (World.within { w with outcomes := w.outcomes.tail } environment) :=
      hrun (w.within environment)
    rw [hwithin, hrun w]
    cases upcoming w with
    | response status reason body => exact (hresponse status reason body).run_within _ environment
    | failed failure =>
      rw [hfailed]
      rfl
  · rw [hrun w]
    cases hup : upcoming w with
    | response status reason body =>
      exact (htail w).trans ((hresponse status reason body).confines _)
    | failed failure =>
      rw [hfailed]
      refine ⟨(htail w).log, (htail w).outcomes, fun f hf hyes => ?_⟩
      cases hf
      rw [upcoming] at hup
      cases houtcomes : w.outcomes with
      | nil =>
        rw [houtcomes] at hup
        cases hup
        cases hyes
      | cons first rest =>
        rw [houtcomes] at hup
        cases hup
        exact List.mem_cons_self

theorem run_tryCatch_ok {x : Action α} {k : Failure → Action α} {w w' : World} {a : α}
    (h : x.run w = (.ok a, w')) : (tryCatch x k).run w = (.ok a, w') := by
  rw [run_tryCatch, h]

theorem run_tryCatch_error {x : Action α} {k : Failure → Action α} {w w' : World}
    {failure : Failure} (h : x.run w = (.error failure, w')) :
    (tryCatch x k).run w = (k failure).run w' := by
  rw [run_tryCatch, h]

/-- What is done about a failure is confined if it is each time, or else passes the failure on. -/
theorem Confined.tryCatch {x : Action α} {k : Failure → Action α} (hx : Confined p x)
    (hk : ∀ failure, Confined p (k failure) ∨ k failure = throw failure) :
    Confined p (tryCatch x k) := by
  refine ⟨fun w environment => ?_, fun w => ?_⟩
  · have hwithin := hx.run_within w environment
    rcases hrun : x.run w with ⟨failure | a, w'⟩
    · rw [hrun] at hwithin
      rw [run_tryCatch_error hrun, run_tryCatch_error hwithin]
      rcases hk failure with hconfined | hthrow
      · exact hconfined.run_within w' environment
      · rw [hthrow]
        rfl
    · rw [hrun] at hwithin
      rw [run_tryCatch_ok hrun, run_tryCatch_ok hwithin]
  · have hfirst := hx.confines w
    rcases hrun : x.run w with ⟨failure | a, w'⟩
    · rw [hrun] at hfirst
      rw [run_tryCatch_error hrun]
      rcases hk failure with hconfined | hthrow
      · exact hfirst.trans (hconfined.confines w')
      · rw [hthrow]
        exact hfirst
    · rw [hrun] at hfirst
      rw [run_tryCatch_ok hrun]
      exact hfirst

/-- Does an action and gives what it came to. -/
def attempt (x : Action α) : Action (Except Failure α) :=
  tryCatch (.ok <$> x) fun failure => pure (.error failure)

/-- No attempt fails. -/
theorem run_attempt (x : Action α) (w : World) :
    x.attempt.run w = (.ok (x.run w).1, (x.run w).2) := by
  rw [attempt, run_tryCatch, run_map]
  rcases x.run w with ⟨failure | a, w'⟩ <;> rfl

theorem Confined.attempt {x : Action α} (hx : Confined p x) : Confined p x.attempt :=
  Confined.tryCatch (hx.map _) fun _ => .inl (confined_pure _)

end Action

end MachineCloud
