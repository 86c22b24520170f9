import MachineCloud.Proofs.Api.RoundTrip
import MachineCloud.Proofs.Command.Stages

/-!
# Sessions are released

Whatever a command comes to, be it done, failed or interrupted in the middle of a request, its client is
closed once, after the last request: the session with the API first, and then the one with the token
endpoint where there is one.  Without a client nothing is sent and nothing is closed
(`run_released`).
-/

namespace MachineCloud.Command

open MachineCloud.Action SecretLoader

variable {defaults : ClusterDefaults} {a : Arguments} {w : World}

/-- What closing a handle logs: the session of the API is closed, and then that of the token endpoint
if the handle authenticates. -/
def closingsOf (handle : Handle) : List Event :=
  .closedApi :: if handle.authentication.isPresent then [.closedToken] else []

/-- Every handle that a run gets authenticates by a key flow, or not at all. -/
theorem closings_of_setUp {access : Access} {handle : Handle} {w' : World}
    (h : (setUp defaults a).run w = (.ok (access, .remote handle), w')) :
    closings (.remote handle) = closingsOf handle := by
  have hspec := setUp_spec defaults a w
  rw [h] at hspec
  cases hspec with
  | opened _ _ hopen =>
    obtain ⟨endpoint, authentication, timeout, verify⟩ := handle
    rcases Remote.authentication_of_open hopen with ⟨-, hnone⟩ | ⟨-, flow, hflow⟩
    · cases hnone
      rfl
    · cases hflow
      rfl

/-- Only requests are sent by the command. -/
theorem log_task (a : Arguments) (access : Access) (handle : Handle) (w : World) :
    ∃ sent, ((task a access (.remote handle)).run w).2.log = w.log ++ sent ∧
      ∀ event ∈ sent, event.IsRequest := by
  have hconfined : Confined handle.Causes (task a access (.remote handle)) :=
    confined_perform (Remote.confined_client handle) _ _ _ _
  obtain ⟨⟨sent, hlog, hsent⟩, -, -⟩ := hconfined.confines w
  refine ⟨sent, hlog, fun event hmem => ?_⟩
  have hcaused := hsent event hmem
  cases event with
  | request _ => trivial
  | tokenRequest _ _ _ => trivial
  | _ => exact False.elim hcaused

/-- However a run ends that gets as far as a remote client, it closes the client's sessions just once
and after all requests; a run that does not get a client sends and closes nothing. -/
theorem run_released {arguments : List String}
    (hparse : Arguments.parse w.environment defaults arguments = .ok a) :
    let ran := (run defaults arguments).run w
    (∀ access handle w', (prepare defaults a).run w = (.ok (access, .remote handle), w') →
      ∃ quiet sent, ran.2.log = w.log ++ quiet ++ sent ++ closingsOf handle ∧
        (∀ event ∈ quiet, IsPreparation event) ∧ ∀ event ∈ sent, event.IsRequest) ∧
    ∀ failure w', (prepare defaults a).run w = (.error failure, w') →
      ∃ quiet, ran.2.log = w.log ++ quiet ∧ ∀ event ∈ quiet, IsPreparation event := by
  intro ran
  have hran : ran = (runArguments defaults a).run w := by
    change (run defaults arguments).run w = _
    rw [run, run_bind_ok (run_world w), hparse]
  have hprepares := prepares_prepare defaults a w
  have hcourse := course_spec defaults a w
  rw [hran]
  generalize (runArguments defaults a).run w = ran at hcourse
  cases hcourse with
  | unloaded h =>
    rw [run_prepare_of_error h]
    refine ⟨?_, ?_⟩
    · intro access handle w' heq
      cases heq
    · intro failure w' _
      exact ⟨[], (List.append_nil _).symm, by simp⟩
  | unready hload h =>
    rw [run_prepare_of_ok hload, h] at hprepares ⊢
    refine ⟨?_, ?_⟩
    · intro access handle w' heq
      cases heq
    · intro failure w' _
      exact hprepares.log
  | @performed _ _ access built w' w'' _ hload h htask =>
    rw [run_prepare_of_ok hload, h] at hprepares ⊢
    refine ⟨?_, ?_⟩
    · intro access' handle w₁ heq
      cases heq
      obtain ⟨quiet, hlog, hquiet⟩ := hprepares.log
      obtain ⟨sent, hsentlog, hsent⟩ := log_task a access handle w'
      rw [htask] at hsentlog
      refine ⟨quiet, sent, ?_, hquiet, hsent⟩
      rw [closings_of_setUp h, hsentlog, hlog]
    · intro failure w₁ heq
      cases heq

/-- The arguments of a listing with nothing else said. -/
def listing : Arguments where
  project := .str "p"
  region := .str "eu01"
  keyFile := .null
  secret := .null
  kubeconfig := .null
  mock := false
  format := .str "list"
  envFile := .null
  verbose := false
  command := "list"
  details := [("label", .null)]

/-- A listing without authentication that is interrupted at its request closes the session with the
API and no other. -/
theorem run_released_of_interrupt :
    let w : World :=
      { environment := [("STACKIT_NO_AUTH", "true")], outcomes := [.failed (.of (.interrupt ""))] }
    ∃ quiet sent,
      ((run {} ["--project", "p", "--region", "eu01", "list"]).run w).2.log =
        [] ++ quiet ++ sent ++ [.closedApi] ∧
      (∀ event ∈ quiet, IsPreparation event) ∧ ∀ event ∈ sent, event.IsRequest := by
  intro w
  have hparse : Arguments.parse w.environment {} ["--project", "p", "--region", "eu01", "list"] =
      .ok listing := by rfl
  have hload : EnvFile.load w.files w.environment (given? listing.envFile) =
      .ok (w.environment, []) := by rfl
  have hresolve : (resolveAccess {} listing).run w = (.ok ⟨"p", "eu01", ""⟩, w) := by rfl
  have hfree : Remote.IsOpen w.environment := by decide +kernel
  obtain ⟨handle, hopen⟩ := (Remote.open_ok_iff "" w).mpr ⟨.inl rfl, .inl hfree⟩
  have hclosings : closingsOf handle = [.closedApi] := by
    rcases Remote.authentication_of_open (Prod.ext hopen rfl) with ⟨-, hnone⟩ | ⟨hclosed, -⟩
    · rw [closingsOf, hnone]
      rfl
    · exact absurd hfree hclosed
  have hprepare : (prepare {} listing).run w =
      (.ok (⟨"p", "eu01", ""⟩, .remote handle), ((Remote.open "" none).run w).2) := by
    rw [run_prepare_of_ok hload, show w.within w.environment = w from rfl,
      run_setUp_of_ok rfl hresolve, hopen]
    rfl
  rw [← hclosings]
  exact (run_released hparse).1 _ handle _ hprepare

end MachineCloud.Command
