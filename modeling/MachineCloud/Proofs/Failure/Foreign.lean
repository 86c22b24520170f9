import MachineCloud.Failure.Chain

/-!
# Foreign failures

A failure is foreign if no error on its chain came from the API.  Such a failure never means that
something does not exist, and neither does any failure that the program makes up itself with no API
error among its links.
-/

namespace MachineCloud.Failure

/-- Whether no error on the chain of a failure came from the API. -/
def IsForeign (f : Failure) : Prop := ∀ i ∈ f.chain, apiStatus? f.links i = none

/-- A foreign failure does not mean that something does not exist. -/
theorem IsForeign.isNotFound_eq_false {f : Failure} (h : f.IsForeign) : f.isNotFound = false := by
  have hnone : f.chain.findSome? (apiStatus? f.links) = none := List.findSome?_eq_none_iff.mpr h
  unfold chain at hnone
  rw [isNotFound, isNotFoundFrom, hnone]

/-- Only an error that came from the API has a status. -/
theorem apiStatus?_eq_none {links : List Link} (h : ∀ l ∈ links, l.fault.isApi = false) (i : Nat) :
    apiStatus? links i = none := by
  unfold apiStatus?
  split
  · next hi =>
    have hapi := h _ (List.mem_of_getElem? hi)
    cases hapi
  · rfl

/-- A failure is foreign if none of its errors came from the API. -/
theorem isForeign_of_links {f : Failure} (h : ∀ l ∈ f.links, l.fault.isApi = false) :
    f.IsForeign := fun i _ => apiStatus?_eq_none h i

/-- An error without links is foreign unless it came from the API. -/
theorem isForeign_of {fault : Fault} (h : fault.isApi = false) : (of fault).IsForeign := by
  refine isForeign_of_links fun l hl => ?_
  obtain rfl := List.mem_singleton.mp hl
  exact h

/-- An error that was raised from one without links is foreign unless one of the two came from the
API. -/
theorem isForeign_raisedFrom_of {fault cause : Fault} (h : fault.isApi = false)
    (hcause : cause.isApi = false) : (raisedFrom fault (of cause)).IsForeign := by
  refine isForeign_of_links fun l hl => ?_
  rcases List.mem_append.mp hl with hl | hl
  · obtain rfl := List.mem_singleton.mp hl
    exact hcause
  · obtain rfl := List.mem_singleton.mp hl
    exact h

/-- An API error with nothing behind it means that something does not exist exactly if its status is
404. -/
theorem isNotFound_of_api (special : Bool) (status : Int) (reason : String) (body : Bytes) :
    (of (.api special (.int status) reason body)).isNotFound = true ↔ status = 404 := by
  have h : (of (.api special (.int status) reason body)).isNotFound =
    (Value.int status).same notFoundStatus := rfl
  rw [h]
  simp [notFoundStatus, Value.same, Value.sameNumber, Value.numeric?, Value.Numeric.same]

end MachineCloud.Failure
