import MachineCloud.Proofs.Interspersed
import MachineCloud.Proofs.Server.Payload

/-!
# Labels that come back

The labels of a request go out in its payload, and the backend keeps them with the server.  A server that is
read from an object with the labels of the payload has those of the request, and labels that are absent stay
apart from labels that are empty.  Neither the other members of the object make a difference, nor entries of
the backend's own among the labels, as long as their values are no texts (`labels_return`).
-/

namespace MachineCloud

/-! ## Reading labels -/

/-- Of labels with other values among them, just the labels are left. -/
theorem Attribute.labelsFromWire_of_interspersed {labels : TextMap} {wire : Entries Value}
    (h : Interspersed (fun p => p.2.isStr = false) (labels.entries.map fun p => (p.1, .str p.2)) wire) :
    labelsFromWire (.map wire) = .ok labels.toValue := by
  have hown : ∀ p ∈ labels.entries.map fun p => (p.1, Value.str p.2), p.2.isStr = true := by
    rw [List.forall_mem_map]
    exact fun p _ => rfl
  change Except.ok (Value.map (wire.filter fun p => p.2.isStr)) = _
  rw [h.filter_eq hown fun _ hforeign => hforeign]
  rfl

/-- Labels that are absent, and labels as they were sent, are read as they are. -/
theorem Attribute.labelsFromWire_ofOption (labels : Option TextMap) :
    labelsFromWire (.ofOption (labels.map TextMap.toValue)) =
      .ok (.ofOption (labels.map TextMap.toValue)) := by
  cases labels with
  | none => rfl
  | some labels => exact labelsFromWire_of_interspersed (.refl _)

/-- A server is read from every object whose labels can be read, and has these labels. -/
theorem Server.exists_fromWire {object : Entries Value} {labels : Value}
    (h : Attribute.labelsFromWire (member object "labels") = .ok labels) :
    ∃ server, fromWire (.map object) = .ok server ∧ server.labels = labels := by
  have hmembers : (Value.map object).asMap "get" = .ok object := rfl
  rw [fromWire, hmembers]
  change ∃ server, (do
    let labels ← Attribute.labelsFromWire (member object "labels")
    return _ : Except Misfit Server) = .ok server ∧ _
  rw [h]
  exact ⟨_, rfl, rfl⟩

/-! ## There and back -/

namespace ServerSpec

/-- The labels in a payload are those of the request. -/
theorem get?_labels (s : ServerSpec) :
    Entries.get? "labels" (present s.normal.members) = s.labels.map TextMap.toValue :=
  NormalSpec.get?_members (v := s.normal.labels.map TextMap.toValue) (by simp [NormalSpec.members])

/-- Every request has a payload, and a server that is read from an object with its labels has the labels of
the request.  So it has if entries are put in among the labels whose values are no texts, whatever their
keys are. -/
theorem labels_return (s : ServerSpec) :
    ∃ payload, s.toRequest.toWire = .ok payload ∧
      (∀ object : Entries Value, object.get? "labels" = payload.get? "labels" →
        ∃ server, Server.fromWire (.map object) = .ok server ∧ server.labels = s.toRequest.labels) ∧
      ∀ object labels wire : Entries Value, payload.get? "labels" = some (.map labels) →
        Interspersed (fun p => p.2.isStr = false) labels wire →
        object.get? "labels" = some (.map wire) →
        ∃ server, Server.fromWire (.map object) = .ok server ∧
          server.labels = s.toRequest.labels := by
  refine ⟨_, s.toWire_toRequest, fun object hobject => ?_, fun object labels wire hlabels hwire hobject => ?_⟩
  · apply Server.exists_fromWire
    rw [member, hobject, get?_labels]
    exact Attribute.labelsFromWire_ofOption s.labels
  · rw [get?_labels, Option.map_eq_some_iff] at hlabels
    obtain ⟨sent, hsent, ⟨⟩⟩ := hlabels
    apply Server.exists_fromWire
    rw [member, hobject]
    change Attribute.labelsFromWire (.map wire) = .ok (.ofOption (s.labels.map TextMap.toValue))
    rw [hsent]
    exact Attribute.labelsFromWire_of_interspersed hwire

/-- Two labels, one of them empty, with a number, a list and null around them. -/
theorem labels_return_of_mixed :
    let s : ServerSpec :=
      { name := "worker-1"
        name_ne_empty := by decide
        labels := some ⟨[("pool", "a"), ("empty", "")], by decide⟩ }
    let labels : Entries Value := [("pool", .str "a"), ("empty", .str "")]
    let wire : Entries Value := [
      ("created", .int 1), ("pool", .str "a"), ("tags", .list [.str "b"]), ("empty", .str ""),
      ("deleted", .null)]
    s.toRequest.toWire = .ok [("name", .str "worker-1"), ("labels", .map labels)] ∧
      Interspersed (fun p => p.2.isStr = false) labels wire ∧
      ∃ server, Server.fromWire (.map [("labels", .map wire), ("status", .int 7)]) = .ok server ∧
        server.labels = s.toRequest.labels := by
  intro s labels wire
  have hwire : Interspersed (fun p => p.2.isStr = false) labels wire :=
    .other rfl (.own (.other rfl (.own (.other rfl .nil))))
  obtain ⟨payload, hpayload, -, hforeign⟩ := s.labels_return
  obtain rfl : payload = [("name", .str "worker-1"), ("labels", .map labels)] :=
    Except.ok.inj hpayload.symm
  exact ⟨hpayload, hwire, hforeign _ labels wire rfl hwire rfl⟩

end ServerSpec

end MachineCloud
