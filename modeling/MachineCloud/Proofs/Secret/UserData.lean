import MachineCloud.Proofs.Secret.Validity
import MachineCloud.Proofs.Server.Payload

/-!
# User data from a secret to a payload

A machine secret holds user data in base64, and so does the payload that asks for a server.  In between
stands the text itself.  Reading the secret takes off one encoding, in which foreign characters such as line
ends may stand anywhere, and the request puts one on, without such characters (`userData_encoded_once`).  So
user data that looks like base64 is not decoded twice, and what a payload has is the same after another
round.
-/

namespace MachineCloud

/-! ## Maps without a key -/

/-- A map without what is under a key. -/
def Entries.without {α : Type} (m : Entries α) (key : String) : Entries α := m.filter fun p => p.1 ≠ key

/-- What is under the other keys is still there. -/
theorem Entries.get?_without {α : Type} {key other : String} (h : key ≠ other) (m : Entries α) :
    (m.without other).get? key = m.get? key := by
  induction m with
  | nil => rfl
  | cons p rest ih =>
    rw [without, List.filter_cons]
    split
    · rw [get?, get?, ← ih, without]
    · next hother =>
      have hkey : p.1 = other := by simpa using hother
      rw [get?, if_neg (by rw [hkey]; exact h.symm), ← ih, without]

/-! ## Secrets but for their user data -/

namespace MachineSecret

variable {encoded requireKey : Bool} {data : Entries SecretValue} {v : SecretValue}
  {secret : MachineSecret} {s : String}

/-- Whether data has a value for the user data, and is otherwise taken for a secret. -/
structure IsOtherwise (encoded requireKey : Bool) (data : Entries SecretValue) (v : SecretValue)
    (secret : MachineSecret) : Prop where
  nodup : data.keys.Nodup
  userData : data.get? "userData" = some v
  rest : ofData (data.without "userData") encoded requireKey = .ok secret

/-- User data that can be read is the user data of the secret, and does not change it in any other way. -/
theorem ofData_of_isOtherwise (h : IsOtherwise encoded requireKey data v secret)
    (hread : v.Reads encoded s) : ofData data encoded requireKey = .ok { secret with userData := s } := by
  obtain ⟨hreadable, rfl, hvalidate⟩ := ofData_eq_ok_iff.mp h.rest
  have hfield (f : Field) (hf : f.key ≠ "userData") : fieldText (textsOf encoded data) f =
      fieldText (textsOf encoded (data.without "userData")) f := by
    rw [fieldText, fieldText, textsOf, textsOf, Entries.get?_map, Entries.get?_map,
      Entries.get?_without hf]
  have huserData : fieldText (textsOf encoded data) .userData = s := by
    rw [fieldText, textsOf, Entries.get?_map, Field.key, h.userData, Option.map_some,
      text?_eq_some_iff.mpr hread]
    rfl
  refine ofData_eq_ok_iff.mpr ⟨fun p hp => ?_, ?_, hvalidate⟩
  · by_cases hkey : p.1 = "userData"
    · have hvalue := Entries.get?_of_mem h.nodup hp
      rw [hkey, h.userData, Option.some.injEq] at hvalue
      exact ⟨s, hvalue ▸ hread⟩
    · exact hreadable p (List.mem_filter.mpr ⟨hp, decide_eq_true hkey⟩)
  · rw [ofValues, ofValues, huserData, hfield .projectId (by decide), hfield .region (by decide),
      hfield .serviceAccountKey (by decide), hfield .networkId (by decide)]

/-- User data in base64 is read as the text, whatever foreign characters stand in it. -/
theorem reads_of_spells {text : String} (hbytes : v.bytes? = some (Utf8.encode text))
    (h : Base64.Spells (Utf8.encode s) text) : v.Reads true s :=
  .encoded hbytes (Base64.decodeLenient_of_spells h)

end MachineSecret

/-! ## User data in payloads -/

/-- Whether a request has a payload with these user data. -/
def ServerSpec.SendsUserData (s : ServerSpec) (sent : String) : Prop :=
  ∃ payload, s.toRequest.toWire = .ok payload ∧ payload.get? "userData" = some (.str sent)

/-- The payload has the user data of the request encoded once, if there are any. -/
theorem ServerSpec.sendsUserData_iff {s : ServerSpec} (h : s.userData ≠ "") {sent : String} :
    s.SendsUserData sent ↔ sent = Attribute.encodeText s.userData := by
  have hmember : Entries.get? "userData" (present s.normal.members) =
      some (.str (Attribute.encodeText s.userData)) := by
    have hnormal : s.normal.userData = some s.userData := if_neg h
    exact NormalSpec.get?_members (by simp [NormalSpec.members, hnormal])
  simp [SendsUserData, s.toWire_toRequest, hmember, eq_comm]

namespace MachineSecret

/-! ## From the secret to the payload -/

/-- User data that are not empty are encoded exactly once on the whole way.  What stands for them in a
secret, with foreign characters anywhere, is read as the text itself; every request with this text has a
payload with its encoding; no other text has this encoding; and a secret with what a payload has leads to
payloads with the same. -/
theorem userData_encoded_once {u : String} (hu : u ≠ "") :
    (∀ {text : String} {v : SecretValue} {data : Entries SecretValue} {requireKey : Bool}
      {secret : MachineSecret}, Base64.Spells (Utf8.encode u) text →
      v.bytes? = some (Utf8.encode text) → IsOtherwise true requireKey data v secret →
        ofData data true requireKey = .ok { secret with userData := u }) ∧
    (∀ s : ServerSpec, s.userData = u →
      s.SendsUserData (String.ofList (Base64.encode .standard (Utf8.encode u)))) ∧
    (∀ u', u' ≠ "" →
      Attribute.userDataToWire (.str u') = Attribute.userDataToWire (.str u) → u' = u) ∧
    ∀ (s : ServerSpec) (sent : String), s.userData = u → s.SendsUserData sent →
      ∀ {data requireKey secret}, IsOtherwise true requireKey data (.text sent) secret →
        ofData data true requireKey = .ok { secret with userData := u } ∧
          ∀ t : ServerSpec, t.userData = u → t.SendsUserData sent := by
  have hsent (s : ServerSpec) (hs : s.userData = u) {sent : String} :
      s.SendsUserData sent ↔ sent = Attribute.encodeText u := by
    rw [ServerSpec.sendsUserData_iff (hs ▸ hu), hs]
  refine ⟨fun hspells hbytes hdata => ?_, fun s hs => ?_, fun u' hu' hwire => ?_, ?_⟩
  · exact ofData_of_isOtherwise hdata (reads_of_spells hbytes hspells)
  · exact (hsent s hs).mpr rfl
  · have hencoded : Attribute.encodeText u' = Attribute.encodeText u := by
      simpa [userDataToWire_str, textUnlessEmpty, hu, hu', Value.ofOption] using hwire
    exact Attribute.encodeText_inj hencoded
  · intro s sent hs hsends data requireKey secret hdata
    obtain rfl := (hsent s hs).mp hsends
    refine ⟨ofData_of_isOtherwise hdata (reads_of_spells rfl (.encode _)), fun t ht => ?_⟩
    exact (hsent t ht).mpr rfl

/-- User data that look like base64, with a line end, a letter and a tab in their encoding, the last of
these inside its padding. -/
theorem userData_encoded_once_of_broken :
    let text := String.ofList ['W', 'V', 'E', '9', '\n', 'P', 'Q', 'ü', '=', '\t', '=']
    let data : Entries SecretValue := [
      ("project-id", .text "MDEyMzQ1NjctODlhYi1DREVGLTAxMjMtNDU2Nzg5YWJjZGVmCg=="),
      ("userData", .text text), ("region", .text "ZXUwMQ=="), ("serviceaccount.json", .text "e30=")]
    let secret : MachineSecret :=
      { projectId := "01234567-89ab-CDEF-0123-456789abcdef"
        region := "eu01"
        serviceAccountKey := "\x7b\x7d" }
    "YQ==" ≠ "" ∧ Base64.Spells (Utf8.encode "YQ==") text ∧ IsOtherwise true true data (.text text) secret ∧
      ofData data true true = .ok { secret with userData := "YQ==" } := by
  intro text data secret
  have hu : "YQ==" ≠ "" := by decide
  have hencoded : Base64.encode .standard (Utf8.encode "YQ==") =
      ['W', 'V', 'E', '9', 'P', 'Q', '=', '='] := by decide
  obtain ⟨hline, hletter, htab⟩ :
      Base64.IsForeign '\n' ∧ Base64.IsForeign 'ü' ∧ Base64.IsForeign '\t' := by decide
  have hspells : Base64.Spells (Utf8.encode "YQ==") text := by
    rw [Base64.Spells, hencoded, String.toList_ofList]
    exact .own (.own (.own (.own (.other hline (.own (.own (.other hletter (.own
      (.other htab (.own .nil))))))))))
  have hreadable : undecodable (textsOf true (data.without "userData")) = [] := by decide +kernel
  have hrest : ofData (data.without "userData") true true = .ok secret := ofData_eq_ok_iff.mpr
    ⟨undecodable_textsOf_eq_nil_iff.mp hreadable, by decide +kernel, by decide +kernel⟩
  have hdata : IsOtherwise true true data (.text text) secret := ⟨by decide, rfl, hrest⟩
  exact ⟨hu, hspells, hdata, (userData_encoded_once hu).1 hspells rfl hdata⟩

end MachineSecret

end MachineCloud
