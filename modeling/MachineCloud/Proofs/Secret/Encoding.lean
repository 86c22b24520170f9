import MachineCloud.Proofs.Secret.Decoding
import MachineCloud.Proofs.Text.Base64

/-!
# Secrets in either form

The data of a secret may hold its values as they are or base64 encoded.  Reading either comes to the
same, be it the secret or the list of everything that is wrong with it (`ofData_eq_of_encodes`): a value
decodes to the same text in both forms, or in neither of them, and the decoded values and the keys of
the others are all that the rest of the reading looks at.
-/

namespace MachineCloud

/-- Whether the second value is the first one in base64, given as text or as bytes.  There is nothing
to encode in a value that is absent. -/
inductive SecretValue.Encodes : SecretValue → SecretValue → Prop
  | absent : Encodes .absent .absent
  | text {v : SecretValue} {bs : Bytes} (hbytes : v.bytes? = some bs) :
      Encodes v (.text (String.ofList (Base64.encode .standard bs)))
  | bytes {v : SecretValue} {bs : Bytes} (hbytes : v.bytes? = some bs) :
      Encodes v (.bytes (Base64.written bs))

namespace MachineSecret

/-- Whether the second data are the first ones in base64: the same keys in the same order, each with
its value encoded. -/
def Encodes (plain encoded : Entries SecretValue) : Prop :=
  List.Forall₂ (fun p e => p.1 = e.1 ∧ p.2.Encodes e.2) plain encoded

/-! ## Values -/

/-- The text of encoded bytes is the text of the bytes. -/
theorem decodeBytes_written (bs : Bytes) :
    decode.decodeBytes true (Base64.written bs) = decode.decodeBytes false bs := by
  simp only [decode.decodeBytes, Base64.decodeLenient_written, Option.bind_some, if_true,
    Bool.false_eq_true, if_false]

/-- An encoded value decodes, and does so to the text of the plain one. -/
theorem decode_of_encodes {v e : SecretValue} (h : v.Encodes e) :
    ∃ text?, decode true e = .ok text? ∧ decode false v = .ok text? := by
  cases h with
  | absent => exact ⟨some "", rfl, rfl⟩
  | @text v bs hbytes =>
    have hwritten : (SecretValue.text (String.ofList (Base64.encode .standard bs))).bytes? =
        some (Base64.written bs) := by
      rw [SecretValue.bytes?, Utf8.encode, String.toList_ofList, Base64.written]
    refine ⟨_, decode_of_bytes? hwritten true, ?_⟩
    rw [decode_of_bytes? hbytes, decodeBytes_written]
  | bytes hbytes =>
    refine ⟨_, decode_of_bytes? rfl true, ?_⟩
    rw [decode_of_bytes? hbytes, decodeBytes_written]

/-! ## Data -/

/-- Encoded data decode to the values of the plain ones. -/
theorem decodeAll_of_encodes {plain encoded : Entries SecretValue} (h : Encodes plain encoded) :
    ∃ values, decodeAll true encoded = .ok values ∧ decodeAll false plain = .ok values := by
  induction h with
  | nil => exact ⟨[], rfl, rfl⟩
  | @cons p e plain encoded hentry _ ih =>
    obtain ⟨hkey, hvalue⟩ := hentry
    obtain ⟨text?, hencoded, hplain⟩ := decode_of_encodes hvalue
    obtain ⟨values, hencodedRest, hplainRest⟩ := ih
    refine ⟨(p.1, text?) :: values, ?_, ?_⟩
    · rw [decodeAll] at hencodedRest
      rw [decodeAll, List.mapM_cons, hencodedRest, hencoded, hkey]
      rfl
    · rw [decodeAll] at hplainRest
      rw [decodeAll, List.mapM_cons, hplainRest, hplain]
      rfl

/-- Encoded data read as encoded come to what the plain data come to, which is a secret or the list of
all that is wrong with it. -/
theorem ofData_eq_of_encodes {plain encoded : Entries SecretValue} (h : Encodes plain encoded)
    (requireKey : Bool) :
    ofData encoded true requireKey = ofData plain false requireKey ∧
      ((∃ secret, ofData plain false requireKey = .ok secret) ∨
        ∃ errors, ofData plain false requireKey = .error (.secret errors)) := by
  obtain ⟨values, hencoded, hplain⟩ := decodeAll_of_encodes h
  rw [ofData_of_decodeAll hencoded, ofData_of_decodeAll hplain]
  refine ⟨rfl, ?_⟩
  by_cases hproblems : problems values requireKey = []
  · exact .inl ⟨_, if_pos hproblems⟩
  · exact .inr ⟨_, if_neg hproblems⟩

/-- Data with a value that is no text, and with a project that is no UUID.  Two of the encodings are given
as texts and one as bytes. -/
theorem ofData_eq_of_encodes_of_mixed :
    let plain : Entries SecretValue := [
      ("project-id", .text "p"), ("region", .bytes [101, 117, 48, 49]), ("networkId", .absent),
      ("userData", .bytes [0xFF])]
    let encoded : Entries SecretValue := [
      ("project-id", .text "cA=="), ("region", .bytes [90, 88, 85, 119, 77, 81, 61, 61]),
      ("networkId", .absent), ("userData", .text "/w==")]
    Encodes plain encoded ∧ ofData encoded true false = .error (.secret [
      "secret 'userData' is not valid base64-encoded UTF-8",
      "secret 'project-id' must be a valid UUID"]) := by
  intro plain encoded
  have hproject : String.ofList (Base64.encode .standard (Utf8.encode "p")) = "cA==" := by decide
  have hregion : Base64.written [101, 117, 48, 49] = [90, 88, 85, 119, 77, 81, 61, 61] := by decide
  have huserData : String.ofList (Base64.encode .standard [0xFF]) = "/w==" := by decide
  have hencodes : Encodes plain encoded :=
    .cons ⟨rfl, hproject ▸ .text rfl⟩ (.cons ⟨rfl, hregion ▸ .bytes rfl⟩ (.cons ⟨rfl, .absent⟩
      (.cons ⟨rfl, huserData ▸ .text rfl⟩ .nil)))
  have htextual : ∀ p ∈ plain, p.2.IsTextual := by
    simp [plain, SecretValue.IsTextual]
  have hvalues : textsOf false plain = [("project-id", some "p"), ("region", some "eu01"),
      ("networkId", some ""), ("userData", none)] := by decide +kernel
  refine ⟨hencodes, (ofData_eq_of_encodes hencodes false).1.trans ?_⟩
  rw [ofData_of_decodeAll (decodeAll_eq_ok htextual), hvalues]
  rfl

end MachineSecret

end MachineCloud
