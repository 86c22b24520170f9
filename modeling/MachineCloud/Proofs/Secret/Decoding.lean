import MachineCloud.Proofs.Text.Utf8
import MachineCloud.Secret

/-!
# Decoding values

A value is read as a text if its bytes are those of the text, or base64 for them (`SecretValue.Reads`),
and that is the text it decodes to (`text?_eq_some_iff`).  Decoding comes to an end for all values that
are texts, bytes or absent, whether or not they can be read (`decodeAll_eq_ok`), and then there is a secret
or a list of problems (`ofData_of_decodeAll`).
-/

namespace MachineCloud

/-- The bytes that a value stands for. -/
def SecretValue.bytes? : SecretValue → Option Bytes
  | .text s => some (Utf8.encode s)
  | .bytes bs => some bs
  | .absent => none
  | .other _ => none

/-- Whether a value is a text, bytes or nothing at all. -/
def SecretValue.IsTextual : SecretValue → Prop
  | .text _ | .bytes _ | .absent => True
  | .other _ => False

/-- What a value is read as.  Nothing at all stands for the empty text; otherwise the bytes of the value
are those of the text, or base64 for them. -/
inductive SecretValue.Reads : Bool → SecretValue → String → Prop
  | absent {encoded : Bool} : Reads encoded .absent ""
  | plain {v : SecretValue} {s : String} (hbytes : v.bytes? = some (Utf8.encode s)) : Reads false v s
  | encoded {v : SecretValue} {bs : Bytes} {s : String} (hbytes : v.bytes? = some bs)
      (hdecode : Base64.decodeLenient bs = some (Utf8.encode s)) : Reads true v s

namespace MachineSecret

variable {encoded : Bool} {v : SecretValue} {s : String} {data : Entries SecretValue}

/-- A value that stands for bytes decodes to their text. -/
theorem decode_of_bytes? {bs : Bytes} (h : v.bytes? = some bs) (encoded : Bool) :
    decode encoded v = .ok (decode.decodeBytes encoded bs) := by
  cases v with
  | text s =>
    cases h
    rfl
  | bytes bs' =>
    cases h
    rfl
  | absent => cases h
  | other v => cases h

theorem decodeBytes_plain_eq_some_iff {bs : Bytes} :
    decode.decodeBytes false bs = some s ↔ bs = Utf8.encode s := by
  rw [decode.decodeBytes, if_neg Bool.false_ne_true, Utf8.decode?_eq_some_iff]

theorem decodeBytes_encoded_eq_some_iff {bs : Bytes} :
    decode.decodeBytes true bs = some s ↔ Base64.decodeLenient bs = some (Utf8.encode s) := by
  rw [decode.decodeBytes, if_pos rfl, Option.bind_eq_some_iff]
  simp only [Utf8.decode?_eq_some_iff, exists_eq_right]

/-- A value that stands for bytes is read as their text. -/
theorem reads_iff_of_bytes? {bs : Bytes} (hbytes : v.bytes? = some bs) :
    v.Reads encoded s ↔ decode.decodeBytes encoded bs = some s := by
  constructor
  · intro h
    cases h with
    | absent => cases hbytes
    | plain hplain =>
      cases hbytes.symm.trans hplain
      exact decodeBytes_plain_eq_some_iff.mpr rfl
    | encoded hencoded hdecode =>
      cases hbytes.symm.trans hencoded
      exact decodeBytes_encoded_eq_some_iff.mpr hdecode
  · intro h
    cases encoded with
    | false => exact .plain (by rw [hbytes, decodeBytes_plain_eq_some_iff.mp h])
    | true => exact .encoded hbytes (decodeBytes_encoded_eq_some_iff.mp h)

/-- A value that stands for no bytes is read only if it is absent. -/
theorem reads_iff_of_bytes?_eq_none (hbytes : v.bytes? = none) :
    v.Reads encoded s ↔ v = .absent ∧ s = "" := by
  constructor
  · intro h
    cases h with
    | absent => exact ⟨rfl, rfl⟩
    | plain hplain => cases hbytes.symm.trans hplain
    | encoded hencoded => cases hbytes.symm.trans hencoded
  · rintro ⟨rfl, rfl⟩
    exact .absent

/-- Only texts, bytes and absent values can be read. -/
theorem isTextual_of_reads (h : v.Reads encoded s) : v.IsTextual := by
  cases v with
  | other v =>
    rw [reads_iff_of_bytes?_eq_none rfl] at h
    cases h.1
  | _ => trivial

/-- The text of a value, if it can be read. -/
def text? (encoded : Bool) (v : SecretValue) : Option String := (decode encoded v).toOption.join

theorem decode_eq_ok_text? (h : v.IsTextual) : decode encoded v = .ok (text? encoded v) := by
  cases v with
  | text s => rfl
  | bytes bs => rfl
  | absent => rfl
  | other v => cases h

/-- The text of a value is what it is read as. -/
theorem text?_eq_some_iff : text? encoded v = some s ↔ v.Reads encoded s := by
  cases v with
  | text t => exact (reads_iff_of_bytes? rfl).symm
  | bytes bs => exact (reads_iff_of_bytes? rfl).symm
  | absent =>
    rw [reads_iff_of_bytes?_eq_none rfl]
    change some "" = some s ↔ _
    simp [eq_comm]
  | other v =>
    rw [reads_iff_of_bytes?_eq_none rfl]
    change none = some s ↔ _
    simp

/-- The values of data, each with the text that it can be read as. -/
def textsOf (encoded : Bool) (data : Entries SecretValue) : Entries (Option String) :=
  data.map fun p => (p.1, text? encoded p.2)

theorem decodeAll_eq_ok (h : ∀ p ∈ data, p.2.IsTextual) :
    decodeAll encoded data = .ok (textsOf encoded data) := by
  induction data with
  | nil => rfl
  | cons p rest ih =>
    obtain ⟨hfirst, hrest⟩ := List.forall_mem_cons.mp h
    have hvalues := ih hrest
    rw [decodeAll] at hvalues ⊢
    rw [List.mapM_cons, hvalues, decode_eq_ok_text? hfirst]
    rfl

/-- Decoding comes to an end only if all values are texts, bytes or absent. -/
theorem isTextual_of_decodeAll {values : Entries (Option String)}
    (h : decodeAll encoded data = .ok values) : ∀ p ∈ data, p.2.IsTextual := by
  induction data generalizing values with
  | nil => exact List.forall_mem_nil _
  | cons p rest ih =>
    rw [decodeAll, List.mapM_cons] at h
    have hfirst : p.2.IsTextual := by
      cases hvalue : p.2 with
      | other v =>
        rw [hvalue] at h
        cases h
      | _ => trivial
    have hrest : ∃ values, decodeAll encoded rest = .ok values := by
      rw [decode_eq_ok_text? hfirst] at h
      cases hvalues : decodeAll encoded rest with
      | error misfit =>
        rw [decodeAll] at hvalues
        rw [hvalues] at h
        cases h
      | ok values => exact ⟨values, rfl⟩
    obtain ⟨values, hvalues⟩ := hrest
    exact List.forall_mem_cons.mpr ⟨hfirst, ih hvalues⟩

/-- Every value can be read just if there is none that cannot be decoded. -/
theorem undecodable_textsOf_eq_nil_iff :
    undecodable (textsOf encoded data) = [] ↔ ∀ p ∈ data, ∃ s, p.2.Reads encoded s := by
  rw [undecodable, List.map_eq_nil_iff, List.filter_eq_nil_iff, textsOf, List.forall_mem_map]
  refine forall₂_congr fun p _ => ?_
  rw [Bool.not_eq_true, Option.isNone_eq_false_iff, Option.isSome_iff_exists]
  exact exists_congr fun s => text?_eq_some_iff

/-- Once everything is decoded, there is a secret or a list of problems. -/
theorem ofData_of_decodeAll {values : Entries (Option String)}
    (h : decodeAll encoded data = .ok values) (requireKey : Bool) :
    ofData data encoded requireKey =
      if problems values requireKey = [] then .ok (ofValues values)
      else .error (.secret ((problems values requireKey).map Problem.message)) := by
  simp only [ofData, h]
  generalize problems values requireKey = ps
  cases ps with
  | nil => rfl
  | cons p ps => rfl

end MachineSecret

end MachineCloud
