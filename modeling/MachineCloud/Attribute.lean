import MachineCloud.Failure.Misfit
import MachineCloud.Text.Base64

/-!
# Attributes

Conversions between the provider-neutral attributes of a server and their wire form.  On the wire a
field is absent or present, and present but empty is not absent: every conversion takes null to null
and keeps a present container present.
-/

namespace MachineCloud.Attribute

/-- Labels for the wire: the same entries. -/
def labelsToWire : Value → Except Misfit Value
  | .null => .ok .null
  | v => (v.asMap "items").map .map

/-- Labels from the wire: the entries whose value is a string. -/
def labelsFromWire : Value → Except Misfit Value
  | .null => .ok .null
  | v => (v.asMap "items").map fun entries => .map (entries.filter fun p => p.2.isStr)

/-- Metadata for the wire, as it is. -/
def metadataToWire (v : Value) : Value := v

/-- A list of strings for the wire, as it is. -/
def stringsToWire (v : Value) : Value := v

/-- An optional string: empty when absent. -/
def stringValue : Value → Value
  | .null => .str ""
  | v => v

/-- The standard base64 encoding of a text's UTF-8 form. -/
def encodeText (s : String) : String := String.ofList (Base64.encode .standard (Utf8.encode s))

/-- User data for the wire: encoded exactly once, whatever it looks like. -/
def userDataToWire (v : Value) : Except Misfit Value :=
  if !v.isTruthy then .ok .null
  else match v with
    | .str s => .ok (.str (encodeText s))
    | v => .error (.member v.kind "encode")

/-- Puts a value under a key unless the reference to it is absent. -/
def putRef (payload : Entries Value) (key : String) : Option Value → Entries Value
  | none => payload
  | some v => payload.put key v

end MachineCloud.Attribute
