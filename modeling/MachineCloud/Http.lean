import MachineCloud.Text.Utf16
import MachineCloud.World

/-!
# HTTP responses

When a response counts as a success, and what its body holds.  A response is a status, a reason and a
body, and what was to be redirected has been by then.  It has no headers, so that no charset is named in
one: the encoding of a body is told by its first four bytes, by a byte order mark or by where zeros stand
among them.
-/

namespace MachineCloud.Http

/-- Whether a status is not one of the error statuses, which are those from 400 to 599. -/
def isOk (status : Int) : Bool := status < 400 || 600 ≤ status

inductive Encoding where
  | utf8
  | utf16 (order : ByteOrder)
  | utf32 (order : ByteOrder)
deriving DecidableEq, Repr

namespace Encoding

/-- The bytes that may stand at the start of a text to mark its encoding. -/
def marks : List (Bytes × Encoding) := [
  ([0xFF, 0xFE, 0x00, 0x00], .utf32 .littleEnd), ([0x00, 0x00, 0xFE, 0xFF], .utf32 .bigEnd),
  ([0xEF, 0xBB, 0xBF], .utf8),
  ([0xFF, 0xFE], .utf16 .littleEnd), ([0xFE, 0xFF], .utf16 .bigEnd)]

/-- The encoding of a text without a mark whose first two characters are ASCII: by which of its
first four bytes are zero. -/
def byZeros? : List Bool → Option Encoding
  | [false, false, false, false] => some .utf8
  | [true, false, true, false] => some (.utf16 .bigEnd)
  | [false, true, false, true] => some (.utf16 .littleEnd)
  | [true, true, true, false] => some (.utf32 .bigEnd)
  | [false, true, true, true] => some (.utf32 .littleEnd)
  | _ => none

/-- The encoding of a body and what is left of it after a mark. -/
def ofBody? (body : Bytes) : Option (Encoding × Bytes) :=
  match marks.find? fun m => m.1.isPrefixOf body with
  | some (mark, encoding) => some (encoding, body.drop mark.length)
  | none => (byZeros? ((body.take 4).map (· = 0))).map fun encoding => (encoding, body)

def decode? : Encoding → Bytes → Option String
  | .utf8, bs => Utf8.decode? bs
  | .utf16 order, bs => Utf16.decode? order bs
  | .utf32 order, bs => Utf32.decode? order bs

end Encoding

/-- The text of a body.  The encoding of a body of three bytes or less cannot be told; such a body,
and one that is not well formed, is read as UTF-8. -/
def bodyText (body : Bytes) : String :=
  let told := if body.length ≤ 3 then none
    else (Encoding.ofBody? body).bind fun (encoding, rest) => encoding.decode? rest
  told.getD (Utf8.decodeLossy body)

def bodyValue (body : Bytes) : Except Json.Fault Value := Json.read (bodyText body)

/-- The body of a response that is a success.  An error status is an API failure with the status, the
reason and the body as they came; without a body there is no value. -/
def content (status : Int) (reason : String) (body : Bytes) : Except Failure Value :=
  if !isOk status then .error (.of (.api false (.int status) reason body))
  else if status = 204 || body.isEmpty then .ok .null
  else match bodyValue body with
    | .error fault => .error (.of (.json fault))
    | .ok v => .ok v

end MachineCloud.Http
