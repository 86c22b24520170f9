import MachineCloud.Account.Key
import MachineCloud.Crypto.Rsa
import MachineCloud.Json.Writer
import MachineCloud.Text.Base64

/-!
# Assertions

The signed statement that is exchanged for an access token: a header and claims as compact JSON in
unpadded URL-safe base64, a point between them, and after another point the signature of both.
-/

namespace MachineCloud.Account

/-- How many seconds an assertion is valid. -/
def assertionLifetime : Int := 600

structure Assertion where
  signed : List Char
  signature : Bytes

namespace Assertion

/-- The header, which names the key. -/
def header (c : Credentials) : Value :=
  .map [("alg", .str "RS512"), ("typ", .str "JWT"), ("kid", .str c.kid)]

/-- The claims, issued at a time under an identifier of their own. -/
def claims (c : Credentials) (identifier : String) (issuedAt : Int) : Value :=
  .map [("iss", .str c.iss), ("sub", .str c.sub), ("aud", .str c.aud), ("jti", .str identifier),
    ("iat", .int issuedAt), ("exp", .int (issuedAt + assertionLifetime))]

def segment (v : Value) : List Char := Base64.encodeUnpadded (Utf8.encodeChars (Json.compact v))

def signingInput (c : Credentials) (identifier : String) (issuedAt : Int) : List Char :=
  segment (header c) ++ '.' :: segment (claims c identifier issuedAt)

/-- The assertion of a key, if the key can sign it. -/
def build (c : Credentials) (sign? : Bytes → Option Bytes) (identifier : String)
    (issuedAt : Int) : Option Assertion :=
  let signed := signingInput c identifier issuedAt
  (sign? (Utf8.encodeChars signed)).map fun signature => ⟨signed, signature⟩

def chars (a : Assertion) : List Char := a.signed ++ '.' :: Base64.encodeUnpadded a.signature

end Assertion

end MachineCloud.Account
