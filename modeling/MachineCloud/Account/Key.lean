import MachineCloud.Failure

/-!
# Service account keys

The JSON file that the portal issues for a service account.  Only what the key flow needs is
required, and whatever else the file holds is left out of account.  All violations of the schema are
reported together, in the order of the fields.
-/

namespace MachineCloud.Account

/-- The claims of the assertion and the key that signs it. -/
structure Credentials where
  kid : String
  iss : String
  sub : String
  aud : String
  privateKey : String
deriving DecidableEq, Repr

structure Key where
  id : String
  publicKey : String
  keyType : Option String
  keyAlgorithm : Option String
  validUntil : Option String
  credentials : Credentials
deriving DecidableEq, Repr

/-- A part that was read, or the violations in it. -/
abbrev Checked (α : Type) := Except (List Schema.Violation) α

namespace Checked

variable {α β : Type}

/-- Both parts, or the violations of both. -/
def also (f : Checked (α → β)) (x : Checked α) : Checked β :=
  match f, x with
  | .ok f, .ok a => .ok (f a)
  | .ok _, .error ws => .error ws
  | .error vs, .ok _ => .error vs
  | .error vs, .error ws => .error (vs ++ ws)

end Checked

namespace Key

/-- The first of the names that an object has, with the value under it. -/
def firstOf (m : Entries Value) (names : List String) : Option (String × Value) :=
  names.findSome? fun name => (m.get? name).map fun v => (name, v)

/-- A string that must be there and must not be empty.  The names are its spellings, the preferred
one first; `path` leads to the object. -/
def required (path : List String) (m : Entries Value) (name : String) (others : List String) :
    Checked String :=
  match firstOf m (name :: others) with
  | none => .error [⟨path ++ [name], .missing, .map m⟩]
  | some (spelling, .str s) =>
    if s = "" then .error [⟨path ++ [spelling], .empty, .str s⟩] else .ok s
  | some (spelling, v) => .error [⟨path ++ [spelling], .notText, v⟩]

/-- A string that may be missing or null. -/
def optional (m : Entries Value) (name : String) (others : List String) :
    Checked (Option String) :=
  match firstOf m (name :: others) with
  | none | some (_, .null) => .ok none
  | some (_, .str s) => .ok (some s)
  | some (spelling, v) => .error [⟨[spelling], .notText, v⟩]

/-- The credentials, which must be an object. -/
def credentialsOf (m : Entries Value) : Checked Credentials :=
  let path := "credentials"
  match m.get? path with
  | none => .error [⟨[path], .missing, .map m⟩]
  | some (.map c) =>
    let field (name : String) : Checked String := required [path] c name []
    (((Checked.also ((field "kid").map Credentials.mk) (field "iss")).also (field "sub")).also
      (field "aud")).also (field "privateKey")
  | some v => .error [⟨[path], .notObject "ServiceAccountCredentials", v⟩]

def ofEntries (m : Entries Value) : Checked Key :=
  ((((Checked.also ((required [] m "id" []).map Key.mk)
    (required [] m "publicKey" ["public_key"])).also
    (optional m "keyType" ["key_type"])).also
    (optional m "keyAlgorithm" ["key_algorithm"])).also
    (optional m "validUntil" ["valid_until"])).also
    (credentialsOf m)

def parse (raw : String) : Except Failure Key :=
  if Text.isAllBlank raw then .error (.of (.key .blank))
  else match Json.read raw with
    | .error (.malformed what place) =>
      let fault := Json.Fault.malformed what place
      .error (.raisedFrom (.key (.notJson fault)) (.of (.json fault)))
    | .error fault => .error (.of (.json fault))
    | .ok (.map m) =>
      match ofEntries m with
      | .ok key => .ok key
      | .error vs => .error (.raisedFrom (.key (.schema vs)) (.of (.schema KeyFault.keyName vs)))
    | .ok _ => .error (.of (.key .notObject))

end Key

end MachineCloud.Account
