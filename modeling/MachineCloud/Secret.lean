import MachineCloud.World

/-!
# Machine secrets

The secret that holds a machine's project, region and service account key.  Its values may be base64
encoded; every problem with it is found before it is refused.
-/

namespace MachineCloud

/-- The credentials and defaults in a machine secret. -/
structure MachineSecret where
  projectId : String
  region : String
  serviceAccountKey : String
  networkId : String := ""
  userData : String := ""
deriving DecidableEq, Repr

namespace MachineSecret

inductive Field where
  | projectId
  | region
  | serviceAccountKey
  | networkId
  | userData
deriving DecidableEq, Repr

def Field.key : Field → String
  | .projectId => "project-id"
  | .region => "region"
  | .serviceAccountKey => "serviceaccount.json"
  | .networkId => "networkId"
  | .userData => "userData"

inductive Problem where
  | undecodable (key : String)
  | absent (field : Field)
  | notUuid (field : Field)
  | badRegion (region : String)
deriving DecidableEq, Repr

def Problem.message : Problem → String
  | .undecodable key => s!"secret '{key}' is not valid base64-encoded UTF-8"
  | .absent field => s!"secret must contain a non-empty '{field.key}' field"
  | .notUuid field => s!"secret '{field.key}' must be a valid UUID"
  | .badRegion region => s!"secret '{Field.region.key}' has invalid format: {region}"

/-! ## Forms -/

def isHexDigit (c : Char) : Bool :=
  ('0' ≤ c && c ≤ '9') || ('a' ≤ c && c ≤ 'f') || ('A' ≤ c && c ≤ 'F')

/-- Whether a text consists of groups of hexadecimal digits of the given lengths, with hyphens
between them. -/
def isHexGroups : List Nat → List Char → Bool
  | [], cs => cs.isEmpty
  | [n], cs => cs.length = n && cs.all isHexDigit
  | n :: ns, cs =>
    (cs.take n).length = n && (cs.take n).all isHexDigit &&
      (match cs.drop n with
        | '-' :: rest => isHexGroups ns rest
        | _ => false)

def isUuid (cs : List Char) : Bool := isHexGroups [8, 4, 4, 4, 12] cs

/-- Whether a text is a region: two letters, two digits, and possibly a hyphen and more digits. -/
def isRegion : List Char → Bool
  | a :: b :: c :: d :: rest =>
    let isLetter (x : Char) : Bool := 'a' ≤ x && x ≤ 'z'
    isLetter a && isLetter b && Text.isDigit c && Text.isDigit d &&
      (match rest with
        | [] => true
        | '-' :: digits => !digits.isEmpty && digits.all Text.isDigit
        | _ => false)
  | _ => false

/-- Whether a text has a form, or would have it without a line feed at its end. -/
def fits (form : List Char → Bool) (s : String) : Bool :=
  let cs := s.toList
  form cs || (cs.getLast? = some '\n' && form cs.dropLast)

/-! ## Validation -/

def projectProblem (s : MachineSecret) : Option Problem :=
  if s.projectId = "" then some (.absent .projectId)
  else if fits isUuid s.projectId then none else some (.notUuid .projectId)

def regionProblem (s : MachineSecret) : Option Problem :=
  if s.region = "" then some (.absent .region)
  else if fits isRegion s.region then none else some (.badRegion s.region)

def keyProblem (s : MachineSecret) (requireKey : Bool) : Option Problem :=
  if requireKey && Text.isAllBlank s.serviceAccountKey then some (.absent .serviceAccountKey)
  else none

def networkProblem (s : MachineSecret) : Option Problem :=
  if s.networkId = "" || fits isUuid s.networkId then none else some (.notUuid .networkId)

/-- Everything that is wrong with a secret, in the order of the fields. -/
def validate (s : MachineSecret) (requireKey : Bool) : List Problem :=
  [s.projectProblem, s.regionProblem, s.keyProblem requireKey, s.networkProblem].filterMap id

/-! ## Reading -/

/-- The text of a value, if it can be decoded. -/
def decode (encoded : Bool) : SecretValue → Except Misfit (Option String)
  | .absent => .ok (some "")
  | .other v => .error (.member v.kind "encode")
  | .text s => .ok (decodeBytes (Utf8.encode s))
  | .bytes bs => .ok (decodeBytes bs)
where
  /-- The text of bytes, if they can be decoded. -/
  decodeBytes (bs : Bytes) : Option String :=
    if encoded then (Base64.decodeLenient bs).bind Utf8.decode? else Utf8.decode? bs

/-- Every value of the data, decoded where it can be. -/
def decodeAll (encoded : Bool) (data : Entries SecretValue) :
    Except Misfit (Entries (Option String)) :=
  data.mapM fun p => (decode encoded p.2).map fun v => (p.1, v)

/-- The text of a field, empty if it is missing or cannot be decoded. -/
def fieldText (values : Entries (Option String)) (f : Field) : String :=
  ((values.get? f.key).getD none).getD ""

/-- The secret with these values. -/
def ofValues (values : Entries (Option String)) : MachineSecret :=
  { projectId := Text.trim (fieldText values .projectId)
    region := Text.trim (fieldText values .region)
    serviceAccountKey := fieldText values .serviceAccountKey
    networkId := Text.trim (fieldText values .networkId)
    userData := fieldText values .userData }

def undecodable (values : Entries (Option String)) : List String :=
  (values.filter fun p => p.2.isNone).map (·.1)

/-- Whether a text names a key between quotes. -/
def names (text key : String) : Bool :=
  Value.occursIn ('\'' :: (key.toList ++ ['\''])) text.toList

/-- Everything that is wrong with some values: the keys that cannot be decoded, and the problems of
the secret that do not name one of them. -/
def problems (values : Entries (Option String)) (requireKey : Bool) : List Problem :=
  let lost := undecodable values
  lost.map .undecodable ++
    ((ofValues values).validate requireKey).filter fun p => !lost.any (names p.message)

/-- The secret that some data holds. -/
def ofData (data : Entries SecretValue) (encoded requireKey : Bool) :
    Except Fault MachineSecret :=
  match decodeAll encoded data with
  | .error misfit => .error (.misfit misfit)
  | .ok values =>
    match problems values requireKey with
    | [] => .ok (ofValues values)
    | ps => .error (.secret (ps.map Problem.message))

end MachineSecret

end MachineCloud
