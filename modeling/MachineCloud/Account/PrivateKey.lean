import MachineCloud.Crypto.Curve.Parameters
import MachineCloud.Crypto.DiffieHellman
import MachineCloud.Crypto.Pem
import MachineCloud.Crypto.Rsa

/-!
# Private keys

The private key in a key file: an RSA key in one of its two PEM forms.  Keys of other algorithms are
told apart from texts that hold no usable key, and so are keys on curves that are not known here.
-/

namespace MachineCloud.Account

/-- What a text holds: an RSA key, a key of another algorithm, a key on a curve that is not known
by its name or has none, or no usable key. -/
inductive LoadedKey where
  | rsa (key : Rsa.PrivateKey)
  | other
  | unknownCurve (identifier : Bytes)
  | unnamedCurve
  | unusable
deriving DecidableEq, Repr

inductive Algorithm where
  | rsa
  /-- RSA with parameters for probabilistic signatures. -/
  | rsaPss
  | curve
  /-- One of the curves with an algorithm of its own, and the number of bytes of its keys. -/
  | raw (length : Nat)
  | dsa
  /-- Diffie-Hellman with the parameters p and g. -/
  | agreement
  /-- Diffie-Hellman with the parameters p, g and q. -/
  | agreementOfOrder
deriving DecidableEq, Repr

namespace Algorithm

def identifiers : List (Bytes × Algorithm) := [
  ([0x2A, 0x86, 0x48, 0x86, 0xF7, 0x0D, 0x01, 0x01, 0x01], .rsa),
  ([0x2A, 0x86, 0x48, 0x86, 0xF7, 0x0D, 0x01, 0x01, 0x0A], .rsaPss),
  ([0x2A, 0x86, 0x48, 0xCE, 0x3D, 0x02, 0x01], .curve),
  ([0x2B, 0x65, 0x6E], .raw 32),
  ([0x2B, 0x65, 0x6F], .raw 56),
  ([0x2B, 0x65, 0x70], .raw 32),
  ([0x2B, 0x65, 0x71], .raw 57),
  ([0x2A, 0x86, 0x48, 0xCE, 0x38, 0x04, 0x01], .dsa),
  ([0x2A, 0x86, 0x48, 0x86, 0xF7, 0x0D, 0x01, 0x03, 0x01], .agreement),
  ([0x2A, 0x86, 0x48, 0xCE, 0x3E, 0x02, 0x01], .agreementOfOrder)]

def ofIdentifier? (identifier : Bytes) : Option Algorithm :=
  (identifiers.find? fun a => a.1 = identifier).map Prod.snd

end Algorithm

namespace LoadedKey

open Der (Item)

/-- An RSA key's own form: a sequence of the version zero, the modulus, the exponents, the primes,
and the numbers that follow from these. -/
def rsaKey? (i : Item) : Option LoadedKey := do
  match ← (← i.sequence?).mapM Item.nat? with
  | [0, n, e, d, p, q, dp, dq, qi] =>
    let key : Rsa.PrivateKey := ⟨n, e, d, p, q, dp, dq, qi⟩
    if key.isConsistent then some (.rsa key) else none
  | _ => none

/-- The key on a curve that the parameters tell: a scalar, and a point if one is given. -/
def onCurve? (parameters : Curve.Parameters) (scalar : Bytes) (point? : Option Bytes) :
    Option LoadedKey :=
  let key? (c : Curve) : Option LoadedKey := if c.isKey scalar point? then some .other else none
  match parameters with
  | .named identifier =>
    match Curve.find? identifier with
    | some c => key? c
    | none => some (.unknownCurve identifier)
  | .implicit => some .unnamedCurve
  | .explicit domain =>
    match Curve.ofDomain? domain with
    | some c => key? c
    | none => some .unnamedCurve

/-- The own form of a key on a curve: a sequence of the version one and the scalar, and after these
the curve's parameters and the point if they are given.  The parameters stand here or around the key,
and if in both places, then alike. -/
def curveKey? (outer : Option Item) (i : Item) : Option LoadedKey := do
  match ← i.sequence? with
  | version :: scalar :: items =>
    if version.nat? ≠ some 1 then none
    let scalar ← scalar.octets?
    let (inner, items) ← Item.optional? 0 items
    let (point?, items) ← Item.optional? 1 items
    let point? ← point?.mapM Item.bits?
    if !items.isEmpty then none
    let parameters ← outer.orElse fun _ => inner
    if inner.any (· ≠ parameters) then none
    onCurve? (← Curve.Parameters.ofItem? parameters) scalar point?
  | _ => none

/-- DSA's own form of a key: a sequence of the version zero, the parameters and the two keys. -/
def dsaKey? (i : Item) : Option LoadedKey := do
  match ← (← i.sequence?).mapM Item.nat? with
  | [0, _, _, _, _, _] => some .other
  | _ => none

/-- An algorithm with parameters: a sequence that starts with an object identifier. -/
def named? (i : Item) : Option (Bytes × List Item) := do
  match ← i.sequence? with
  | identifier :: parameters =>
    if 1 < parameters.length then none
    return (← identifier.identifier?, parameters)
  | [] => none

/-- Whether an item names the function that makes masks, together with a hash function. -/
def isMask (i : Item) : Bool :=
  match i.sequence? with
  | some [identifier, hash] => identifier.identifier?.isSome && (named? hash).isSome
  | _ => false

/-- Whether an item holds parameters for probabilistic signatures: a hash function, the function
that makes masks, the length of the salt and the kind of the trailer, none of which is required. -/
def isPss (i : Item) : Bool :=
  let parts? : Option Bool := do
    let (hash, items) ← Item.optional? 0 (← i.sequence?)
    let (mask, items) ← Item.optional? 1 items
    let (salt, items) ← Item.optional? 2 items
    let (trailer, items) ← Item.optional? 3 items
    let isBelow (bound : Nat) (j : Item) : Bool := j.nat?.any (· < bound)
    return items.isEmpty && hash.all (fun j => (named? j).isSome) && mask.all isMask &&
      salt.all (isBelow 0x10000) && trailer.all (isBelow 0x100)
  parts?.getD false

def numbers? (i : Item) : Option (List Nat) := i.sequence?.bind fun items => items.mapM Item.nat?

/-- The group of a prime and a generator.  A third number is the length of private keys and takes no
more than four bytes. -/
def group? (i : Item) : Option DiffieHellman.Group := do
  match ← numbers? i with
  | [p, g] => return ⟨p, g, none⟩
  | [p, g, length] => if Octets.width length ≤ 4 then some ⟨p, g, none⟩ else none
  | _ => none

/-- The group of a prime, a generator and an order.  A factor follows these if there is one, and a
sequence that tells how the numbers were found, which is not looked into. -/
def groupOfOrder? (i : Item) : Option DiffieHellman.Group := do
  match ← i.sequence? with
  | p :: g :: q :: items =>
    let isValidation (j : Item) : Bool := j.tag = Item.sequenceTag
    let isEnd := match items with
      | [] => true
      | [j] => j.nat?.isSome || isValidation j
      | [j, k] => j.nat?.isSome && isValidation k
      | _ => false
    if !isEnd then none
    return ⟨← p.nat?, ← g.nat?, some (← q.nat?)⟩
  | _ => none

/-- The key of a group that is fit for keys: a number, of any size. -/
def inGroup? (G : DiffieHellman.Group) (i : Item) : Option LoadedKey :=
  if i.nat?.isSome && G.isFit then some .other else none

/-- The key of an algorithm, in the algorithm's own form. -/
def ofAlgorithm? (a : Algorithm) (parameters : List Item) (key : Bytes) : Option LoadedKey := do
  let i ← Der.read? key
  match a, parameters with
  | .rsa, [] => rsaKey? i
  | .rsa, [j] => if j = Item.null then rsaKey? i else none
  | .rsaPss, [] => rsaKey? i
  | .rsaPss, [j] => if isPss j then rsaKey? i else none
  | .curve, [j] => curveKey? (some j) i
  | .raw length, [] => if (← i.octets?).length = length then some .other else none
  | .dsa, [j] => if ((← numbers? j).length = 3 : Bool) && i.nat?.isSome then some .other else none
  | .agreement, [j] => inGroup? (← group? j) i
  | .agreementOfOrder, [j] => inGroup? (← groupOfOrder? j) i
  | _, _ => none

/-- Whether an item is an attribute: a sequence of an object identifier and a set of values. -/
def isAttribute (i : Item) : Bool :=
  match i.sequence? with
  | some [identifier, values] =>
    identifier.identifier?.isSome && ((values.tagged? Item.setTag).bind Item.setItems?).isSome
  | _ => false

/-- Whether the items that follow a key are nothing but a set of attributes, if there is one. -/
def areAttributes : List Item → Bool
  | [] => true
  | [i] => i.tag = Item.partTag 0 && (Item.setItems? i.contents).any fun set => set.all isAttribute
  | _ => false

/-- The common form of all algorithms: a sequence of the version zero, the algorithm and the key in
the algorithm's own form, and attributes after these. -/
def commonKey? (i : Item) : Option LoadedKey := do
  match ← i.sequence? with
  | version :: algorithm :: key :: items =>
    let (identifier, parameters) ← named? algorithm
    if version.nat? ≠ some 0 || !areAttributes items then none
    ofAlgorithm? (← Algorithm.ofIdentifier? identifier) parameters (← key.octets?)
  | _ => none

/-- The ways in which the contents of a block are read as a private key, by the block's label.
Encrypted keys are not read. -/
def readers : List (String × (Item → Option LoadedKey)) := [
  ("PRIVATE KEY", commonKey?),
  ("ENCRYPTED PRIVATE KEY", fun _ => none),
  ("RSA PRIVATE KEY", rsaKey?),
  ("EC PRIVATE KEY", curveKey? none),
  ("DSA PRIVATE KEY", dsaKey?)]

/-- The header of a block whose contents are encrypted. -/
def encryptionHeader : String := "Proc-Type"

/-- The key in a block, if the label is one of those of private keys. -/
def ofBlock? (b : Pem.Block) : Option LoadedKey :=
  (readers.find? fun r => r.1 = b.label).map fun r =>
    if b.headers.any fun h => h.1 = encryptionHeader then .unusable
    else ((Der.read? b.contents).bind r.2).getD .unusable

/-- The key in the first block of a text that may hold one. -/
def ofText (text : String) : LoadedKey :=
  ((Pem.read? text).bind fun bs => bs.findSome? ofBlock?).getD .unusable

end LoadedKey

end MachineCloud.Account
