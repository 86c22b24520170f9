import MachineCloud.Client.Overridden
import MachineCloud.Client.Remote

/-!
# Client kinds

Which kinds of client there are, and how each is built.  Every build makes a new client.  A builder
may be registered under any value that can be a key, but only a kind can be built by it.
-/

namespace MachineCloud

inductive ClientKind where
  | sdk
  | mock
deriving DecidableEq, Repr

namespace ClientKind

def all : List ClientKind := [.sdk, .mock]

def value : ClientKind → String
  | .sdk => "sdk"
  | .mock => "mock"

def name : ClientKind → String
  | .sdk => "SDK"
  | .mock => "MOCK"

def text (k : ClientKind) : String := "ClientKind." ++ k.name

def ofValue? (v : Value) : Option ClientKind := all.find? fun k => v.same (.str k.value)

/-- The kind that a value stands for, or a fault. -/
def ofValue (v : Value) : Except Failure ClientKind :=
  match ofValue? v with
  | some k => .ok k
  | none => .error (.of (.value (.notAClientKind v)))

end ClientKind

/-- What a builder is registered under: a kind of client, or some other value. -/
inductive KindKey where
  | kind (k : ClientKind)
  | other (v : Value)

namespace KindKey

def text : KindKey → String
  | .kind k => k.text
  | .other v => v.text

/-- Whether two keys are the same.  A kind is no other value, not even the one that stands for it. -/
def same : KindKey → KindKey → Bool
  | .kind k, .kind l => k = l
  | .other v, .other w => v.same w
  | _, _ => false

/-- Lists and maps cannot be keys. -/
def check : KindKey → Except Misfit Unit
  | .other (.list items) => .error (.key (Value.list items).kind)
  | .other (.map entries) => .error (.key (Value.map entries).kind)
  | _ => .ok ()

def asKind : KindKey → Except Misfit ClientKind
  | .kind k => .ok k
  | .other v => .error (.member v.kind "value")

end KindKey

/-- A client that was built: on a handle, or without a backend. -/
inductive Built where
  | remote (handle : Handle)
  | overridden (overrides : Overrides Action)

namespace Built

def client : Built → Client Action
  | .remote h => Remote.client h
  | .overridden o => Overridden.client o

end Built

/-- A way to build a client from a key and settings, where they are given. -/
abbrev Builder := (key : String) → (settings : Option Settings) → Action Built

/-- The builders of the kinds, in the order in which the kinds were registered.  A kind may be
registered without a builder. -/
abbrev Registry := List (KindKey × Option Builder)

namespace Registry

/-- The kinds that are there from the start. -/
def standard : Registry := [
  (.kind .sdk, some fun key settings => .remote <$> Remote.open key settings),
  (.kind .mock, some fun _ _ => return .overridden {})]

/-- The kinds in the order of their registration. -/
def kinds (r : Registry) : Except Misfit (List ClientKind) := r.mapM fun entry => entry.1.asKind

/-- Puts a builder under a key: in the place of the key's old one, or at the end. -/
def put (key : KindKey) (builder : Option Builder) : Registry → Registry
  | [] => [(key, builder)]
  | entry :: rest =>
    if entry.1.same key then (entry.1, builder) :: rest else entry :: put key builder rest

/-- Registers a builder.  Under a key that is no kind it is registered too, though that fails. -/
def register (r : Registry) (key : KindKey) (builder : Option Builder) :
    Except Misfit ClientKind × Registry :=
  match key.check with
  | .error misfit => (.error misfit, r)
  | .ok () => (key.asKind, r.put key builder)

def builder? (r : Registry) (key : KindKey) : Option Builder :=
  (r.find? fun entry => entry.1.same key).bind (·.2)

def create (r : Registry) (kind : KindKey) (key : String) (settings : Option Settings) :
    Action Built := do
  Action.ofMisfit kind.check
  match r.builder? kind with
  | some build => do
    let _ ← Action.ofMisfit kind.asKind
    build key settings
  | none => throw (.of (.value (.unknownClientKind kind.text)))

end Registry

end MachineCloud
