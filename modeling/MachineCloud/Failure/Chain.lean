import MachineCloud.Failure

/-!
# Error chains

The chain of an error follows, link by link, the error it was raised from or else the one it came up
during, and ends before it would repeat itself.  The first API error on it decides whether the
failure means that something does not exist.
-/

namespace MachineCloud.Failure

/-- The next error of a chain: the cause if there is one, else the context unless suppressed. -/
def successor? (links : List Link) (i : Nat) : Option Nat := do
  let link ← links[i]?
  let j ← link.cause <|> (if link.suppressed then none else link.context)
  if j < links.length then some j else none

/-- The errors from `i?` on, up to the first one already seen.  The fuel counts the errors that may
still come. -/
def walk (links : List Link) : Nat → List Nat → Option Nat → List Nat
  | 0, _, _ => []
  | _ + 1, _, none => []
  | fuel + 1, seen, some i =>
    if i ∈ seen then [] else i :: walk links fuel (i :: seen) (successor? links i)

/-- The chain from an error on, outermost first.  No chain is longer than the list of errors. -/
def chainFrom (links : List Link) (start? : Option Nat) : List Nat :=
  walk links links.length [] start?

def apiStatus? (links : List Link) (i : Nat) : Option Value :=
  match links[i]? with
  | some ⟨.api _ status _ _, _, _, _⟩ => some status
  | _ => none

/-- The status that says that something does not exist. -/
def notFoundStatus : Value := .int 404

/-- Whether the first API error from an error on has the status of something that does not exist. -/
def isNotFoundFrom (links : List Link) (start? : Option Nat) : Bool :=
  match (chainFrom links start?).findSome? (apiStatus? links) with
  | some status => status.same notFoundStatus
  | none => false

def chain (f : Failure) : List Nat := chainFrom f.links (some f.start)

def isNotFound (f : Failure) : Bool := isNotFoundFrom f.links (some f.start)

end MachineCloud.Failure
