import MachineCloud.Value

/-!
# Misfits

A misfit is a value of a kind that an operation has no use for, such as a number where the members
of a map are wanted, or one that is nested too deep for it.  Each has one wording, which names the
kind.
-/

namespace MachineCloud

/-- A value of the wrong kind.  The texts are the names of the kinds. -/
inductive Misfit where
  /-- A value without the member or operation of that name. -/
  | member (kind name : String)
  /-- A value that has no items to go through. -/
  | items (kind : String)
  /-- A value in which nothing can be looked for. -/
  | container (kind : String)
  /-- A value looked for in a text that is no text. -/
  | part (kind : String)
  /-- A value looked for among keys that cannot be a key. -/
  | key (kind : String)
  /-- Two values that have no order. -/
  | order (sign left right : String)
  /-- A value that has no length. -/
  | length (kind : String)
  /-- A value that cannot be padded to a width. -/
  | padded (kind : String)
  /-- A path segment that is no text. -/
  | segment
  /-- A value that cannot be read as a number. -/
  | number (kind : String)
  /-- An item that is no text in a list of texts to join. -/
  | joined (index : Nat) (kind : String)
  /-- A value whose items are to be joined that has none. -/
  | joinable
  /-- A value without the fields of a listed item. -/
  | record
  /-- A value in which lists and maps stand in each other too deep. -/
  | nesting
deriving DecidableEq, Repr

namespace Misfit

def message : Misfit → String
  | .member kind name => s!"'{kind}' object has no attribute '{name}'"
  | .items kind => s!"'{kind}' object is not iterable"
  | .container kind => s!"argument of type '{kind}' is not iterable"
  | .part kind => s!"'in <string>' requires string as left operand, not {kind}"
  | .key kind => s!"unhashable type: '{kind}'"
  | .order sign left right => s!"'{sign}' not supported between instances of '{left}' and '{right}'"
  | .length kind => s!"object of type '{kind}' has no len()"
  | .padded kind => s!"unsupported format string passed to {kind}.__format__"
  | .segment => "quote_from_bytes() expected bytes"
  | .number kind => s!"float() argument must be a string or a real number, not '{kind}'"
  | .joined index kind => s!"sequence item {index}: expected str instance, {kind} found"
  | .joinable => "can only join an iterable"
  | .record => "asdict() should be called on dataclass instances"
  | .nesting => "maximum recursion depth exceeded"

end Misfit

namespace Value

/-- The value as the members of a map, to be used by the operation of that name. -/
def asMap (name : String) : Value → Except Misfit (Entries Value)
  | .map entries => .ok entries
  | v => .error (.member v.kind name)

/-- The items of a value: a list's, a text's characters, a map's keys. -/
def asItems : Value → Except Misfit (List Value)
  | .list items => .ok items
  | .str s => .ok (s.toList.map fun c => .str (String.singleton c))
  | .map entries => .ok (entries.map fun p => .str p.1)
  | v => .error (.items v.kind)

/-- Whether a text is somewhere in another one. -/
def occursIn (needle : List Char) : List Char → Bool
  | [] => needle.isEmpty
  | c :: rest => needle.isPrefixOf (c :: rest) || occursIn needle rest

/-- Whether `item` is in the value: among a list's items, as a part of a text, among a map's
keys. -/
def holds (item : Value) : Value → Except Misfit Bool
  | .list items => .ok (items.any item.same)
  | .str s =>
    match item with
    | .str t => .ok (occursIn t.toList s.toList)
    | v => .error (.part v.kind)
  | .map entries =>
    match item with
    | .list _ => .error (.key "list")
    | .map _ => .error (.key "dict")
    | .str t => .ok (Entries.get? t entries).isSome
    | _ => .ok false
  | v => .error (.container v.kind)

/-- Whether the value is greater than zero, if it is a number. -/
def isPositive (v : Value) : Except Misfit Bool :=
  match v.numeric? with
  | some x => .ok (Numeric.less (.int 0) x)
  | none => .error (.order ">" v.kind "int")

end Value

end MachineCloud
