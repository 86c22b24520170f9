import MachineCloud.Failure

/-!
# Label arguments

Labels as they are given on the command line: `key=value`, where the value may hold more equal
signs.
-/

namespace MachineCloud.Command

/-- The label that a text gives.  It needs an equal sign and a key before it. -/
def readLabel (text : String) : Except Fault (String × String) :=
  let key := text.toList.takeWhile (· ≠ '=')
  match text.toList.dropWhile (· ≠ '=') with
  | _ :: value =>
    if key.isEmpty then .error (.label text) else .ok (String.ofList key, String.ofList value)
  | [] => .error (.label text)

/-- The label that an item gives, which has to be a text. -/
def readLabelItem : Value → Except Fault (String × String)
  | .str text => readLabel text
  | v => .error (.misfit (.member v.kind "partition"))

/-- The labels that the items of a value give; without any item, none. -/
def readLabels (v : Value) : Except Fault (Option (Entries String)) :=
  if !v.isTruthy then .ok none
  else match v.asItems with
    | .error misfit => .error (.misfit misfit)
    | .ok items => do
      let pairs ← items.mapM readLabelItem
      return some (Entries.ofPairs pairs)

def selectorOf : Option (Entries String) → Value
  | none => .null
  | some labels => .map (labels.map fun p => (p.1, .str p.2))

end MachineCloud.Command
