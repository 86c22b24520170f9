import MachineCloud.Json.Writer
import MachineCloud.Listing.Order
import MachineCloud.Server

/-!
# Listings

Servers and network interfaces as text: a list, a table, or JSON.  In the list and the table servers
stand in the order of their names, those with one name in the order in which they came.  As JSON,
items stand as they came, and lists and maps may stand in each other only so deep.
-/

namespace MachineCloud

inductive Layout where
  | list
  | table
  | json
deriving DecidableEq, Repr

namespace Layout

/-- The layout of a name.  An unknown name means a list. -/
def ofName : String → Layout
  | "table" => .table
  | "json" => .json
  | _ => .list

end Layout

namespace Listing

/-- Servers in the order of their names. -/
def byName : List Server → Except Misfit (List Server) :=
  Order.sort fun s t => s.name.before t.name

/-- A text with spaces after it up to a width. -/
def pad (width : Nat) (s : String) : String :=
  s ++ String.ofList (List.replicate (width - s.length) ' ')

/-- A value as a cell of a table.  Booleans are shown as numbers; null, lists and maps have no
cell. -/
def cell (width : Nat) : Value → Except Misfit String
  | .str s => .ok (pad width s)
  | .bool b => .ok (pad width (if b then "1" else "0"))
  | .int n => .ok (pad width (Value.int n).text)
  | .float x => .ok (pad width x.text)
  | v => .error (.padded v.kind)

def row (cells : List (Nat × Value)) : Except Misfit String := do
  return String.intercalate " " (← cells.mapM fun c => cell c.1 c.2)

def rule (width : Nat) : String := String.ofList (List.replicate width '=')

def lines (ls : List String) : String := String.intercalate "\n" ls

/-- How deep lists and maps may stand in each other in an item of a JSON listing. -/
def maxNesting : Nat := 490

/-- Some items as a JSON listing. -/
def asJson (items : List Value) : Except Misfit String :=
  if items.all fun item => item.depth ≤ maxNesting then .ok (Json.pretty (.list items))
  else .error .nesting

/-! ## Servers -/

def serverRow (id name status : Value) : Except Misfit String :=
  row [(38, id), (30, name), (12, status)]

/-- The lines of a server's labels, in the order of their keys. -/
def labelLines (labels : Value) : Except Misfit (List String) := do
  let entries ← (labels.orElse (.map [])).asMap "items"
  let sorted := entries.mergeSort fun p q => decide (p.1 ≤ q.1)
  return sorted.map fun p => s!"    {p.1}={p.2.text}"

def serverLines (s : Server) : Except Misfit (List String) := do
  return s!"- {s.name.text} ({s.id.text}) [{s.status.text}]" :: (← labelLines s.labels)

def ofServers (layout : Layout) (servers : List Server) : Except Misfit String :=
  match layout with
  | .json => asJson (servers.map Server.toValue)
  | .table =>
    if servers.isEmpty then .ok "No servers found."
    else do
      let sorted ← byName servers
      let header ← serverRow (.str "ID") (.str "NAME") (.str "STATUS")
      let rows ← sorted.mapM fun s => serverRow s.id s.name s.status
      return lines (("\n" ++ header) :: rule 80 :: rows)
  | .list =>
    if servers.isEmpty then .ok "No servers found."
    else do
      let sorted ← byName servers
      return lines (← sorted.mapM serverLines).flatten

/-! ## Network interfaces -/

def nicRow (id network addresses : Value) : Except Misfit String :=
  row [(38, id), (38, network), (30, addresses)]

def joinTexts (v : Value) : Except Misfit String := do
  let items ← match v.asItems with
    | .ok items => pure items
    | .error _ => throw .joinable
  let texts ← items.zipIdx.mapM fun p => match p.1 with
    | .str s => pure s
    | item => throw (.joined p.2 item.kind)
  return String.intercalate "," texts

def nicLines (n : Nic) : Except Misfit (List String) := do
  let ipv4 := n.ipv4.orElse (.str "-")
  let first := s!"- {n.id.text} (network {n.networkId.text}, ipv4 {ipv4.text})"
  return first :: (← n.allowedAddresses.asItems).map fun a => s!"    allowed: {a.text}"

def ofNics (layout : Layout) (nics : List Nic) : Except Misfit String :=
  match layout with
  | .json => asJson (nics.map Nic.toValue)
  | .table =>
    if nics.isEmpty then .ok "No network interfaces found."
    else do
      let header ← nicRow (.str "NIC ID") (.str "NETWORK ID") (.str "ALLOWED ADDRESSES")
      let rows ← nics.mapM fun n => do
        let addresses ← joinTexts n.allowedAddresses
        nicRow n.id n.networkId ((Value.str addresses).orElse (.str "-"))
      return lines (("\n" ++ header) :: rule 106 :: rows)
  | .list =>
    if nics.isEmpty then .ok "No network interfaces found."
    else do
      return lines (← nics.mapM nicLines).flatten

end Listing

end MachineCloud
