import MachineCloud.Failure.Misfit

/-!
# The order of listed items

When one value comes before another, and the sorting of items by such an order.  Not all values have
an order, and NaN comes neither before nor after anything, so it matters which items are compared:
first the run at the start of the items is found, which either never falls or always falls, and then
every other item is put in its place, which is found by halving.
-/

namespace MachineCloud

namespace Value

/-- Whether a number comes before a value. -/
def beforeNumber (x : Numeric) (kind : String) (w : Value) : Except Misfit Bool :=
  match w.numeric? with
  | some y => .ok (x.less y)
  | none => .error (.order "<" kind w.kind)

mutual

/-- Whether the first value comes before the second, where the two have an order: numbers by value,
texts by code points, lists by their first items that differ. -/
def before : Value → Value → Except Misfit Bool
  | .str s, .str t => .ok (decide (s < t))
  | .list xs, .list ys => beforeItems xs ys
  | .bool a, w => beforeNumber (.int (if a then 1 else 0)) "bool" w
  | .int n, w => beforeNumber (.int n) "int" w
  | .float x, w => beforeNumber (.float x) "float" w
  | v, w => .error (.order "<" v.kind w.kind)

def beforeItems : List Value → List Value → Except Misfit Bool
  | [], [] => .ok false
  | [], _ :: _ => .ok true
  | _ :: _, [] => .ok false
  | x :: xs, y :: ys => if same x y then beforeItems xs ys else before x y

end

end Value

namespace Order

variable {α ε : Type}

/-- Goes on with a run as long as each item comes before the one ahead of it if the run falls, and
does not if it climbs.  Gives the run, newest item first, and what is left. -/
def extendRun (before : α → α → Except ε Bool) (falls : Bool) (newest : α) (older : List α) :
    List α → Except ε (List α × List α)
  | [] => .ok (newest :: older, [])
  | x :: rest =>
    match before x newest with
    | .error e => .error e
    | .ok b =>
      if b = falls then extendRun before falls x (newest :: older) rest
      else .ok (newest :: older, x :: rest)

/-- The run at the start of the items, in order, and what is left. -/
def firstRun (before : α → α → Except ε Bool) : List α → Except ε (List α × List α)
  | x :: y :: rest =>
    match before y x with
    | .error e => .error e
    | .ok falls =>
      (extendRun before falls y [x] rest).map fun r =>
        (if falls then r.1 else r.1.reverse, r.2)
  | items => .ok (items, [])

/-- Puts an item into a list in order, behind those that it does not come before. -/
def insert (before : α → α → Except ε Bool) (item : α) (sorted : List α) :
    Except ε (List α) :=
  match _h : sorted.drop (sorted.length / 2) with
  | [] => .ok [item]
  | middle :: upper =>
    match before item middle with
    | .error e => .error e
    | .ok true =>
      (insert before item (sorted.take (sorted.length / 2))).map (· ++ middle :: upper)
    | .ok false =>
      (insert before item upper).map (sorted.take (sorted.length / 2) ++ middle :: ·)
termination_by sorted.length
decreasing_by
  · have hlen := congrArg List.length _h
    simp only [List.length_drop, List.length_cons] at hlen
    simp only [List.length_take]
    omega
  · have hlen := congrArg List.length _h
    simp only [List.length_drop, List.length_cons] at hlen
    omega

/-- The items in order, those that come neither before nor after each other as they were. -/
def sort (before : α → α → Except ε Bool) (items : List α) : Except ε (List α) :=
  match firstRun before items with
  | .error e => .error e
  | .ok (run, rest) => rest.foldlM (fun sorted item => insert before item sorted) run

end Order

end MachineCloud
