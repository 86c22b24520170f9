import MachineCloud.Entries
import MachineCloud.Number.Shortest
import MachineCloud.Text.Quoted

/-!
# Values

The values that requests, answers and key files hold: JSON's, with integers of any size kept apart
from binary64 numbers and maps in the order of their keys.
-/

namespace MachineCloud

/-- A dynamic value. -/
inductive Value where
  | null
  | bool (b : Bool)
  | int (n : Int)
  | float (x : Binary64)
  | str (s : String)
  | list (items : List Value)
  | map (entries : List (String × Value))
deriving Inhabited

namespace Value

def kind : Value → String
  | .null => "NoneType"
  | .bool _ => "bool"
  | .int _ => "int"
  | .float _ => "float"
  | .str _ => "str"
  | .list _ => "list"
  | .map _ => "dict"

/-- Whether a value counts as present: neither null, false, zero nor empty. -/
def isTruthy : Value → Bool
  | .null => false
  | .bool b => b
  | .int n => n ≠ 0
  | .float x => !x.isZero
  | .str s => s ≠ ""
  | .list items => !items.isEmpty
  | .map entries => !entries.isEmpty

/-- The value itself if it counts as present, the other one otherwise. -/
def orElse (v w : Value) : Value := if v.isTruthy then v else w

def isStr : Value → Bool
  | .str _ => true
  | _ => false

mutual

/-- How deep lists and maps stand in each other in a value. -/
def depth : Value → Nat
  | .list items => depthItems items + 1
  | .map entries => depthEntries entries + 1
  | _ => 0

def depthItems : List Value → Nat
  | [] => 0
  | v :: rest => max (depth v) (depthItems rest)

def depthEntries : List (String × Value) → Nat
  | [] => 0
  | (_, v) :: rest => max (depth v) (depthEntries rest)

end

/-- A number's exact value, where a boolean is zero or one. -/
inductive Numeric where
  | int (n : Int)
  | float (x : Binary64)

/-- A value as a number, if it is one. -/
def numeric? : Value → Option Numeric
  | .bool b => some (.int (if b then 1 else 0))
  | .int n => some (.int n)
  | .float x => some (.float x)
  | _ => none

/-- Whether two numbers are equal.  There is only one NaN, and it equals itself. -/
def Numeric.same : Numeric → Numeric → Bool
  | .int m, .int n => m == n
  | .int m, .float y => y.eqInt m
  | .float x, .int n => x.eqInt n
  | .float x, .float y => x.eq y || (x == .nan && y == .nan)

def Numeric.less : Numeric → Numeric → Bool
  | .int m, .int n => m < n
  | .int m, .float y => y.intLt m
  | .float x, .int n => x.ltInt n
  | .float x, .float y => x.lt y

/-- Whether a value is the given number. -/
def sameNumber (x : Numeric) (w : Value) : Bool :=
  match w.numeric? with
  | some y => x.same y
  | none => false

mutual

/-- Whether two values are equal: numbers by value, lists item by item, maps key by key in any
order. -/
def same : Value → Value → Bool
  | .null, .null => true
  | .bool b, w => sameNumber (.int (if b then 1 else 0)) w
  | .int n, w => sameNumber (.int n) w
  | .float x, w => sameNumber (.float x) w
  | .str s, .str t => s == t
  | .list xs, .list ys => sameItems xs ys
  | .map xs, .map ys => xs.length == ys.length && sameEntries xs ys
  | _, _ => false

def sameItems : List Value → List Value → Bool
  | [], [] => true
  | x :: xs, y :: ys => same x y && sameItems xs ys
  | _, _ => false

def sameEntries : List (String × Value) → List (String × Value) → Bool
  | [], _ => true
  | (k, v) :: rest, ys =>
    (match Entries.get? k ys with
      | some w => same v w
      | none => false) && sameEntries rest ys

end

/-- An integer's decimal text. -/
def intChars : Int → List Char
  | .ofNat n => Nat.toDigits 10 n
  | .negSucc n => '-' :: Nat.toDigits 10 (n + 1)

mutual

/-- A value as messages show it inside lists and maps, with strings between quotes. -/
def quotedChars : Value → List Char
  | .null => ['N', 'o', 'n', 'e']
  | .bool true => ['T', 'r', 'u', 'e']
  | .bool false => ['F', 'a', 'l', 's', 'e']
  | .int n => intChars n
  | .float x => x.text.toList
  | .str s => Text.quoteChars s.toList
  | .list items => '[' :: (quotedItems items ++ [']'])
  | .map entries => '\x7b' :: (quotedEntries entries ++ ['\x7d'])

def quotedItems : List Value → List Char
  | [] => []
  | [v] => quotedChars v
  | v :: rest => quotedChars v ++ ',' :: ' ' :: quotedItems rest

def quotedEntries : List (String × Value) → List Char
  | [] => []
  | [(k, v)] => Text.quoteChars k.toList ++ ':' :: ' ' :: quotedChars v
  | (k, v) :: rest =>
    Text.quoteChars k.toList ++ ':' :: ' ' :: (quotedChars v ++ ',' :: ' ' :: quotedEntries rest)

end

/-- A value as messages show it inside lists and maps. -/
def quoted (v : Value) : String := String.ofList v.quotedChars

/-- A value's text: a string as it is, any other value as inside a list. -/
def text : Value → String
  | .str s => s
  | v => v.quoted

end Value

end MachineCloud
