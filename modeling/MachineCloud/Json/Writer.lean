import MachineCloud.Value

/-!
# Writing JSON

Values as JSON in ASCII: every character outside the printable ASCII ones is escaped, those beyond
U+FFFF as a surrogate pair.  The compact form has no white space; the indented form puts every item
on a line of its own, two spaces deeper for each level, except in empty lists and maps.
-/

namespace MachineCloud.Json

/-- The four-digit escape of a unit. -/
def unitEscape (n : Nat) : List Char := '\\' :: 'u' :: Text.hexChars 4 n

def escapeChar (c : Char) : List Char :=
  if c = '"' then ['\\', '"']
  else if c = '\\' then ['\\', '\\']
  else if c = '\n' then ['\\', 'n']
  else if c = '\r' then ['\\', 'r']
  else if c = '\t' then ['\\', 't']
  else if c = '\x08' then ['\\', 'b']
  else if c = '\x0c' then ['\\', 'f']
  else if ' ' ≤ c ∧ c ≤ '~' then [c]
  else if c.toNat < 0x10000 then unitEscape c.toNat
  else
    let n := c.toNat - 0x10000
    unitEscape (0xD800 + n / 0x400) ++ unitEscape (0xDC00 + n % 0x400)

def stringChars (s : String) : List Char := '"' :: (s.toList.flatMap escapeChar ++ ['"'])

/-- A binary64 number; the infinities and NaN are words. -/
def floatChars : Binary64 → List Char
  | .nan => "NaN".toList
  | .infinite true => "-Infinity".toList
  | .infinite false => "Infinity".toList
  | x => x.text.toList

/-- The text of a value that is neither a list nor a map. -/
def scalarChars : Value → List Char
  | .null => "null".toList
  | .bool true => "true".toList
  | .bool false => "false".toList
  | .int n => Value.intChars n
  | .float x => floatChars x
  | .str s => stringChars s
  | .list _ => "[]".toList
  | .map _ => ['\x7b', '\x7d']

mutual

/-- A value without white space. -/
def compact : Value → List Char
  | .list items => '[' :: (compactItems items ++ [']'])
  | .map entries => '\x7b' :: (compactEntries entries ++ ['\x7d'])
  | v => scalarChars v

def compactItems : List Value → List Char
  | [] => []
  | [v] => compact v
  | v :: rest => compact v ++ ',' :: compactItems rest

def compactEntries : List (String × Value) → List Char
  | [] => []
  | [(k, v)] => stringChars k ++ ':' :: compact v
  | (k, v) :: rest => stringChars k ++ ':' :: (compact v ++ ',' :: compactEntries rest)

end

/-- A new line at a level of the indented form. -/
def newline (depth : Nat) : List Char := '\n' :: List.replicate (2 * depth) ' '

mutual

/-- A value in the indented form, whose first line is already indented to its level. -/
def indented (depth : Nat) : Value → List Char
  | .list (v :: rest) =>
    '[' :: (indentedItems (depth + 1) (v :: rest) ++ newline depth ++ [']'])
  | .map (p :: rest) =>
    '\x7b' :: (indentedEntries (depth + 1) (p :: rest) ++ newline depth ++ ['\x7d'])
  | v => scalarChars v

def indentedItems (depth : Nat) : List Value → List Char
  | [] => []
  | [v] => newline depth ++ indented depth v
  | v :: rest => newline depth ++ indented depth v ++ ',' :: indentedItems depth rest

def indentedEntries (depth : Nat) : List (String × Value) → List Char
  | [] => []
  | [(k, v)] => newline depth ++ stringChars k ++ ':' :: ' ' :: indented depth v
  | (k, v) :: rest =>
    newline depth ++ stringChars k ++ ':' :: ' ' :: indented depth v ++
      ',' :: indentedEntries depth rest

end

/-- The indented text of a value. -/
def pretty (v : Value) : String := String.ofList (indented 0 v)

end MachineCloud.Json
