import MachineCloud.Text.Printable

/-!
# Quoted text

A string between quotes as messages show it.  Single quotes are used unless the text has a single
quote and no double one.  The backslash and the quote in use are escaped, tab, line feed and return
have short escapes, and any other character that is not printable is written in hexadecimal, with
two, four or eight digits.
-/

namespace MachineCloud.Text

def hexDigit (n : Nat) : Char :=
  if n < 10 then Char.ofNat ('0'.toNat + n) else Char.ofNat ('a'.toNat + (n - 10))

/-- The last `width` hexadecimal digits of a number. -/
def hexChars : Nat → Nat → List Char
  | 0, _ => []
  | width + 1, n => hexChars width (n / 16) ++ [hexDigit (n % 16)]

def hexEscape (c : Char) : List Char :=
  let n := c.toNat
  if n < 0x100 then '\\' :: 'x' :: hexChars 2 n
  else if n < 0x10000 then '\\' :: 'u' :: hexChars 4 n
  else '\\' :: 'U' :: hexChars 8 n

/-- A character inside the quotes `q`. -/
def quoteChar (q c : Char) : List Char :=
  if c = q ∨ c = '\\' then ['\\', c]
  else if c = '\t' then ['\\', 't']
  else if c = '\n' then ['\\', 'n']
  else if c = '\r' then ['\\', 'r']
  else if ' ' ≤ c ∧ c < '\x7f' then [c]
  else if isPrintable c then [c]
  else hexEscape c

/-- The quote used for a text. -/
def quoteFor (cs : List Char) : Char := if '\'' ∈ cs ∧ '"' ∉ cs then '"' else '\''

def quoteChars (cs : List Char) : List Char :=
  let q := quoteFor cs
  q :: (cs.flatMap (quoteChar q) ++ [q])

def quote (s : String) : String := String.ofList (quoteChars s.toList)

end MachineCloud.Text
