import MachineCloud.Number.Binary64
import MachineCloud.Text.Blank
import MachineCloud.Text.Digit

/-!
# Numerals

Integers and binary64 numbers written in decimal.  Digits of any script count, single underscores may
stand between digits, and blanks around the numeral are ignored, the information separators
U+001C to U+001F excepted.
-/

namespace MachineCloud

/-- A decimal literal: its sign, the digits before and after the point, and the power of ten. -/
structure Literal where
  negative : Bool
  whole : List Char
  fraction : List Char
  exponent : Int

namespace Literal

def value (l : Literal) : Binary64 :=
  Binary64.ofDecimal l.negative (Nat.ofDigitChars 10 (l.whole ++ l.fraction) 0)
    (l.exponent - l.fraction.length)

end Literal

namespace Numeral

/-- The most digits an integer may have. -/
def maxDigits : Nat := 4300

/-- The blanks that may surround a numeral. -/
def isPadding (c : Char) : Bool := Text.isBlank c && !(0x1C ≤ c.toNat && c.toNat ≤ 0x1F)

/-- A digit of any script as an ASCII digit; any other character as it is. -/
def asciiDigit (c : Char) : Char :=
  match Text.digitValue? c with
  | some n => Nat.digitChar n
  | none => c

/-- The numeral without the blanks around it and in ASCII digits. -/
def plain (cs : List Char) : List Char :=
  (Text.dropEndWhile isPadding (cs.dropWhile isPadding)).map asciiDigit

/-- The numeral without underscores, if each of them stands between two digits.  The first argument
says whether a digit came before. -/
def joinDigits? : Bool → List Char → Option (List Char)
  | _, [] => some []
  | afterDigit, '_' :: rest =>
    match rest with
    | d :: _ => if afterDigit && d.isDigit then joinDigits? false rest else none
    | [] => none
  | _, c :: rest => (joinDigits? c.isDigit rest).map (c :: ·)

/-- Cuts a sign off; the first part says whether it was a minus. -/
def splitSign : List Char → Bool × List Char
  | '-' :: rest => (true, rest)
  | '+' :: rest => (false, rest)
  | cs => (false, cs)

/-- The integer that a text stands for. -/
def readInt? (s : String) : Option Int := do
  let cs ← joinDigits? false (plain s.toList)
  let (negative, digits) := splitSign cs
  if digits.isEmpty || !digits.all Char.isDigit || maxDigits < digits.length then none
  else some (Binary64.signed negative (Nat.ofDigitChars 10 digits 0))

/-- The exponent at the end of a literal, zero if nothing is left. -/
def readExponent? : List Char → Option Int
  | [] => some 0
  | e :: rest =>
    if e = 'e' ∨ e = 'E' then
      let (negative, digits) := splitSign rest
      if digits.isEmpty || !digits.all Char.isDigit then none
      else some (Binary64.signed negative (Nat.ofDigitChars 10 digits 0))
    else none

/-- The literal with its digits before the point, after it, and its exponent.  At least one digit
must be there. -/
def readLiteral? (negative : Bool) (cs : List Char) : Option Literal :=
  let whole := cs.takeWhile Char.isDigit
  let rest := cs.dropWhile Char.isDigit
  let (fraction, rest) := match rest with
    | '.' :: tail => (tail.takeWhile Char.isDigit, tail.dropWhile Char.isDigit)
    | _ => ([], rest)
  if whole.isEmpty && fraction.isEmpty then none
  else (readExponent? rest).map fun e => ⟨negative, whole, fraction, e⟩

/-- The binary64 number that a text stands for.  The words for infinity and NaN are read in any
case. -/
def readFloat? (s : String) : Option Binary64 := do
  let cs ← joinDigits? false (plain s.toList)
  let (negative, body) := splitSign cs
  let word := String.ofList (body.map Char.toLower)
  if word = "inf" || word = "infinity" then some (.infinite negative)
  else if word = "nan" then some .nan
  else (readLiteral? negative body).map Literal.value

end Numeral

end MachineCloud
