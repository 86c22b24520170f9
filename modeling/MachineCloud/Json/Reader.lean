import MachineCloud.Number.Numeral
import MachineCloud.Text.Utf16
import MachineCloud.Value

/-!
# Reading JSON

A reader of JSON texts that says what is wrong and where.  It reads the characters that are left; a
failure carries the characters left at its place, from which `read` works out the line and column.
Beyond the standard it accepts the words `NaN`, `Infinity` and `-Infinity`.  A repeated key keeps its
first place and takes the last value.  Lists and maps may stand in each other only so deep.
-/

namespace MachineCloud.Json

inductive Problem where
  | value
  | property
  | colon
  | comma
  | unterminated
  | control
  | escape
  | unicodeEscape
  | extra
  | byteOrderMark
deriving DecidableEq, Repr

def Problem.message : Problem → String
  | .value => "Expecting value"
  | .property => "Expecting property name enclosed in double quotes"
  | .colon => "Expecting ':' delimiter"
  | .comma => "Expecting ',' delimiter"
  | .unterminated => "Unterminated string starting at"
  | .control => "Invalid control character at"
  | .escape => "Invalid \\escape"
  | .unicodeEscape => "Invalid \\uXXXX escape"
  | .extra => "Extra data"
  | .byteOrderMark => "Unexpected UTF-8 BOM (decode using utf-8-sig)"

/-- A place in a text.  Lines and columns count from one, characters from zero. -/
structure Position where
  line : Nat
  column : Nat
  offset : Nat
deriving DecidableEq, Repr

inductive Nesting where
  | list
  | map
deriving DecidableEq, Repr

def Nesting.name : Nesting → String
  | .list => "array"
  | .map => "object"

/-- How deep lists and maps may stand in each other. -/
def maxDepth : Nat := 985

/-- Why a text could not be read: it is not JSON, one of its integers is too long, or its lists and
maps stand in each other too deep. -/
inductive Fault where
  | malformed (what : Problem) (place : Position)
  | tooManyDigits (digits : Nat)
  | tooDeep (what : Nesting)
deriving DecidableEq, Repr

def Fault.message : Fault → String
  | .malformed what p =>
    s!"{what.message}: line {p.line} column {p.column} (char {p.offset})"
  | .tooManyDigits n =>
    s!"Exceeds the limit ({Numeral.maxDigits} digits) for integer string conversion: " ++
      s!"value has {n} digits; use sys.set_int_max_str_digits() to increase the limit"
  | .tooDeep what =>
    s!"maximum recursion depth exceeded while decoding a JSON {what.name} from a unicode string"

/-- How the reader stops: a problem with what is left of the text there, a long integer, or a list
or map too deep in others. -/
inductive Halt where
  | at (what : Problem) (left : List Char)
  | digits (count : Nat)
  | deep (what : Nesting)

/-- What a step of the reader gives: a result with what is left of the text. -/
abbrev Step (α : Type) := Except Halt (α × List Char)

/-- Whether a character may stand between tokens. -/
def isSpace (c : Char) : Bool := c = ' ' || c = '\t' || c = '\n' || c = '\r'

def skip (cs : List Char) : List Char := cs.dropWhile isSpace

/-! ## Strings -/

def hexValue? (c : Char) : Option Nat :=
  if '0' ≤ c ∧ c ≤ '9' then some (c.toNat - 48)
  else if 'a' ≤ c ∧ c ≤ 'f' then some (c.toNat - 87)
  else if 'A' ≤ c ∧ c ≤ 'F' then some (c.toNat - 55)
  else none

def hex4? (a b c d : Char) : Option Nat := do
  let w ← hexValue? a
  let x ← hexValue? b
  let y ← hexValue? c
  let z ← hexValue? d
  return ((w * 16 + x) * 16 + y) * 16 + z

/-- The character of a unit.  Half a surrogate pair on its own is no character, and a text here holds
characters only, so that U+FFFD takes its place.  A reader whose texts may hold such a half keeps it
instead, and it is left to the check of a field that must be a text to refuse it. -/
def unitChar (n : Nat) : Char :=
  if Utf16.isHighSurrogate n || Utf16.isLowSurrogate n then '\uFFFD' else Char.ofNat n

/-- The character that a one-letter escape stands for. -/
def escape? : Char → Option Char
  | '"' => some '"'
  | '\\' => some '\\'
  | '/' => some '/'
  | 'b' => some '\x08'
  | 'f' => some '\x0c'
  | 'n' => some '\n'
  | 'r' => some '\r'
  | 't' => some '\t'
  | _ => none

/-- The second half of a surrogate pair, if an escape with one is next and something follows it;
then also what is left.  An escape whose digits are wrong is a problem of its own. -/
def lowSurrogate? : List Char → Except Halt (Option (Nat × List Char))
  | '\\' :: 'u' :: a :: b :: c :: d :: e :: rest =>
    match hex4? a b c d with
    | none => .error (.at .unicodeEscape ('u' :: a :: b :: c :: d :: e :: rest))
    | some n => .ok (if Utf16.isLowSurrogate n then some (n, e :: rest) else none)
  | _ => .ok none

/-- The character after `\u`, and what is left.  Something must follow the four digits. -/
def unicodeEscape : List Char → Step Char
  | a :: b :: c :: d :: e :: rest =>
    match hex4? a b c d with
    | none => .error (.at .unicodeEscape ('u' :: a :: b :: c :: d :: e :: rest))
    | some n =>
      if Utf16.isHighSurrogate n then
        match lowSurrogate? (e :: rest) with
        | .error h => .error h
        | .ok (some (m, left)) => .ok (Utf16.joinSurrogates n m, left)
        | .ok none => .ok (unitChar n, e :: rest)
      else .ok (unitChar n, e :: rest)
  | cs => .error (.at .unicodeEscape ('u' :: cs))

theorem lowSurrogate?_length {cs : List Char} {m : Nat} {left : List Char}
    (h : lowSurrogate? cs = .ok (some (m, left))) : left.length < cs.length := by
  unfold lowSurrogate? at h
  split at h
  · split at h
    · cases h
    · split at h
      · cases h; simp only [List.length_cons]; omega
      · cases h
  · cases h

theorem unicodeEscape_length {cs : List Char} {c : Char} {left : List Char}
    (h : unicodeEscape cs = .ok (c, left)) : left.length < cs.length := by
  unfold unicodeEscape at h
  split at h
  · split at h
    · simp at h
    · split at h
      · split at h
        · simp at h
        · next hl =>
          simp only [Except.ok.injEq, Prod.mk.injEq] at h
          have := lowSurrogate?_length hl
          simp only [List.length_cons, ← h.2] at this ⊢
          omega
        · simp only [Except.ok.injEq, Prod.mk.injEq] at h
          simp only [List.length_cons, ← h.2]
          omega
      · simp only [Except.ok.injEq, Prod.mk.injEq] at h
        simp only [List.length_cons, ← h.2]
        omega
  · simp at h

/-- The rest of a string after its opening quote, the characters so far in reverse.  `start` is the
text from the opening quote on. -/
def string (start acc : List Char) (cs : List Char) : Step String :=
  match cs with
  | [] => .error (.at .unterminated start)
  | '"' :: rest => .ok (String.ofList acc.reverse, rest)
  | '\\' :: [] => .error (.at .unterminated start)
  | '\\' :: 'u' :: rest =>
    match _h : unicodeEscape rest with
    | .error problem => .error problem
    | .ok (c, left) => string start (c :: acc) left
  | '\\' :: c :: rest =>
    match escape? c with
    | some x => string start (x :: acc) rest
    | none => .error (.at .escape ('\\' :: c :: rest))
  | c :: rest =>
    if c < ' ' then .error (.at .control (c :: rest)) else string start (c :: acc) rest
termination_by cs.length
decreasing_by
  · have := unicodeEscape_length _h; simp only [List.length_cons]; omega
  · simp only [List.length_cons]; omega
  · simp only [List.length_cons]; omega

/-! ## Numbers -/

/-- The digits before the point: a zero, or digits that do not start with one. -/
def wholeDigits? : List Char → Option (List Char × List Char)
  | '0' :: rest => some (['0'], rest)
  | cs =>
    let digits := cs.takeWhile Char.isDigit
    if digits.isEmpty then none else some (digits, cs.dropWhile Char.isDigit)

/-- The digits after a point, if a point and a digit are next. -/
def fraction? : List Char → Option (List Char × List Char)
  | '.' :: rest =>
    let digits := rest.takeWhile Char.isDigit
    if digits.isEmpty then none else some (digits, rest.dropWhile Char.isDigit)
  | _ => none

/-- The exponent, if the letter, a sign or none, and a digit are next. -/
def exponent? : List Char → Option (Int × List Char)
  | c :: rest =>
    if c = 'e' ∨ c = 'E' then
      let (negative, tail) := Numeral.splitSign rest
      let digits := tail.takeWhile Char.isDigit
      let e := Binary64.signed negative (Nat.ofDigitChars 10 digits 0)
      if digits.isEmpty then none else some (e, tail.dropWhile Char.isDigit)
    else none
  | [] => none

def splitMinus : List Char → Bool × List Char
  | '-' :: rest => (true, rest)
  | cs => (false, cs)

/-- A number.  Without a fraction and an exponent it is an integer. -/
def number (cs : List Char) : Step Value :=
  let (negative, body) := splitMinus cs
  match wholeDigits? body with
  | none => .error (.at .value cs)
  | some (whole, rest) =>
    let (fraction, afterFraction) := match fraction? rest with
      | some (digits, left) => (digits, left)
      | none => ([], rest)
    match exponent? afterFraction with
    | some (e, left) => .ok (.float (Literal.value ⟨negative, whole, fraction, e⟩), left)
    | none =>
      if !fraction.isEmpty then
        .ok (.float (Literal.value ⟨negative, whole, fraction, 0⟩), afterFraction)
      else if Numeral.maxDigits < whole.length then .error (.digits whole.length)
      else .ok (.int (Binary64.signed negative (Nat.ofDigitChars 10 whole 0)), rest)

/-! ## Values -/

mutual

/-- A value, with the number of lists and maps that may still stand in each other.  A list or map
spends fuel on itself and on each of its items, and every one of these starts with a character of
its own, so that twice the number of characters and two more is enough. -/
def value : Nat → Nat → List Char → Step Value
  | 0, _, cs => .error (.at .value cs)
  | fuel + 1, depth, cs =>
    match cs with
    | '"' :: rest =>
      match string cs [] rest with
      | .error h => .error h
      | .ok (s, left) => .ok (.str s, left)
    | '\x7b' :: rest =>
      match depth with
      | 0 => .error (.deep .map)
      | depth + 1 =>
        match skip rest with
        | '\x7d' :: left => .ok (.map [], left)
        | left => members fuel depth [] left
    | '[' :: rest =>
      match depth with
      | 0 => .error (.deep .list)
      | depth + 1 =>
        match skip rest with
        | ']' :: left => .ok (.list [], left)
        | left => items fuel depth [] left
    | 'n' :: 'u' :: 'l' :: 'l' :: rest => .ok (.null, rest)
    | 't' :: 'r' :: 'u' :: 'e' :: rest => .ok (.bool true, rest)
    | 'f' :: 'a' :: 'l' :: 's' :: 'e' :: rest => .ok (.bool false, rest)
    | 'N' :: 'a' :: 'N' :: rest => .ok (.float .nan, rest)
    | 'I' :: 'n' :: 'f' :: 'i' :: 'n' :: 'i' :: 't' :: 'y' :: rest =>
      .ok (.float (.infinite false), rest)
    | '-' :: 'I' :: 'n' :: 'f' :: 'i' :: 'n' :: 'i' :: 't' :: 'y' :: rest =>
      .ok (.float (.infinite true), rest)
    | cs => number cs

/-- The items of a list from the first character of the next one on, those before it in reverse. -/
def items : Nat → Nat → List Value → List Char → Step Value
  | 0, _, _, cs => .error (.at .value cs)
  | fuel + 1, depth, acc, cs =>
    match value fuel depth cs with
    | .error h => .error h
    | .ok (v, left) =>
      match skip left with
      | ']' :: rest => .ok (.list (v :: acc).reverse, rest)
      | ',' :: rest => items fuel depth (v :: acc) (skip rest)
      | left => .error (.at .comma left)

/-- The members of a map from the first character of the next one on. -/
def members : Nat → Nat → Entries Value → List Char → Step Value
  | 0, _, _, cs => .error (.at .property cs)
  | fuel + 1, depth, acc, cs =>
    match cs with
    | '"' :: rest =>
      match string cs [] rest with
      | .error h => .error h
      | .ok (key, left) =>
        match skip left with
        | ':' :: rest =>
          match value fuel depth (skip rest) with
          | .error h => .error h
          | .ok (v, left) =>
            match skip left with
            | '\x7d' :: rest => .ok (.map (acc.put key v), rest)
            | ',' :: rest => members fuel depth (acc.put key v) (skip rest)
            | left => .error (.at .comma left)
        | left => .error (.at .colon left)
    | cs => .error (.at .property cs)

end

/-! ## Texts -/

/-- The place in a text before the characters that are left. -/
def position (text left : List Char) : Position :=
  let offset := text.length - left.length
  let before := text.take offset
  let lastLine := before.reverse.takeWhile (· ≠ '\n')
  ⟨before.count '\n' + 1, lastLine.length + 1, offset⟩

/-- A halt with its place in the text. -/
def Halt.fault (text : List Char) : Halt → Fault
  | .at what left => .malformed what (position text left)
  | .digits n => .tooManyDigits n
  | .deep what => .tooDeep what

/-- The value that a text holds. -/
def readChars (cs : List Char) : Except Fault Value :=
  match cs with
  | '\uFEFF' :: _ => .error (.malformed .byteOrderMark (position cs cs))
  | cs =>
    match value (2 * cs.length + 2) maxDepth (skip cs) with
    | .error h => .error (h.fault cs)
    | .ok (v, left) =>
      match skip left with
      | [] => .ok v
      | rest => .error (.malformed .extra (position cs rest))

def read (s : String) : Except Fault Value := readChars s.toList

end MachineCloud.Json
