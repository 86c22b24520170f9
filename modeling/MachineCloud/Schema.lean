import MachineCloud.Text.Utf8
import MachineCloud.Value

/-!
# Schemas

What the fields of an object can get wrong, and the report of all violations in one text: the
field's path, then what is wrong with it and the value that was found there.
-/

namespace MachineCloud.Schema

inductive Flaw where
  | missing
  | notText
  | notBytes
  | empty
  | notObject (name : String)
deriving DecidableEq, Repr

namespace Flaw

def code : Flaw → String
  | .missing => "missing"
  | .notText => "string_type"
  | .notBytes => "bytes_type"
  | .empty => "string_too_short"
  | .notObject _ => "model_type"

def message : Flaw → String
  | .missing => "Field required"
  | .notText => "Input should be a valid string"
  | .notBytes => "Input should be a valid bytes"
  | .empty => "String should have at least 1 character"
  | .notObject name => s!"Input should be a valid dictionary or instance of {name}"

/-- The page that explains a flaw. -/
def page (f : Flaw) : String :=
  String.intercalate "/" ["https:/", "errors.pydantic.dev", "2.14", "v", f.code]

end Flaw

/-- A field with a flaw.  What is shown for a missing field is the object that lacks it. -/
structure Violation where
  path : List String
  flaw : Flaw
  shown : Value

namespace Violation

/-- A part of a path.  One with a point in it stands between grave accents. -/
def part (name : String) : String :=
  if name.toList.contains '.' then "\u0060" ++ name ++ "\u0060" else name

def field (v : Violation) : String := String.intercalate "." (v.path.map part)

/-- The longest start of a text whose UTF-8 form has at most `limit` bytes. -/
def takeBytes : Nat → List Char → List Char
  | _, [] => []
  | limit, c :: rest =>
    if c.utf8Size ≤ limit then c :: takeBytes (limit - c.utf8Size) rest else []

/-- A value's text, cut in the middle if its UTF-8 form has more than fifty bytes: the longest start
of at most twenty-five bytes and the longest end of at most twenty-four stay. -/
def excerpt (v : Value) : String :=
  let cs := v.quotedChars
  if (Utf8.encodeChars cs).length ≤ 50 then String.ofList cs
  else String.ofList
    (takeBytes 25 cs ++ ['.', '.', '.'] ++ (takeBytes 24 cs.reverse).reverse)

def report (v : Violation) : String :=
  s!"{v.field}\n  {v.flaw.message} [type={v.flaw.code}, input_value={excerpt v.shown}, " ++
    s!"input_type={v.shown.kind}]\n    For further information visit {v.flaw.page}"

/-- How many violations there are in an object of that name. -/
def headline (name : String) (vs : List Violation) : String :=
  let noun := if vs.length = 1 then "error" else "errors"
  s!"{vs.length} validation {noun} for {name}"

def reportAll (name : String) (vs : List Violation) : String :=
  String.intercalate "\n" (headline name vs :: vs.map report)

end Violation

end MachineCloud.Schema
