import MachineCloud.Text.Base64
import MachineCloud.Text.Blank

/-!
# PEM

Blocks of base64 between a line that begins them and a line that ends them, both with the block's
label.  Headers may stand before the base64, set off by an empty line.  Whatever stands around the
blocks is ignored, and so is a block without an end.
-/

namespace MachineCloud.Pem

abbrev Header := String × String

structure Block where
  label : String
  headers : List Header
  contents : Bytes
deriving DecidableEq, Repr

/-- The text before `mark`, and the text after it, where `left` is what is still to come of the mark
and `kept` holds the characters read so far, newest first.  A character that breaks a partial match
is not looked at again as the start of another one. -/
def scan? (mark : List Char) :
    List Char → List Char → List Char → Option (List Char × List Char)
  | [], kept, rest => some ((kept.drop mark.length).reverse, rest)
  | _ :: _, _, [] => none
  | m :: left, kept, c :: rest => scan? mark (if m = c then left else mark) (c :: kept) rest

/-- The text before the first occurrence of `mark` that the scan sees, and the text after it. -/
def splitAt? (mark : String) (cs : List Char) : Option (List Char × List Char) :=
  scan? mark.toList mark.toList [] cs

/-- The text without spaces, tabs and line ends at its start. -/
def skipBlanks (cs : List Char) : List Char :=
  cs.dropWhile fun c => c == ' ' || c == '\t' || c == '\n' || c == '\r'

/-- The headers and the base64 of a body: an empty line is between them. -/
def splitBody (body : List Char) : List Char × List Char :=
  match splitAt? "\n\n" body with
  | some parts => parts
  | none => (splitAt? "\r\n\r\n" body).getD ([], body)

/-- The lines of a text.  The last one may lack its end. -/
def lines (cs : List Char) : List (List Char) :=
  cs.foldr (fun c ls => match c, ls with
    | '\n', _ => [] :: ls
    | _, [] => [[c]]
    | _, l :: ls => (c :: l) :: ls) []

def trim (cs : List Char) : String :=
  String.ofList (Text.dropEndWhile Text.isWhiteSpace (cs.dropWhile Text.isWhiteSpace))

/-- The header on a line, which has a colon after the name. -/
def header? (line : List Char) : Option Header :=
  match line.span (· ≠ ':') with
  | (name, _ :: value) => some (trim name, trim value)
  | _ => none

def block? (label body : List Char) : Option Block := do
  let (front, data) := splitBody body
  let contents ← Base64.decodeStrict? (data.filter fun c => !Text.isWhiteSpace c)
  let headers ← (lines front).mapM header?
  return ⟨String.ofList label, headers, contents⟩

/-- The labels at the beginning and at the end of the first block, its body, and what comes after
it. -/
def cut? (cs : List Char) : Option (List Char × List Char × List Char × List Char) := do
  let (_, rest) ← splitAt? "-----BEGIN " cs
  let (label, rest) ← splitAt? "-----" rest
  let (body, rest) ← splitAt? "-----END " (skipBlanks rest)
  let (endLabel, rest) ← splitAt? "-----" rest
  return (label, body, endLabel, rest)

/-- The blocks of a text.  The fuel counts the blocks that may still come.  A block without a label,
one whose two labels differ, or one that cannot be read makes the text unusable. -/
def blocks? : Nat → List Char → Option (List Block)
  | 0, _ => some []
  | fuel + 1, cs =>
    match cut? cs with
    | none => some []
    | some (label, body, endLabel, rest) => do
      if label.isEmpty || label ≠ endLabel then none
      let block ← block? label body
      let others ← blocks? fuel rest
      return block :: others

def read? (text : String) : Option (List Block) := blocks? (text.length + 1) text.toList

end MachineCloud.Pem
