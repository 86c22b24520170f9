import MachineCloud.Settings
import MachineCloud.Settings.Logging

/-!
# Environment files

A file of `KEY=value` lines that are put into the environment over what is there.  Values may be bare
or quoted, lines may start with `export`, `#` starts a comment, and `${NAME}` in a value
stands for a variable.  A line that fits none of this is left out.
-/

namespace MachineCloud.EnvFile

def isLineEnd (c : Char) : Bool := c = '\n' || c = '\r'

/-- Whether a character is blank but does not end a line. -/
def isInnerBlank (c : Char) : Bool := Text.isBlank c && !isLineEnd c

/-- What is left after the blanks on the line. -/
def skipInner (cs : List Char) : List Char := cs.dropWhile isInnerBlank

/-- What is left of the text after the current line. -/
def skipLine (cs : List Char) : List Char :=
  match cs.dropWhile fun c => !isLineEnd c with
  | '\r' :: '\n' :: rest => rest
  | _ :: rest => rest
  | [] => []

/-- What is left after the word `export` and blanks, if the word and a blank are there. -/
def skipExport (cs : List Char) : List Char :=
  match cs with
  | 'e' :: 'x' :: 'p' :: 'o' :: 'r' :: 't' :: c :: rest =>
    if isInnerBlank c then skipInner rest else cs
  | _ => cs

/-- The text up to a quote, and what is left after the quote.  A backslash goes together with the
character after it, so that a quote after it does not end the text. -/
def quotedPart? (q : Char) : List Char → Option (List Char × List Char)
  | [] => none
  | ['\\'] => none
  | '\\' :: c :: rest => (quotedPart? q rest).map fun r => ('\\' :: c :: r.1, r.2)
  | c :: rest =>
    if c = q then some ([], rest) else (quotedPart? q rest).map fun r => (c :: r.1, r.2)

/-- What a character after a backslash stands for: between single quotes only a backslash or a
single quote stands for itself, between double quotes there are double and control characters
too. -/
def escaped? (q c : Char) : Option Char :=
  if c = '\\' ∨ c = '\'' then some c
  else if q = '\'' then none
  else match c with
    | '"' => some '"'
    | 'a' => some '\x07'
    | 'b' => some '\x08'
    | 'f' => some '\x0c'
    | 'n' => some '\n'
    | 'r' => some '\r'
    | 't' => some '\t'
    | 'v' => some '\x0b'
    | _ => none

/-- A text with the escapes of a quoted value replaced.  A backslash before anything else stays. -/
def unescape (q : Char) : List Char → List Char
  | [] => []
  | '\\' :: c :: rest =>
    match escaped? q c with
    | some e => e :: unescape q rest
    | none => '\\' :: unescape q (c :: rest)
  | c :: rest => c :: unescape q rest

/-- A bare value without its comment: one starts at a `#` after a blank. -/
def dropComment : List Char → List Char
  | [] => []
  | c :: rest =>
    if Text.isBlank c && (rest.dropWhile Text.isBlank).head? = some '#' then []
    else c :: dropComment rest

/-- The key at the start of a line, if there is one, and what is left after it.  A comment has no
key. -/
def readKey? : List Char → Option (Option (List Char) × List Char)
  | '#' :: rest => some (none, '#' :: rest)
  | '\'' :: rest =>
    let key := rest.takeWhile (· ≠ '\'')
    match rest.dropWhile (· ≠ '\'') with
    | _ :: left => if key.isEmpty then none else some (some key, left)
    | [] => none
  | cs =>
    let stops (c : Char) : Bool := c = '=' || c = '#' || Text.isBlank c
    let key := cs.takeWhile fun c => !stops c
    if key.isEmpty then none else some (some key, cs.dropWhile fun c => !stops c)

/-- The value after the equal sign and what is left after it.  A bare value ends with the line, and
the blanks around it do not belong to it. -/
def readValue? (cs : List Char) : Option (List Char × List Char) :=
  match skipInner cs with
  | '\'' :: rest => (quotedPart? '\'' rest).map fun r => (unescape '\'' r.1, r.2)
  | '"' :: rest => (quotedPart? '"' rest).map fun r => (unescape '"' r.1, r.2)
  | _ =>
    let bare := dropComment (cs.takeWhile fun c => !isLineEnd c)
    some (Text.dropEndWhile Text.isBlank (skipInner bare), cs.dropWhile fun c => !isLineEnd c)

/-- What is left after a comment and the end of the line, if nothing else is on it. -/
def finishLine? (cs : List Char) : Option (List Char) :=
  match skipInner cs with
  | [] => some []
  | '#' :: rest => some (skipLine rest)
  | c :: rest => if isLineEnd c then some (skipLine (c :: rest)) else none

/-- A line of the file: its key and value, where it has them, or the place where it stops making
sense. -/
def readLine (cs : List Char) : Except (List Char) (Option (String × Option String) × List Char) :=
  let cs := skipExport cs
  match readKey? cs with
  | none => .error cs
  | some (key?, rest) =>
    let rest := skipInner rest
    let value : Option (Option (List Char) × List Char) := match rest with
      | '=' :: tail => (readValue? tail).map fun r => (some r.1, r.2)
      | _ => some (none, rest)
    match value with
    | none => .error (match rest with | '=' :: tail => skipInner tail | _ => rest)
    | some (value?, rest) =>
      match finishLine? rest with
      | none => .error rest
      | some left =>
        .ok (key?.map fun k => (String.ofList k, value?.map String.ofList), left)

/-- The keys and values of a file in order.  The fuel counts the lines that may still come. -/
def bindings : Nat → List Char → List (String × Option String)
  | 0, _ => []
  | fuel + 1, cs =>
    match cs.dropWhile Text.isBlank with
    | [] => []
    | cs => match readLine cs with
      | .ok (some b, rest) => b :: bindings fuel rest
      | .ok (none, rest) => bindings fuel rest
      | .error rest => bindings fuel (skipLine rest)

/-- What a file gives to its keys so far.  A key without a value counts as known, with nothing. -/
abbrev Given := Entries (Option String)

/-- The value of a variable: what the file gives to it, or else what the environment does. -/
def valueOf? (environment : Entries String) (given : Given) (name : String) : Option String :=
  match given.get? name with
  | some value? => some (value?.getD "")
  | none => environment.get? name

/-- A value with its variables replaced: those that are not known by their default, or nothing.  The
fuel counts the characters that may still come. -/
def expand (valueOf? : String → Option String) (fuel : Nat) (cs : List Char) : List Char :=
  match fuel, cs with
  | fuel + 1, '$' :: '\x7b' :: rest =>
    let name := rest.takeWhile fun c => c ≠ '\x7d' ∧ c ≠ ':'
    let value (default : List Char) : List Char :=
      match valueOf? (String.ofList name) with
      | some s => s.toList
      | none => default
    match rest.dropWhile fun c => c ≠ '\x7d' ∧ c ≠ ':' with
    | '\x7d' :: left => value [] ++ expand valueOf? fuel left
    | ':' :: '-' :: tail =>
      match tail.dropWhile (· ≠ '\x7d') with
      | _ :: left => value (tail.takeWhile (· ≠ '\x7d')) ++ expand valueOf? fuel left
      | [] => '$' :: expand valueOf? fuel ('\x7b' :: rest)
    | _ => '$' :: expand valueOf? fuel ('\x7b' :: rest)
  | fuel + 1, c :: rest => c :: expand valueOf? fuel rest
  | _, cs => cs

/-- Adds a key and its value, which may use the keys before it. -/
def Given.add (environment : Entries String) (given : Given)
    (binding : String × Option String) : Given :=
  given.put binding.1 (binding.2.map fun value =>
    String.ofList (expand (valueOf? environment given) (value.length + 1) value.toList))

/-- What a file's text gives to its keys. -/
def givenBy (environment : Entries String) (text : String) : Given :=
  (bindings (text.length + 1) text.toList).foldl (Given.add environment) []

/-- Sets a variable.  No name may have an equal sign in it, and nothing may have the character that
ends a text for the system. -/
def setVariable (environment : Entries String) (name value : String) :
    Except ValueFault (Entries String) :=
  if Files.hasNull name || Files.hasNull value then .error .nullCharacter
  else if name.toList.contains '=' then .error .variableName
  else .ok (environment.put name value)

/-- Sets a key's variable if the key has a value. -/
def setGiven (environment : Entries String) (b : String × Option String) :
    Except ValueFault (Entries String) :=
  match b.2 with
  | some value => setVariable environment b.1 value
  | none => .ok environment

/-- The environment after a file's text: every key that ends up with a value is put over what is
there. -/
def apply (environment : Entries String) (text : String) : Except ValueFault (Entries String) :=
  (givenBy environment text).foldlM setGiven environment

/-- The variable that turns environment files off. -/
def offVariable : String := "PYTHON_DOTENV_DISABLED"

/-- A character for a comparison in which case does not matter: the small letter for an ASCII
letter, and for the long s, which has no capital of its own. -/
def foldCase (c : Char) : Char := if c = 'ſ' then 's' else c.toLower

def isOff (environment : Entries String) : Bool :=
  match environment.get? offVariable with
  | some value => value.map foldCase ∈ ["1", "true", "t", "yes", "y"]
  | none => false

/-- The environment after the file at a path.  Only a file has anything to give. -/
def applyAt (files environment : Entries String) (name : String) :
    Except ValueFault (Entries String) :=
  match Files.read files name with
  | .ok text => if isOff environment then .ok environment else apply environment text
  | .error _ => .ok environment

/-- Whether there is anything at a path.  It cannot be said of a path that is too long. -/
def exists? (files : Entries String) (name : String) : Except Fault Bool :=
  if Files.hasNull name then .ok false
  else match Files.place files name with
    | .ok _ => .ok true
    | .error .nameTooLong => .error (.file .nameTooLong (Files.normalise name))
    | .error _ => .ok false

/-- Loads an environment file if one is named: the environment after it, and what is logged. -/
def load (files environment : Entries String) (name? : Option String) :
    Except Fault (Entries String × List Logging.Notice) :=
  match Text.nonEmpty? name? with
  | none => .ok (environment, [])
  | some name => do
    if ← exists? files name then
      match applyAt files environment name with
      | .ok environment =>
        return (environment, [⟨.info, s!"Loaded environment from: {name}"⟩])
      | .error fault => throw (.value fault)
    else return (environment, [⟨.warning, s!"Environment file not found: {name}"⟩])

end MachineCloud.EnvFile
