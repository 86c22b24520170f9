import MachineCloud.Failure

/-!
# Text files

Files by name below a working directory, and what a path leads to.  A path is followed part by part:
each part but the last has to lead to a directory.  The working directory holds the given files and
the directories on the way to them; of what is around it only the directories at the root and the
null device are known.  Reading turns every line end into a line feed.
-/

namespace MachineCloud.Files

/-- The name of a file or directory in its directory. -/
abbrev Part := List Char

/-- The parts of a path between slashes. -/
def split : List Char → List Part
  | [] => [[]]
  | c :: rest =>
    if c = '/' then [] :: split rest
    else match split rest with
      | [] => [[c]]
      | p :: ps => (c :: p) :: ps

/-- The parts of a path that lead anywhere: not the empty ones and not a single dot. -/
def parts (name : String) : List Part :=
  (split name.toList).filter fun p => p ≠ [] ∧ p ≠ ['.']

/-- What a path starts with: nothing, or a slash where it starts at the root.  Exactly two slashes
stay two. -/
def start (name : String) : List Char :=
  match name.toList.takeWhile (· = '/') with
  | [] => []
  | ['/', '/'] => ['/', '/']
  | _ => ['/']

/-- The path with the given start and parts. -/
def join (start : List Char) (ps : List Part) : String :=
  match start ++ List.intercalate ['/'] ps with
  | [] => "."
  | cs => String.ofList cs

/-- The usual spelling of a path: without empty parts and parts that are a single dot. -/
def normalise (name : String) : String := join (start name) (parts name)

/-- Takes a way up together with the part before it, the parts so far in reverse.  At the root there
is no way up. -/
def collapseOnto (atRoot : Bool) (before : List Part) (p : Part) : List Part :=
  if p = ['.', '.'] then
    match before with
    | [] => if atRoot then [] else [p]
    | q :: rest => if q = ['.', '.'] then p :: before else rest
  else p :: before

/-- The shortest spelling of a path, by its text alone. -/
def shortest (name : String) : String :=
  join (start name) ((parts name).foldl (collapseOnto !(start name).isEmpty) []).reverse

/-- Where a path leads on its way: a directory below the working one, given by its parts; one above
it; one at or below the root, given by its parts; or a file. -/
inductive Place where
  | inside (ps : List Part)
  | above
  | root (ps : List Part)
  | file (text : String)
deriving DecidableEq, Repr

def maxPartBytes : Nat := 255

def maxPathBytes : Nat := 4095

def byteCount (cs : List Char) : Nat := (String.ofList cs).utf8ByteSize

/-- The directories at the root. -/
def rootDirectories : List String := ["bin", "boot", "dev", "etc", "home", "lib", "media", "mnt",
  "opt", "proc", "root", "run", "sbin", "srv", "sys", "tmp", "usr", "var"]

/-- Where the parts of a path from the root lead: to the root, a directory at it, or the null
device, which is an empty file. -/
def atRoot? (ps : List Part) : Option Place :=
  match ps.map String.ofList with
  | [] => some (.root ps)
  | [name] => if name ∈ rootDirectories then some (.root ps) else none
  | ["dev", "null"] => some (.file "")
  | _ => none

/-- Where parts from the working directory lead: to a file, or to a directory on the way to one. -/
def atWork? (files : Entries String) (ps : List Part) : Option Place :=
  let known := files.map fun f => (parts f.1, f.2)
  match known.find? fun f => f.1 = ps with
  | some f => some (.file f.2)
  | none =>
    if ps = [] || known.any (fun f => ps.isPrefixOf f.1) then some (.inside ps) else none

/-- Where a name leads from a place. -/
def named? (files : Entries String) (place : Place) (name : Part) : Option Place :=
  match place with
  | .inside ps => atWork? files (ps ++ [name])
  | .root ps => atRoot? (ps ++ [name])
  | .above | .file _ => none

/-- Where the way up leads from a place. -/
def Place.up : Place → Place
  | .inside [] => .above
  | .inside ps => .inside ps.dropLast
  | .root ps => .root ps.dropLast
  | place => place

/-- Where the next part of a path leads. -/
def step (files : Entries String) (place : Place) (part : Part) : Except FileProblem Place :=
  match place with
  | .file _ => .error .notDirectory
  | place =>
    if part = ['.', '.'] then .ok place.up
    else if maxPartBytes < byteCount part then .error .nameTooLong
    else match named? files place part with
      | some next => .ok next
      | none => .error .missing

def place (files : Entries String) (name : String) : Except FileProblem Place :=
  if maxPathBytes < (normalise name).utf8ByteSize then .error .nameTooLong
  else (parts name).foldlM (step files) (if (start name).isEmpty then .inside [] else .root [])

/-- A text with every line end a line feed. -/
def unifyLines : List Char → List Char
  | [] => []
  | '\r' :: '\n' :: rest => '\n' :: unifyLines rest
  | '\r' :: rest => '\n' :: unifyLines rest
  | c :: rest => c :: unifyLines rest

/-- Whether a text holds the character that ends a path for the system. -/
def hasNull (s : String) : Bool := s.toList.contains '\x00'

/-- The text of the file that a path leads to. -/
def read (files : Entries String) (name : String) : Except Fault String :=
  if hasNull name then .error (.value .nullCharacter)
  else match place files name with
    | .ok (.file text) => .ok (String.ofList (unifyLines text.toList))
    | .ok _ => .error (.file .isDirectory (normalise name))
    | .error problem => .error (.file problem (normalise name))

end MachineCloud.Files
