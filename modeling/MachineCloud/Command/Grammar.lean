import MachineCloud.Text.Digit
import MachineCloud.Value

/-!
# Command line grammar

Switches and one slot for other arguments, and the reading of an argument list by them.  A long
switch may be shortened while only one fits, a value may follow after an equal sign or directly
after a one-letter switch, one-letter switches may stand together, and after `--` nothing is a
switch.  All arguments are first told apart into switches and others, and only then consumed from
left to right.
-/

namespace MachineCloud.Command

/-- What a switch takes. -/
inductive Arity where
  | none
  | one
  | help
deriving DecidableEq, Repr

/-- A switch.  Its first name is the one before any other. -/
structure Switch where
  names : List String
  key : String
  arity : Arity := .one
  choices : List String := []
  required : Bool := false

namespace Switch

def title (s : Switch) : String := String.intercalate "/" s.names

end Switch

/-- The slot for arguments that are no switches: one that must be there, one that may be missing, or
one with everything after it. -/
inductive Slot where
  | one (key : String)
  | optional (key : String)
  | rest (key : String)

namespace Slot

def key : Slot → String
  | .one k => k
  | .optional k => k
  | .rest k => k

def isRequired : Slot → Bool
  | .optional _ => false
  | _ => true

end Slot

structure Grammar where
  program : String
  switches : List Switch
  slot : Option Slot := none

inductive UsageFault where
  | ambiguous (given : String) (candidates : List String)
  | valueMissing (title : String)
  | valueUnwanted (title value : String)
  | notAChoice (title value : String) (choices : List String)
  | required (titles : List String)
  | unrecognized (arguments : List String)

namespace UsageFault

def message : UsageFault → String
  | .ambiguous given candidates =>
    s!"ambiguous option: {given} could match " ++ String.intercalate ", " candidates
  | .valueMissing title => s!"argument {title}: expected one argument"
  | .valueUnwanted title value =>
    s!"argument {title}: ignored explicit argument {Text.quote value}"
  | .notAChoice title value choices =>
    s!"argument {title}: invalid choice: {Text.quote value} (choose from " ++
      String.intercalate ", " (choices.map Text.quote) ++ ")"
  | .required titles =>
    "the following arguments are required: " ++ String.intercalate ", " titles
  | .unrecognized arguments => "unrecognized arguments: " ++ String.intercalate " " arguments

end UsageFault

/-- Why no arguments come out: help was asked for, or the list is wrong. -/
inductive Stop where
  | help
  | usage (program : String) (fault : UsageFault)

/-- The line that tells what is wrong, with the name of the program that says so. -/
def Stop.line (program : String) (fault : UsageFault) : String :=
  s!"{program}: error: {fault.message}"

/-- What an argument list gives: the values under each key in order, and the arguments that fit
nothing.  A value is a text, or an empty list where two hyphens were given for it. -/
structure Found where
  values : Entries (List Value) := []
  extras : List String := []

namespace Found

def add (f : Found) (key : String) (value : Value) : Found :=
  { f with values := f.values.put key (((f.values.get? key).getD []) ++ [value]) }

def mark (f : Found) (key : String) : Found :=
  { f with values := f.values.put key ((f.values.get? key).getD []) }

def addExtras (f : Found) (arguments : List String) : Found :=
  { f with extras := f.extras ++ arguments }

def has (f : Found) (key : String) : Bool := (f.values.get? key).isSome

/-- The last value under a key, null if there is none. -/
def last (f : Found) (key : String) : Value :=
  ((f.values.get? key).bind List.getLast?).getD .null

/-- All values under a key, null if the key is not there. -/
def all (f : Found) (key : String) : Value := ((f.values.get? key).map .list).getD .null

end Found

/-- An argument told apart: the end of switches, a plain argument, or a switch by the name it was
recognised by, with the value that came with it; a switch that nothing is known about has none. -/
inductive Token where
  | dashes
  | plain (text : String)
  | unknown (text : String)
  | switch (s : Switch) (name : String) (value : Option String)

namespace Token

/-- The argument as it was written.  A recognised switch is not asked for its text. -/
def text : Token → String
  | .dashes => "--"
  | .plain s => s
  | .unknown s => s
  | .switch _ name _ => name

def isSwitch : Token → Bool
  | .unknown _ => true
  | .switch .. => true
  | _ => false

end Token

namespace Grammar

/-- All names with their switches, in order. -/
def table (g : Grammar) : List (String × Switch) :=
  g.switches.flatMap fun s => s.names.map fun name => (name, s)

def lookup? (g : Grammar) (name : String) : Option Switch :=
  (g.table.find? fun entry => entry.1 = name).map (·.2)

/-- The text before the first equal sign, and the text after it if there is one. -/
def splitValue (cs : List Char) : List Char × Option (List Char) :=
  let name := cs.takeWhile (· ≠ '=')
  match cs.dropWhile (· ≠ '=') with
  | _ :: value => (name, some value)
  | [] => (name, none)

/-- Whether nothing is left of a text but perhaps a line feed. -/
def isEnd (cs : List Char) : Bool := cs = [] || cs = ['\n']

/-- Whether a text starts with digits that nothing follows. -/
def isDigits (cs : List Char) : Bool :=
  !(cs.takeWhile Text.isDigit).isEmpty && isEnd (cs.dropWhile Text.isDigit)

/-- Whether a text looks like a negative number: a hyphen and digits, or digits after a point. -/
def isNegativeNumber : List Char → Bool
  | '-' :: rest =>
    isDigits rest || (match rest.dropWhile Text.isDigit with
      | '.' :: fraction => isDigits fraction
      | _ => false)
  | _ => false

/-- The switches that a text with two hyphens may be short for, or that a text with one hyphen may
start with or be short for; each with the value in the text. -/
def candidates (g : Grammar) (text : String) : List (String × Switch × Option String) :=
  let cs := text.toList
  match cs with
  | '-' :: '-' :: _ =>
    let (name, value) := splitValue cs
    (g.table.filter fun entry => name.isPrefixOf entry.1.toList).map fun entry =>
      (entry.1, entry.2, value.map String.ofList)
  | _ =>
    g.table.filterMap fun entry =>
      if entry.1.toList = cs.take 2 then
        some (entry.1, entry.2, some (String.ofList (cs.drop 2)))
      else if cs.isPrefixOf entry.1.toList then some (entry.1, entry.2, none)
      else none

/-- Tells one argument apart. -/
def token (g : Grammar) (text : String) : Except UsageFault Token :=
  let cs := text.toList
  if cs.head? ≠ some '-' then .ok (.plain text)
  else match g.lookup? text with
    | some s => .ok (.switch s text none)
    | none =>
      if cs.length = 1 then .ok (.plain text)
      else
        let (name, value) := splitValue cs
        match g.lookup? (String.ofList name), value with
        | some s, some v => .ok (.switch s (String.ofList name) (some (String.ofList v)))
        | _, _ =>
          match g.candidates text with
          | [(name, s, v)] => .ok (.switch s name v)
          | _ :: _ :: _ => .error (.ambiguous text ((g.candidates text).map (·.1)))
          | [] =>
            if isNegativeNumber cs || cs.contains ' ' then .ok (.plain text)
            else .ok (.unknown text)

/-- Tells all arguments apart.  After two hyphens nothing is a switch. -/
def tokens (g : Grammar) : List String → Except UsageFault (List (Token × String))
  | [] => .ok []
  | "--" :: rest => .ok ((.dashes, "--") :: rest.map fun s => (.plain s, s))
  | s :: rest => do
    let t ← g.token s
    return (t, s) :: (← g.tokens rest)

/-- Takes a switch with its value.  Two hyphens give an empty value, which is no choice and need not
be one. -/
def take (s : Switch) (value : String) (f : Found) : Except UsageFault Found :=
  if value = "--" then .ok (f.add s.key (.list []))
  else if s.choices.isEmpty || s.choices.contains value then .ok (f.add s.key (.str value))
  else .error (.notAChoice s.title value s.choices)

def stopOf (g : Grammar) {α : Type} : Except UsageFault α → Except Stop α
  | .ok a => .ok a
  | .error fault => .error (.usage g.program fault)

/-- Switches that were written as one: those before the last, which take nothing, the last one, and
the value that came with it. -/
structure Cluster where
  before : List Switch := []
  last : Switch
  value : Option String := none

/-- The switches that letters after a switch stand for.  What follows a switch that takes a value is
its value. -/
def cluster (g : Grammar) (s : Switch) : List Char → Except UsageFault Cluster
  | [] => .ok { last := s }
  | c :: rest =>
    if s.arity = .one then .ok { last := s, value := some (String.ofList (c :: rest)) }
    else match g.lookup? (String.ofList ['-', c]) with
      | some next => (g.cluster next rest).map fun k => { k with before := s :: k.before }
      | none => .error (.valueUnwanted s.title (String.ofList (c :: rest)))

/-- The switches that a switch and the value that came with it stand for.  A value after a one-letter
switch that takes none is more letters. -/
def spread (g : Grammar) (s : Switch) (name : String) : Option String → Except UsageFault Cluster
  | none => .ok { last := s }
  | some value =>
    if s.arity = .one then .ok { last := s, value := some value }
    else if name.startsWith "--" || value = "" then .error (.valueUnwanted s.title value)
    else g.cluster s value.toList

/-- The value of the last switch of a cluster, and the arguments after it.  One that takes a value
and has none yet takes the next argument. -/
def valueOf (k : Cluster) (rest : List (Token × String)) :
    Except UsageFault (Option String × List (Token × String)) :=
  match k.last.arity, k.value, rest with
  | .one, none, (.plain value, _) :: rest => .ok (some value, rest)
  | .one, none, _ => .error (.valueMissing k.last.title)
  | _, value?, rest => .ok (value?, rest)

def act (g : Grammar) (s : Switch) (value? : Option String) (f : Found) : Except Stop Found :=
  match s.arity, value? with
  | .help, _ => .error .help
  | .one, some value => g.stopOf (take s value f)
  | _, _ => .ok (f.mark s.key)

/-- Takes the switches of a cluster one after the other. -/
def actAll (g : Grammar) (k : Cluster) (value? : Option String) (f : Found) :
    Except Stop Found := do
  let f ← k.before.foldlM (fun f s => g.act s none f) f
  g.act k.last value? f

/-- How many arguments the slot takes from the start of a list, none if the list does not fit.  Two
hyphens before or after an argument go with it. -/
def slotCount (slot : Slot) (ts : List (Token × String)) : Nat :=
  let isDashes : Token × String → Bool
    | (.dashes, _) => true
    | _ => false
  let isPlain : Token × String → Bool
    | (.plain _, _) => true
    | _ => false
  let before := (ts.takeWhile isDashes).length
  let after := ts.drop before
  match after with
  | t :: rest =>
    if isPlain t then
      match slot with
      | .rest _ => ts.length
      | _ => before + 1 + (rest.takeWhile isDashes).length
    else 0
  | [] =>
    match slot with
    | .optional _ => before
    | _ => 0

/-- Puts arguments into the slot.  Except where everything goes into it, two hyphens do not count. -/
def fill (slot : Slot) (arguments : List String) (f : Found) : Found :=
  match slot with
  | .rest key => arguments.foldl (fun f s => f.add key (.str s)) f
  | slot =>
    match arguments.erase "--" with
    | [] => f
    | s :: _ => f.add slot.key (.str s)

/-- Consumes the arguments from left to right.  `slot?` is the slot as long as it is empty.  The fuel
counts the arguments that may still come. -/
def consume (g : Grammar) : Nat → Option Slot → List (Token × String) → Found → Except Stop Found
  | 0, _, ts, f => .ok (f.addExtras (ts.map (·.2)))
  | _ + 1, _, [], f => .ok f
  | fuel + 1, slot?, (.unknown _, s) :: rest, f => g.consume fuel slot? rest (f.addExtras [s])
  | fuel + 1, slot?, (.switch s name value?, _) :: rest, f => do
    let k ← g.stopOf (g.spread s name value?)
    let (value?, rest) ← g.stopOf (valueOf k rest)
    let f ← g.actAll k value? f
    g.consume fuel slot? rest f
  | fuel + 1, slot?, t :: rest, f =>
    let ts := t :: rest
    let count := match slot? with
      | some slot => slotCount slot ts
      | none => 0
    match slot?, count with
    | some slot, n + 1 =>
      g.consume fuel none (ts.drop (n + 1)) (fill slot ((ts.take (n + 1)).map (·.2)) f)
    | _, _ =>
      let skipped := ts.takeWhile fun t => !t.1.isSwitch
      g.consume fuel slot? (ts.dropWhile fun t => !t.1.isSwitch)
        (f.addExtras (skipped.map (·.2)))

/-- What must be there and is not. -/
def missing (g : Grammar) (f : Found) : List String :=
  let slots := match g.slot with
    | some slot => if slot.isRequired && !f.has slot.key then [slot.key] else []
    | none => []
  slots ++ (g.switches.filter fun s => s.required && !f.has s.key).map Switch.title

def parse (g : Grammar) (arguments : List String) : Except Stop Found := do
  let ts ← g.stopOf (g.tokens arguments)
  let f ← g.consume (ts.length + 1) g.slot ts {}
  match g.missing f with
  | [] => return f
  | titles => throw (.usage g.program (.required titles))

end Grammar

end MachineCloud.Command
