import MachineCloud.Settings.Files

/-!
# Logging

Which handlers log to where, in which format and from which level on.
-/

namespace MachineCloud.Logging

inductive Level where
  | notSet
  | debug
  | info
  | warning
  | error
  | critical
deriving DecidableEq, Repr

namespace Level

def name : Level → String
  | .notSet => "NOTSET"
  | .debug => "DEBUG"
  | .info => "INFO"
  | .warning => "WARNING"
  | .error => "ERROR"
  | .critical => "CRITICAL"

/-- What a line looks like when nobody has chosen a format. -/
def unsetFormat : String := "%(levelname)s:%(name)s:%(message)s"

/-- The level of a name.  Two levels have two names; an unknown name means `info`.  The name of the
unset format is known, but a format is no level. -/
def ofName : String → Except ValueFault Level
  | "NOTSET" => .ok .notSet
  | "DEBUG" => .ok .debug
  | "WARNING" | "WARN" => .ok .warning
  | "ERROR" => .ok .error
  | "CRITICAL" | "FATAL" => .ok .critical
  | "BASIC_FORMAT" => .error (.notALevel unsetFormat)
  | _ => .ok .info

end Level

/-- A line that goes to the program's own log. -/
structure Notice where
  level : Level
  message : String
deriving DecidableEq, Repr

/-- What the environment says about logging. -/
structure Preferences where
  level : String := "INFO"
  file : Option String := none
  maxBytes : Int := 10485760
  backups : Int := 5

inductive Target where
  | stream
  | file (path : String) (maxBytes backups : Int)

structure Handler where
  target : Target
  level : Level
  format : String

/-- How logging is set up, and what is logged about that. -/
structure Setup where
  level : Level
  handlers : List Handler
  notices : List Notice

def plainFormat : String := "%(asctime)s - %(name)s - %(levelname)s - %(message)s"

/-- The format of a line with the place in the program that wrote it. -/
def detailedFormat : String :=
  "%(asctime)s - %(name)s - %(levelname)s - [%(filename)s:%(lineno)d] - %(message)s"

def dateFormat : String := "%Y-%m-%d %H:%M:%S"

/-- The level below which the libraries are silent. -/
def libraryLevel : Level := .warning

/-- Sets logging up.  A file named by the caller comes before the environment's; its handler knows
it by the shortest spelling. -/
def configure (p : Preferences) (verbose : Bool) (file? : Option String) :
    Except ValueFault Setup := do
  let level ← if verbose then .ok .debug else Level.ofName p.level
  let format := if verbose then detailedFormat else plainFormat
  let stream : Handler := ⟨.stream, .notSet, format⟩
  let done : Notice := ⟨.info, s!"Logging configured: level={level.name}"⟩
  match Text.nonEmpty? file? <|> Text.nonEmpty? p.file with
  | none => return ⟨level, [stream], [done]⟩
  | some path =>
    if Files.hasNull path then throw .nullCharacter
    return ⟨level, [stream, ⟨.file (Files.shortest path) p.maxBytes p.backups, level, format⟩],
      [⟨.info, s!"Logging to file: {path}"⟩, done]⟩

end MachineCloud.Logging
