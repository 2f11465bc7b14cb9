import TaskScheduler.Text.Blank

/-
  Where the log goes and in which form: formats, settings, and what can be wrong with them.

  Which events a filter lets pass, and which files can be opened, is up to the platform.
-/
namespace TaskScheduler

/-- The form of the lines of the log. -/
inductive LogFormat where
  | json
  | pretty
  | compact
deriving DecidableEq, Repr, Inhabited

/-- Why the log could not be set up. -/
inductive LogError where
  | invalidFilter (reason : String)
  | unknownFormat (name : String)
  | fileOpen (reason : String)
  | alreadyInitialized
  /-- Reading the filter ended in a panic. -/
  | panicked (reason : String)
deriving DecidableEq, Repr

/-- The error in words. -/
def LogError.text : LogError → String
  | invalidFilter reason => "Invalid log filter: " ++ reason
  | unknownFormat name => "Unknown log format: " ++ name
  | fileOpen reason => "Failed to open log file: " ++ reason
  | alreadyInitialized => "Subscriber already initialized"
  | panicked reason => reason

namespace LogFormat

/-- The name of a format as a constant. -/
def constantName : LogFormat → String
  | json => "Json"
  | pretty => "Pretty"
  | compact => "Compact"

/-- The name of a format in a setting: that of the constant in small letters. -/
def tag (f : LogFormat) : String := Text.toLowerAscii f.constantName

/-- Reads the name of a format; blanks around it and the case of ASCII letters do not matter. -/
def parse (s : String) : Except LogError LogFormat :=
  let name := Text.toLowerAscii (Text.trim s)
  if name = "json" then .ok json
  else if name = "pretty" then .ok pretty
  else if name = "compact" then .ok compact
  else .error (.unknownFormat name)

end LogFormat

/-- How the log is set up. -/
structure LogConfig where
  format : LogFormat
  /-- Which events are logged, as a list of directives. -/
  level : String
  /-- The file that the lines go to if they are in JSON; without one they go to standard output. -/
  file : Option String
deriving DecidableEq, Repr

/-- The log of a service that is left to itself. -/
def LogConfig.standard : LogConfig where
  format := .json
  level := "gg_scheduler=info"
  file := none

namespace Log

/-- How important an event is; the later, the less. -/
inductive Level where
  | error
  | warn
  | info
  | debug
  | trace
deriving DecidableEq, Repr, Inhabited

namespace Level

/-- The position of a level, from `1` for errors. -/
def rank : Level → Nat
  | error => 1
  | warn => 2
  | info => 3
  | debug => 4
  | trace => 5

/-- The level in capitals. -/
def text : Level → String
  | error => "ERROR"
  | warn => "WARN"
  | info => "INFO"
  | debug => "DEBUG"
  | trace => "TRACE"

end Level

/-- Which events are logged, by their target, their level and the names of their fields. -/
abbrev Filter := (target : String) → Level → (fields : List String) → Bool

/-- What the log rests on. -/
structure Platform where
  /-- Reads a filter. -/
  readFilter : String → Except LogError Filter
  /-- Opens a file for writing; where that is impossible, the answer is the reason. -/
  openFile : (path : String) → Except String Unit

end Log

end TaskScheduler
