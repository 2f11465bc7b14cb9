import TaskScheduler.Duration
import TaskScheduler.Text.Numeral

/-
  The arguments of `serve`: how often the service reports that it is alive.
-/
namespace TaskScheduler.Command

/-- The time between two heartbeats if no argument gives one. -/
def defaultHeartbeat : Duration := .ofSeconds 30

/-- What is wrong with an argument of `serve`. -/
inductive ArgumentError where
  | unknown (argument : String)
  | missingValue
  | invalidValue (value : String)
deriving DecidableEq, Repr

/-- The option that gives the seconds between two heartbeats. -/
def heartbeatOption : String := "--heartbeat-secs"

/-- The error in words. -/
def ArgumentError.text : ArgumentError → String
  | unknown argument => "Unknown argument: " ++ argument
  | missingValue => "Missing value for " ++ heartbeatOption
  | invalidValue value => "Invalid " ++ heartbeatOption ++ " value: " ++ value

/-- Reads pairs of the option and a number of seconds; the last pair counts, and `current` does if
there is none. -/
def heartbeatFrom (current : Duration) : List String → Except ArgumentError Duration
  | [] => .ok current
  | [option] => if option = heartbeatOption then .error .missingValue else .error (.unknown option)
  | option :: value :: rest =>
    if option = heartbeatOption then
      match Text.Numeral.parseBelow? wordBound value with
      | some secs => heartbeatFrom (.ofSeconds (max secs 1)) rest
      | none => .error (.invalidValue value)
    else .error (.unknown option)

/-- Reads the arguments of `serve`. -/
def readHeartbeat (args : List String) : Except ArgumentError Duration :=
  heartbeatFrom defaultHeartbeat args

end TaskScheduler.Command
