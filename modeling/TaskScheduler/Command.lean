import TaskScheduler.Command.Heartbeat
import TaskScheduler.Config.Summary
import TaskScheduler.Json.Printer
import TaskScheduler.Log.Setup

/-
  The command line: which command the arguments ask for, and what it prints.
-/
namespace TaskScheduler.Command

/-- The version of the program. -/
def version : String := "0.1.0"

/-- How the program is used. -/
def usage : String := "\n".intercalate [
  "gg-scheduler-cli - delayed and periodic task scheduler v" ++ version,
  "",
  "USAGE:",
  "    gg-scheduler-cli [COMMAND] [OPTIONS]",
  "",
  "COMMANDS:",
  "    serve        Run a scheduler until Ctrl-C, then drain (default)",
  "    config       Print configuration (show, defaults) as JSON",
  "    version      Show version information",
  "    help         Show this help message",
  "",
  "SERVE OPTIONS:",
  "    --heartbeat-secs N   Seconds between heartbeat log lines (default: 30)",
  "",
  "ENVIRONMENT:",
  "    GG_SCHED_CORE_POOL_SIZE           Backend pool core size",
  "    GG_SCHED_KEEP_ALIVE_SECS          Idle seconds before an excess worker retires",
  "    GG_SCHED_THREAD_STACK_SIZE        Worker stack size in bytes (0 = default)",
  "    GG_SCHED_PUMP_IDLE_MS             Idle milliseconds before the dispatcher exits",
  "    GG_SCHED_TRANSFER_RETRIES         Failed pool hand-offs before a task is rejected",
  "    GG_SCHED_TRANSFER_BACKOFF_MS      First hand-off retry delay",
  "    GG_SCHED_RUN_DELAYED_ON_SHUTDOWN  Run (true) or cancel (false) delayed tasks on shutdown",
  "    GG_SCHED_SHUTDOWN_TIMEOUT         Seconds to wait for the drain",
  "    GG_SCHED_LOG_FORMAT               json, pretty or compact",
  "    GG_SCHED_LOG_LEVEL                Tracing filter directives",
  "",
  "EXIT CODES:",
  "    0  Success",
  "    1  Failure",
  "",
  ""]

/-- What a command leaves behind. -/
structure Reply where
  exit : Nat
  stdout : String := ""
  stderr : String := ""
deriving DecidableEq, Repr

/-- The machine that the program runs on. -/
structure Machine where
  processors : Nat
  /-- The files and the filters of its log. -/
  files : Log.Platform

/-- What the arguments ask for. -/
inductive Plan where
  /-- All that there is to do is done. -/
  | reply (reply : Reply)
  /-- Run a service until it is interrupted. -/
  | serve (settings : Settings) (filter : Log.Filter) (heartbeat : Duration)

/-- A refusal in words, with the usage below it. -/
def misuse (message : String) : Plan :=
  .reply { exit := 1, stderr := message ++ "\n" ++ usage }

/-- Prints a configuration. -/
def showConfig (settings : Settings) : Plan :=
  .reply { exit := 0, stdout := settings.summary.toJson.pretty ++ "\n" }

def planServe (machine : Machine) (args : List String) (env : Environment) : Plan :=
  match readHeartbeat args with
  | .error e => misuse e.text
  | .ok heartbeat =>
    let settings := Settings.load machine.processors env
    match Log.setup machine.files false settings.log with
    | .error (.panicked reason) => .reply { exit := 101, stderr := reason ++ "\n" }
    | .error e => .reply { exit := 1, stderr := "Logging setup failed: " ++ e.text ++ "\n" }
    | .ok filter => .serve settings filter heartbeat

def planConfig (machine : Machine) (args : List String) (env : Environment) : Plan :=
  match args.head?.getD "show" with
  | "show" => showConfig (.load machine.processors env)
  | "defaults" => showConfig (.standard machine.processors)
  | other => misuse ("Unknown config subcommand: " ++ other)

/-- What the arguments ask for, in an environment. -/
def plan (machine : Machine) (args : List String) (env : Environment) : Plan :=
  match args.head?.getD "serve" with
  | "serve" | "" => planServe machine args.tail env
  | "config" => planConfig machine args.tail env
  | "help" | "--help" | "-h" => .reply { exit := 0, stderr := usage }
  | "version" | "--version" | "-V" =>
    .reply { exit := 0, stdout := "gg-scheduler " ++ version ++ "\n" }
  | other => misuse ("Unknown command: " ++ other)

end TaskScheduler.Command
