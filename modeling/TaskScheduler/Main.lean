import TaskScheduler.Command.Serve

/-
  The program.
-/
namespace TaskScheduler.Command

/-- The variables that the program reads. -/
def settingNames : List String := [
  "GG_SCHED_CORE_POOL_SIZE", "GG_SCHED_KEEP_ALIVE_SECS", "GG_SCHED_THREAD_STACK_SIZE",
  "GG_SCHED_PUMP_IDLE_MS", "GG_SCHED_TRANSFER_RETRIES", "GG_SCHED_TRANSFER_BACKOFF_MS",
  "GG_SCHED_RUN_DELAYED_ON_SHUTDOWN", "GG_SCHED_SHUTDOWN_TIMEOUT", "GG_SCHED_LOG_FORMAT",
  "GG_SCHED_LOG_LEVEL"]

/-- The number of processors, as the system lists them. -/
def countProcessors : IO Nat := do
  try
    let text ← IO.FS.readFile "/proc/cpuinfo"
    return max 1 ((text.splitOn "\n").filter (·.startsWith "processor")).length
  catch _ => return 1

/-- Prints lines of the log. -/
def printLines (settings : Settings) (filter : Log.Filter) (lines : List LogLine) :
    IO Unit := do
  for line in lines do
    if line.passes filter then
      match settings.log.format with
      | .json => IO.println line.toJson.compact
      | _ => IO.println line.event.line

/-- Runs a service until the standard input ends. -/
def serve (settings : Settings) (filter : Log.Filter) (heartbeat : Duration) :
    IO UInt32 := do
  let session := Session.start settings heartbeat
  printLines settings filter session.lines
  let input ← IO.getStdin
  let _ ← input.readToEnd
  IO.eprint interruptedText
  let ended := session.interrupt
  printLines settings filter (ended.lines.drop session.lines.length)
  IO.eprint (finishedText ended)
  return 0

end TaskScheduler.Command

open TaskScheduler TaskScheduler.Command in
/-- Carries out what the arguments ask for. -/
def main (args : List String) : IO UInt32 := do
  let mut values : List (String × ByteArray) := []
  for name in settingNames do
    if let some value ← IO.getEnv name then
      values := (name, value.toUTF8) :: values
  let machine : Machine := { processors := ← countProcessors, files := Log.commonRoot }
  match plan machine args fun name => values.lookup name with
  | .reply reply =>
    IO.print reply.stdout
    IO.eprint reply.stderr
    return reply.exit.toUInt32
  | .serve settings filter heartbeat => serve settings filter heartbeat
