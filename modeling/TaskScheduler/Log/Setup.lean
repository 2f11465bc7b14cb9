import TaskScheduler.Log

/-
  Setting up the log: the filter is read first, the file of a log in JSON is opened next, and a
  process that has a log already keeps it.
-/
namespace TaskScheduler.Log

/-- Sets up the log and answers with its filter. -/
def setup (platform : Platform) (installed : Bool) (c : LogConfig) : Except LogError Filter := do
  let filter ← platform.readFilter c.level
  match c.format, c.file with
  | .json, some path => (platform.openFile path).mapError .fileOpen
  | _, _ => pure ()
  if installed then throw .alreadyInitialized
  return filter

end TaskScheduler.Log
