/-
  The file system of the machine that workloads run on: which paths can be opened for writing, and
  the system's words for the others.
-/
namespace TaskScheduler.Workload.Files

/-- What stands in the file system, as far as a path can be told apart by it. -/
inductive Node where
  | file
  /-- A device that is not attached. -/
  | unattached
  | directory (entries : List (String × Node))
  /-- A directory in which nothing can be created. -/
  | fixed (entries : List (String × Node))

/-- Why the system refuses to open a file. -/
inductive OpenError where
  | missing
  | noDevice
  | notADirectory
  | isADirectory
  | nameTooLong
  | zeroByte
deriving DecidableEq, Repr

/-- The system's words for it. -/
def OpenError.text : OpenError → String
  | missing => "No such file or directory (os error 2)"
  | noDevice => "No such device or address (os error 6)"
  | notADirectory => "Not a directory (os error 20)"
  | isADirectory => "Is a directory (os error 21)"
  | nameTooLong => "File name too long (os error 36)"
  | zeroByte => "file name contained an unexpected NUL byte"

namespace Node

/-- The longest name that a directory takes. -/
def nameLimit : Nat := 255

/-- The entry of a directory, if there is one; a fixed directory has no limit for names. -/
def entry? (node : Node) (name : String) : Except OpenError (Option Node) :=
  match node with
  | file | unattached => .error .notADirectory
  | directory entries =>
    if nameLimit < name.utf8ByteSize then .error .nameTooLong else .ok (entries.lookup name)
  | fixed entries => .ok (entries.lookup name)

/-- The entry that a path goes through, which has to be a directory. -/
def enter (node : Node) (name : String) : Except OpenError Node := do
  match ← node.entry? name with
  | none => throw .missing
  | some file | some unattached => throw .notADirectory
  | some entry => return entry

/-- Opens an entry for writing, and creates it if it is not there. -/
def openEntry (node : Node) (name : String) : Except OpenError Unit := do
  match ← node.entry? name, node with
  | some file, _ => return ()
  | some unattached, _ => throw .noDevice
  | some _, _ => throw .isADirectory
  | none, fixed _ => throw .missing
  | none, _ => return ()

end Node

/-- Opens the file at a path of names for writing; the last name is followed by a slash if `closed`.
The directories above the one reached are at hand for the names that lead back up. -/
def openBelow (closed : Bool) (above : List Node) (node : Node) :
    List String → Except OpenError Unit
  | [] => .error .isADirectory
  | [name] =>
    if name = "." || name = ".." || closed then .error .isADirectory else node.openEntry name
  | "." :: rest => openBelow closed above node rest
  | ".." :: rest => openBelow closed above.tail (above.head?.getD node) rest
  | name :: rest =>
    match node.enter name with
    | .ok entry => openBelow closed (node :: above) entry rest
    | .error e => .error e

/-- A directory of files. -/
def filesNamed (names : List String) : List (String × Node) := names.map (·, .file)

/-- A directory of directories without known entries. -/
def foldersNamed (names : List String) : List (String × Node) := names.map (·, .directory [])

/-- The directories that every machine has, with files that each of them has too. -/
def commonRoot : Node :=
  let commands := Node.directory (filesNamed ["bash", "cat", "env", "ls", "sh"])
  let streams := Node.fixed (filesNamed ["0", "1", "2"])
  let process := Node.fixed ([("fd", streams), ("net", .fixed []), ("task", .fixed [])] ++
    filesNamed ["cmdline", "comm", "environ", "exe", "io", "limits", "maps", "mem", "mountinfo",
      "mounts", "oom_score", "smaps", "stat", "statm", "status"])
  let devices := Node.directory ([("fd", streams), ("pts", .fixed []), ("shm", .directory []),
    ("tty", .unattached)] ++ filesNamed [
      "full", "null", "ptmx", "random", "stderr", "stdin", "stdout", "urandom", "zero"])
  .directory (foldersNamed [
    "boot", "home", "lib", "lib64", "media", "mnt", "opt", "root", "run", "sbin", "srv", "sys",
    "tmp"] ++ [
    ("bin", commands),
    ("dev", devices),
    ("etc", .directory (
      foldersNamed ["default", "init.d", "opt", "profile.d", "ssl"] ++ filesNamed [
        "fstab", "group", "hostname", "hosts", "nsswitch.conf", "os-release", "passwd", "profile",
        "resolv.conf", "shadow"])),
    ("proc", .fixed ([("1", process), ("net", .fixed []), ("self", process), ("sys", .fixed [])] ++
      filesNamed ["cmdline", "cpuinfo", "devices", "filesystems", "loadavg", "meminfo", "mounts",
        "stat", "swaps", "uptime", "version", "vmstat"])),
    ("usr", .directory (("bin", commands) :: foldersNamed [
      "include", "lib", "local", "sbin", "share", "src"])),
    ("var", .directory (foldersNamed [
      "backups", "cache", "lib", "local", "lock", "log", "mail", "opt", "run", "spool", "tmp"]))])

/-- The longest path that the system takes, with the byte that ends it. -/
def pathLimit : Nat := 4096

/-- Opens the file at a path for writing, from the root or from a directory without entries. -/
def openForWriting (root : Node) (path : String) : Except OpenError Unit :=
  if path.toList.any (· == '\x00') then .error .zeroByte
  else if path.isEmpty then .error .missing
  else if pathLimit ≤ path.utf8ByteSize then .error .nameTooLong
  else
    let start := if path.startsWith "/" then root else .directory []
    openBelow (path.endsWith "/") [] start ((path.splitOn "/").filter (· ≠ ""))

end TaskScheduler.Workload.Files
