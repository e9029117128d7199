import Palette.Abort
import Palette.FileTree

/-!
# The log file

The library's records can be kept in a log file.  Until a log is set up nothing is
written.  Once it is (`Log.configure`), it has a handler that writes to a file, records are
no longer passed on, and later attempts change nothing.  Each record of the library that is
severe enough makes a line with a time stamp, its level and its message (`Log.record`).

Before a line that would bring the file to its greatest size, the file makes room: it
and its numbered backups move one number up, and what exceeds the last number is
lost (`Log.rotate`).

An attempt that fails leaves behind the level that it set and the directories that it
made.
-/

namespace Palette

/-- What keeps a log from being set up. -/
inductive LogFault where
  | system (fault : PathFault) (path : Path)
  | abort (abort : Abort)
  deriving DecidableEq, Repr

/-- The message of a fault. -/
def LogFault.message : LogFault → String
  | .system fault path => fault.message path
  | .abort cause => cause.message

/-- The files, the least level of records that are kept, where zero stands for the
standard one, the files that handlers write records to, and whether records are passed
on to other logs besides. -/
structure Log where
  files : FileSystem
  level : Int := 0
  handlers : List Path := []
  propagates : Bool := true
  deriving Repr

namespace Log

/-- The name of the library among those that records come from. -/
def libraryName : String := "themetokens"

/-- The name of a log file. -/
def fileName : String := "themetokens.log"

/-- The size that a log file stays below, in bytes. -/
def sizeLimit : Nat := 512000

/-- How many backups of a log file are kept. -/
def backupCount : Nat := 3

/-- The least level of records unless another one is set. -/
def standardLevel : Int := 30

/-! ## Setting up -/

/-- The file that records are written to, if a log is set up. -/
def target (log : Log) : Option Path :=
  log.handlers.head?

/-- Attaches a handler that writes to the file at a path, and keeps records to it. -/
def attach (log : Log) (files : FileSystem) (path : Path) : Log :=
  { log with files, handlers := log.handlers ++ [path], propagates := false }

/-- Sets up a log in a directory, which is made if it is missing, unless one is set up
already.  The level is set first, whether or not the log can be. -/
def configure (log : Log) (directory : Path) (level : Int) : Log × Option LogFault :=
  if log.handlers ≠ [] then (log, none)
  else
    let leveled := { log with level }
    if directory.hasNull then (leveled, some (.abort .nullInPath))
    else
      match log.files.makeDirectories directory with
      | (files, some (fault, path)) => ({ leveled with files }, some (.system fault path))
      | (files, none) =>
        let path := Path.resolve files.current (directory.join (.ofText fileName))
        match files.append path [] with
        | .error fault => ({ leveled with files }, some (.system fault path))
        | .ok opened => (leveled.attach opened path, none)

/-! ## Records -/

/-- The name of a level. -/
def levelName (level : Int) : String :=
  if level = 10 then "DEBUG"
  else if level = 20 then "INFO"
  else if level = 30 then "WARNING"
  else if level = 40 then "ERROR"
  else if level = 50 then "CRITICAL"
  else "Level " ++ toString level

/-- Whether a record comes from the library or a part of it. -/
def isOfLibrary (name : String) : Bool :=
  name == libraryName || (libraryName ++ ".").toList.isPrefixOf name.toList

/-- The least level of records that are kept. -/
def leastLevel (log : Log) : Int :=
  if log.level = 0 then standardLevel else log.level

/-- Whether a record of this origin and level is kept once a log is set up.  Levels that
are not positive are never kept. -/
def keeps (log : Log) (name : String) (level : Int) : Bool :=
  isOfLibrary name && 0 < level && log.leastLevel ≤ level

/-- The line of a record. -/
def line (stamp : String) (level : Int) (message : String) : String :=
  stamp ++ " " ++ levelName level ++ " " ++ message ++ "\n"

/-- The log file at a path itself, or one of its backups. -/
def backup (path : Path) (number : Nat) : Path :=
  if number = 0 then path else path.extended ("." ++ toString number)

/-- Moves a log file and its backups one number up each, the oldest first. -/
def rotate (files : FileSystem) (path : Path) : FileSystem :=
  (List.range backupCount).reverse.foldl
    (fun files number => files.move (backup path number) (backup path (number + 1))) files

/-- Whether a line would bring a log file to its greatest size.  The file is measured in
bytes and the line in characters. -/
def isFullFor (files : FileSystem) (path : Path) (line : String) : Bool :=
  match files.find path with
  | .ok (.file content _) => sizeLimit ≤ content.length + line.length
  | _ => false

/-- Adds a line to the log file at a path. -/
def write (files : FileSystem) (path : Path) (line : String) : FileSystem :=
  let ready := if isFullFor files path line then rotate files path else files
  match ready.append path line.toUTF8.toList with
  | .ok written => written
  | .error _ => ready

/-- Keeps a record in the file of each handler, if it is severe enough. -/
def record (log : Log) (stamp name : String) (level : Int) (message : String) : Log :=
  if log.keeps name level then
    { log with
      files := log.handlers.foldl
        (fun files path => write files path (line stamp level message)) log.files }
  else log

/-! ## Interface lemmas -/

variable (log : Log) (stamp name : String) (level : Int) (message : String)

@[simp] theorem handlers_record :
    (log.record stamp name level message).handlers = log.handlers := by
  unfold record
  split <;> rfl

@[simp] theorem propagates_record :
    (log.record stamp name level message).propagates = log.propagates := by
  unfold record
  split <;> rfl

@[simp] theorem level_record : (log.record stamp name level message).level = log.level := by
  unfold record
  split <;> rfl

end Log

end Palette
