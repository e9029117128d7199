import Palette.Path
import Palette.Text.Quoted
import Palette.Text.Utf8

/-!
# Files

A tree of directories and files, in which paths are followed part by part.  Two
dots lead to the directory above, so every part before them must exist and be a
directory.  `FileSystem.find` follows a path from the root or from the current
directory and says how it fails; reading a file and reading a text build on it.

A file can be there and still not be read: the system may not let it be opened, or its
bytes may not come (`Access`).  Its size is known all the same.  Directories have no such
bars: every directory may be searched, and changed.
-/

namespace Palette

/-- What comes of opening a file and of reading it. -/
inductive Access where
  | granted
  /-- The system does not let the file be opened. -/
  | denied
  /-- The file is opened, but reading it fails. -/
  | failing
  deriving DecidableEq, Repr

/-- A file with its bytes and the access to them, or a directory with its entries. -/
inductive FileNode where
  | file (content : List UInt8) (access : Access)
  | directory (entries : List (String × FileNode))
  deriving Repr

/-- How following or using a path fails. -/
inductive PathFault where
  | missing
  | exists
  /-- A part that must be a directory is a file. -/
  | notDirectory
  | isDirectory
  | nameTooLong
  /-- A file may not be opened. -/
  | denied
  /-- A file that was opened cannot be read. -/
  | failing
  deriving DecidableEq, Repr

namespace PathFault

/-- The number under which the system reports a failure. -/
def number : PathFault → Nat
  | .missing => 2
  | .exists => 17
  | .notDirectory => 20
  | .isDirectory => 21
  | .nameTooLong => 36
  | .denied => 13
  | .failing => 5

/-- The wording of a failure. -/
def reason : PathFault → String
  | .missing => "No such file or directory"
  | .exists => "File exists"
  | .notDirectory => "Not a directory"
  | .isDirectory => "Is a directory"
  | .nameTooLong => "File name too long"
  | .denied => "Permission denied"
  | .failing => "Input/output error"

/-- The message of a failure at a path.  It does not name a file that is open already. -/
def message (fault : PathFault) (path : Path) : String :=
  let wording := "[Errno " ++ toString fault.number ++ "] " ++ fault.reason
  if fault = .failing then wording else wording ++ ": " ++ Text.quoted path.text

end PathFault

namespace Access

/-- The failure of reading a file with this access, if it fails. -/
def fault? : Access → Option PathFault
  | .granted => none
  | .denied => some .denied
  | .failing => some .failing

@[simp] theorem fault?_eq_none_iff {access : Access} :
    access.fault? = none ↔ access = .granted := by
  cases access <;> simp [fault?]

/-- A file that cannot be read is not missing. -/
theorem ne_missing_of_fault? {access : Access} {fault : PathFault}
    (hfault : access.fault? = some fault) : fault ≠ .missing := by
  rintro rfl
  cases access <;> cases hfault

end Access

namespace FileNode

/-- The greatest length of a name, in bytes. -/
def nameLimit : Nat := 255

/-- The entry of a name. -/
def entry? (entries : List (String × FileNode)) (name : String) : Option FileNode :=
  (entries.find? fun entry => entry.1 == name).map Prod.snd

/-- Follows parts down from a node; `above` holds the directories above it, nearest
first. -/
def follow (above : List FileNode) (node : FileNode) : List String → Except PathFault FileNode
  | [] => .ok node
  | part :: rest =>
    match node with
    | .file .. => .error .notDirectory
    | .directory entries =>
      if part = ".." then
        match above with
        | [] => follow [] node rest
        | parent :: others => follow others parent rest
      else if nameLimit < part.utf8ByteSize then .error .nameTooLong
      else
        match entry? entries part with
        | none => .error .missing
        | some child => follow (node :: above) child rest

/-- Puts a node at the end of parts, making the directories on the way.  A file on
the way is left as it is. -/
def put (new : FileNode) (parts : List String) (node : FileNode) : FileNode :=
  match parts with
  | [] => new
  | part :: rest =>
    match node with
    | .file content access => .file content access
    | .directory entries =>
      match entry? entries part with
      | none => .directory (entries ++ [(part, put new rest (.directory []))])
      | some child =>
        .directory (entries.map fun entry =>
          if entry.1 = part then (part, put new rest child) else entry)

/-- Takes away what is at the end of parts, if anything is there. -/
def remove (parts : List String) (node : FileNode) : FileNode :=
  match parts with
  | [] => node
  | part :: rest =>
    match node with
    | .file content access => .file content access
    | .directory entries =>
      if rest = [] then .directory (entries.filter fun entry => entry.1 != part)
      else
        match entry? entries part with
        | none => node
        | some child =>
          .directory (entries.map fun entry =>
            if entry.1 = part then (part, remove rest child) else entry)

end FileNode

/-- A tree of files and a directory in it, from which relative paths are
followed. -/
structure FileSystem where
  top : FileNode
  current : Path
  deriving Repr

/-- Why a file cannot be read. -/
inductive ReadFault where
  | system (fault : PathFault)
  /-- The file's bytes are no text. -/
  | undecodable (fault : Text.Utf8Fault)
  deriving DecidableEq, Repr

namespace ReadFault

/-- The message of a failure at a path. -/
def message (path : Path) : ReadFault → String
  | .system fault => fault.message path
  | .undecodable fault => fault.message

end ReadFault

namespace FileSystem

/-- The greatest length of a path, in bytes. -/
def pathLimit : Nat := 4095

/-- The parts of a path from the top of the tree. -/
def partsOf (files : FileSystem) (path : Path) : List String :=
  (files.current.join path).parts

/-- The node that a path leads to. -/
def find (files : FileSystem) (path : Path) : Except PathFault FileNode :=
  if pathLimit < path.text.utf8ByteSize then .error .nameTooLong
  else FileNode.follow [] files.top (files.partsOf path)

/-- The size of what a path leads to; a directory has none to speak of. -/
def size (files : FileSystem) (path : Path) : Except PathFault Nat :=
  (files.find path).map fun node =>
    match node with
    | .file content _ => content.length
    | .directory _ => 0

/-- The bytes of the file that a path leads to. -/
def bytes (files : FileSystem) (path : Path) : Except PathFault (List UInt8) :=
  match files.find path with
  | .error fault => .error fault
  | .ok (.directory _) => .error .isDirectory
  | .ok (.file content access) =>
    match access.fault? with
    | some fault => .error fault
    | none => .ok content

/-- The text of the file that a path leads to, with its line ends unified. -/
def text (files : FileSystem) (path : Path) : Except ReadFault (List Char) :=
  match files.bytes path with
  | .error fault => .error (.system fault)
  | .ok content => ((Text.decodeUtf8 content).map Text.lineFeeds).mapError .undecodable

/-- The files with a node put at a path. -/
def put (files : FileSystem) (path : Path) (node : FileNode) : FileSystem :=
  { files with top := FileNode.put node (Path.resolve files.current path).parts files.top }

/-- The files without what is at a path. -/
def remove (files : FileSystem) (path : Path) : FileSystem :=
  { files with top := FileNode.remove (Path.resolve files.current path).parts files.top }

/-! ## Changes that can fail -/

/-- Whether a path leads to a directory. -/
def isDirectory (files : FileSystem) (path : Path) : Bool :=
  match files.find path with
  | .ok (.directory _) => true
  | _ => false

/-- Makes a directory in one that is there. -/
def makeDirectory (files : FileSystem) (path : Path) : Except PathFault FileSystem :=
  match files.find path with
  | .ok _ => .error .exists
  | .error .missing =>
    if files.isDirectory path.parent then .ok (files.put path (.directory []))
    else .error .missing
  | .error fault => .error fault

/-- Makes directories with at most `count` ones above that are missing.  What was made
before a fault stays; the fault comes with its path. -/
def makeUpTo : Nat → FileSystem → Path → FileSystem × Option (PathFault × Path)
  | 0, files, path => (files, some (.missing, path))
  | count + 1, files, path =>
    let finish (files : FileSystem) (fault : PathFault) :=
      (files, if files.isDirectory path then none else some (fault, path))
    match files.makeDirectory path with
    | .ok made => (made, none)
    | .error .missing =>
      match makeUpTo count files path.parent with
      | (made, some problem) => (made, some problem)
      | (made, none) =>
        match made.makeDirectory path with
        | .ok final => (final, none)
        | .error fault => finish made fault
    | .error fault => finish files fault

/-- Makes a directory, and those above it that are missing; one that is there already
stays. -/
def makeDirectories (files : FileSystem) (path : Path) :
    FileSystem × Option (PathFault × Path) :=
  makeUpTo (path.parts.length + 1) files path

/-- Adds bytes at the end of a file that may be opened.  A file that is missing is made if
its directory is there. -/
def append (files : FileSystem) (path : Path) (content : List UInt8) :
    Except PathFault FileSystem :=
  match files.find path with
  | .ok (.file written access) =>
    if access = .denied then .error .denied
    else .ok (files.put path (.file (written ++ content) access))
  | .ok (.directory _) => .error .isDirectory
  | .error .missing =>
    if files.isDirectory path.parent then .ok (files.put path (.file content .granted))
    else .error .missing
  | .error fault => .error fault

/-- Moves what is at a path to another one, in place of what is there; nothing happens
if nothing is there to move. -/
def move (files : FileSystem) (path target : Path) : FileSystem :=
  match files.find path with
  | .ok node => (files.remove path).put target node
  | .error _ => files

end FileSystem

/-- Whether a path has a null character, which no system call takes. -/
def Path.hasNull (path : Path) : Bool :=
  path.text.toList.any (· == '\x00')

end Palette
