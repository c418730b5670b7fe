import FlowGauge.Fault

/-! The directory of the observation log, on a disk of directories and files.

The directory is made with everything above it, and a file for the day is opened in it. -/
namespace FlowGauge.Logging

/-- What an operating system objects to. -/
inductive DiskFault where
  | notFound
  | occupied
  | notDirectory
  | isDirectory
  | nameTooLong
  | zeroInName
  deriving Repr, DecidableEq

def DiskFault.text : DiskFault → String
  | notFound => "No such file or directory (os error 2)"
  | occupied => "File exists (os error 17)"
  | notDirectory => "Not a directory (os error 20)"
  | isDirectory => "Is a directory (os error 21)"
  | nameTooLong => "File name too long (os error 36)"
  | zeroInName => "file name contained an unexpected NUL byte"

/-- The names from the top of a disk down to a place on it. -/
abbrev Place := List String

/-- The steps of a path: names, and dots that stay or go back. -/
def steps (path : String) : List String :=
  (path.splitOn "/").filter (· ≠ "")

/-- Bytes of one name. -/
def longestName : Nat := 255

/-- Bytes of a whole path. -/
def longestPath : Nat := 4095

/-- The top is always a directory. -/
structure Disk where
  directories : List Place
  files : List Place
  deriving Repr, DecidableEq

namespace Disk

def has (d : Disk) (p : Place) : Bool :=
  d.directories.contains p || d.files.contains p

/-- The place of a name below `here`. -/
def child (d : Disk) (here : Place) (name : String) : Except DiskFault Place :=
  if longestName < name.utf8ByteSize then .error .nameTooLong
  else if d.has (here ++ [name]) then .ok (here ++ [name])
  else .error .notFound

/-- One step from a place. Only directories can be left for elsewhere. -/
def go (d : Disk) (here : Place) (step : String) : Except DiskFault Place :=
  if d.files.contains here then .error .notDirectory
  else if step = "." then .ok here
  else if step = ".." then .ok here.dropLast
  else d.child here step

def follow (d : Disk) (path : List String) : Except DiskFault Place :=
  path.foldlM d.go []

def isDirectory (d : Disk) (path : List String) : Bool :=
  match d.follow path with
  | .ok p => !d.files.contains p
  | .error _ => false

/-- A new directory in one that is there. -/
def makeOne (d : Disk) (path : List String) : Except DiskFault Disk := do
  let above ← d.follow path.dropLast
  match path.getLast? with
  | none => throw .occupied
  | some name =>
    match d.go above name with
    | .ok _ => throw .occupied
    | .error .notFound => return { d with directories := d.directories ++ [above ++ [name]] }
    | .error e => throw e

/-- A directory that may be there already. -/
def ensureOne (d : Disk) (path : List String) : Except DiskFault Disk :=
  match d.makeOne path with
  | .error .occupied => if d.isDirectory path then .ok d else .error .occupied
  | made => made

/-- The path and what is above it. Above, dots that stay do not count as steps. -/
def upward (path : List String) : List (List String) :=
  let names := path.filter (· ≠ ".")
  path :: (List.range (names.length - 1)).reverse.map fun i => names.take (i + 1)

/-- Makes the first directory of `paths` that can be made, or finds it; those before it are left
to be made. -/
def foothold (d : Disk) (missing : List (List String)) :
    List (List String) → Except DiskFault (Disk × List (List String))
  | [] => .ok (d, missing)
  | path :: rest =>
    match d.ensureOne path with
    | .ok d => .ok (d, missing)
    | .error .notFound => foothold d (path :: missing) rest
    | .error e => .error e

/-- Makes each directory in turn. What has been made before a fault stays. -/
def makeEach (d : Disk) : List (List String) → Option DiskFault × Disk
  | [] => (none, d)
  | path :: rest =>
    match d.ensureOne path with
    | .ok d => makeEach d rest
    | .error e => (some e, d)

/-- What the text of a path is refused for, before any disk is looked at. -/
def textFault? (path : String) : Option DiskFault :=
  if path.toList.contains '\x00' then some .zeroInName
  else if longestPath < path.utf8ByteSize then some .nameTooLong
  else none

/-- A directory with everything above it. -/
def make (d : Disk) (path : String) : Option DiskFault × Disk :=
  match textFault? path with
  | some e => (some e, d)
  | none =>
    match d.foothold [] (upward (steps path)) with
    | .error e => (some e, d)
    | .ok (d, missing) => d.makeEach missing

/-- A file in a directory, if that is there. -/
def put (d : Disk) (path name : String) : Disk :=
  match d.follow (steps path) with
  | .ok p => { d with files := d.files ++ [p ++ [name]] }
  | .error _ => d

/-- The name of a place that is directly below another. -/
def nameBelow? (here p : Place) : Option String :=
  if p.dropLast = here then p.getLast? else none

/-- What a directory holds, in order. -/
def listing (d : Disk) (path : String) : List String :=
  match d.follow (steps path) with
  | .ok here =>
    ((d.directories ++ d.files).filterMap (nameBelow? here)).eraseDups.mergeSort fun a b => a ≤ b
  | .error _ => []

end Disk

def creationFault (path : String) (fault : DiskFault) : Fault :=
  .config ("Failed to create observation log directory " ++ Text.quoted path ++ ": " ++ fault.text)

def installFault : Fault :=
  .config ("Failed to install tracing subscriber: " ++
    "a global default trace dispatcher has already been set")

/-- The file of one day in the directory of the log. -/
def logFile (day : String) : String :=
  "observations.log." ++ day

/-- Makes the directory of the log and opens the file of the day in it. -/
def Disk.openLog (d : Disk) (path day : String) : Option DiskFault × Disk :=
  match d.make path with
  | (none, d) => (none, d.put path (logFile day))
  | refused => refused

/-- Codes that a terminal might obey are spelled out in a line of the log file. -/
def shownChar (c : Char) : List Char :=
  match c with
  | '\x1b' => "\\x1b".toList
  | '\x07' => "\\x07".toList
  | '\x08' => "\\x08".toList
  | '\x0c' => "\\x0c".toList
  | '\x7f' => "\\x7f".toList
  | c => if 0x80 ≤ c.toNat ∧ c.toNat ≤ 0x9f then Text.codePoint c else [c]

def shownLine (message : String) : String :=
  String.ofList (message.toList.flatMap shownChar)

end FlowGauge.Logging
