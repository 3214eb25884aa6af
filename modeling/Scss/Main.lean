import Scss.Command.Run
import Scss.Command.Usage
import Scss.Disk.Session

/-!
# The command line program

The machine that commands run on when they are started by a user: the files of the system, its clock
and its two output streams.

* `Program.machine`: the operations of a machine by those of the system.
* `main`: carries out a command line.
-/

namespace Scss.Program

/-- The failure that an error of the system stands for. A path is refused beforehand if it holds a NUL,
so what the system calls an invalid argument is a name that is too long. -/
def failureOf : IO.Error → Failure
  | .noFileOrDirectory .. => .missing
  | .alreadyExists .. => .occupied
  | .inappropriateType _ _ detail =>
    if detail.toLower = "is a directory" then .isFolder else .notFolder
  | .invalidArgument .. => .nameTooLong
  | error => .other (toString error)

/-- Does something with a path that may fail. -/
def attempt {α : Type} (path : Text) (action : IO α) : IO (Except Failure α) := do
  match Disk.refusal? path.bytes with
  | some cause => return .error cause
  | none =>
    try
      return .ok (← action)
    catch error =>
      return .error (failureOf error)

/-- A folder as an entry of itself. -/
def entryOf (path : Text) : IO.FS.DirEntry where
  root := path.str
  fileName := "."

/-- The names in a folder, if it is one. -/
def names? (path : Text) : IO (Option (List Text)) := do
  match ← attempt path (entryOf path).path.readDir with
  | .ok entries => return some (entries.toList.map fun e => e.fileName.toList)
  | .error _ => return none

/-- Whether a path names a folder. -/
def isFolder (path : Text) : IO Bool := do
  return (← names? path).isSome

/-- The text of a file. -/
def read (path : Text) : IO (Except Failure Text) := do
  if ← isFolder path then return .error .isFolder
  match ← attempt path (IO.FS.readBinFile path.str) with
  | .error cause => return .error cause
  | .ok bytes =>
    match String.fromUTF8? bytes with
    | some text => return .ok text.toList
    | none => return .error .notText

/-- Whether a path names a file. -/
def isFile (path : Text) : IO Bool := do
  if ← isFolder path then return false
  match ← attempt path (IO.FS.readBinFile path.str) with
  | .ok _ => return true
  | .error _ => return false

/-- The paths of a folder and its entries, in the order of their names. -/
partial def walk (deep : Bool) (path : Text) : IO (List Raw) := do
  let names := (← names? path).getD []
  let sorted := names.mergeSort fun a b => !b.before a
  let parts ← sorted.mapM fun name => do
    let inner : Text := Path.join path name
    if deep && (← isFolder inner) then walk deep inner else return [inner.bytes]
  return path.bytes :: parts.flatten

/-- Makes a folder. That it is there already is no failure. -/
def ensureFolder (path : Text) : IO (Except Failure Unit) := do
  match ← attempt path (IO.FS.createDir path.str) with
  | .ok () => return .ok ()
  | .error cause => return if ← isFolder path then .ok () else .error cause

/-- Makes a folder and, where they are missing, its parents, which are given from the nearest on. -/
def makeFolders (path : Text) (parents : List Text) : IO (Except Failure Unit) := do
  if path.isEmpty then return .ok ()
  match ← ensureFolder path, parents with
  | .error .missing, parent :: further =>
    match ← makeFolders parent further with
    | .ok () => ensureFolder path
    | failed => return failed
  | answer, _ => return answer

/-- Prints a message on its channel. -/
def say (message : Message) : IO Unit :=
  match message.channel with
  | .output => IO.print (message.text .plain)
  | .errors => IO.eprint (message.text .plain)

/-- The machine of the system. -/
def machine : Machine IO where
  isFile := isFile
  isFolder := isFolder
  read := read
  walk := walk
  isFileEntry path := isFile path.lossy
  makeFolders path := makeFolders path (Path.parents path)
  write path text := attempt path (IO.FS.writeFile path.str text.str)
  now := IO.monoMsNow
  note n := say (.note n)
  report r := say (.report r)

/-- The stylesheets of watched inputs with their contents. -/
def snapshot (inputs : List Text) : IO (List (Text × Option Text)) := do
  let files ← Inputs.collect (machine.quiet .warn) true inputs
  files.mapM fun file => do
    return (file, (← read file).toOption)

/-- Builds watched inputs again whenever they have changed. -/
partial def keepWatching (watched : Watched) (seen : List (Text × Option Text)) : IO Unit := do
  IO.sleep 500
  let found ← snapshot watched.inputs
  if found != seen then
    Build.rebuild (machine.quiet .warn) watched.options watched.inputs
  keepWatching watched found

end Scss.Program

/-- Carries out a command line. -/
def main (args : List String) : IO UInt32 := do
  match ← Scss.Invocation.execute Scss.Program.machine .byName (args.map String.toList) with
  | .done => return 0
  | .failed => return 1
  | .misused error =>
    IO.eprintln ("error: " ++ error.message)
    return 2
  | .help =>
    IO.print Scss.usage
    return 0
  | .watching watched =>
    Scss.Program.keepWatching watched (← Scss.Program.snapshot watched.inputs)
    return 0
