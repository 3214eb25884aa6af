import Scss.Disk.Basic
import Scss.Machine

/-!
# Machines on a disk

A session is a disk together with everything that was noted and reported. It makes a machine whose
clock stands still, on which commands can be run and their effects looked at.

* `Session`: a disk and its log.
* `Session.walking`: the machine of a session, with its way of walking through folders left open.
* `Session.machine`: the machine that walks through folders as a disk does.
-/

namespace Scss

/-- A note or a report. -/
inductive Message where
  /-- A note. -/
  | note (n : Note)
  /-- A report. -/
  | report (r : Report)

namespace Message

/-- Where a message goes. -/
def channel : Message → Channel
  | note _ => .errors
  | report r => r.channel

/-- The text of a message. -/
def text (w : Wording) : Message → String
  | note n => n.line w
  | report r => r.text w

end Message

/-- A disk and what was noted and reported so far. -/
structure Session where
  /-- The disk. -/
  disk : Disk
  /-- The messages, in order. -/
  log : List Message := []

namespace Session

/-- Asks something of the disk. -/
def ask {α : Type} (f : Disk → α) : StateM Session α := do
  return f (← get).disk

/-- Adds a message to the log. -/
def say (message : Message) : StateM Session Unit :=
  modify fun s => { s with log := s.log ++ [message] }

/-- Writes a file. The disk stays as it is if that fails. -/
def write (p text : Text) : StateM Session (Except Failure Unit) :=
  modifyGet fun s =>
    match s.disk.write p text with
    | .ok disk => (.ok (), { s with disk })
    | .error cause => (.error cause, s)

/-- Makes a folder and its parents. -/
def makeFolders (p : Text) : StateM Session (Except Failure Unit) :=
  modifyGet fun s =>
    let (disk, answer) := s.disk.makeFolders p
    (answer, { s with disk })

/-- The machine of a session on which folders are walked through in the given way. -/
def walking (walk : Disk → Bool → Text → List Raw) : Machine (StateM Session) where
  isFile p := ask (·.isFile p)
  isFolder p := ask (·.isFolder p)
  read p := ask (·.read p)
  walk deep p := ask (walk · deep p)
  isFileEntry p := ask (·.isFileEntry p)
  makeFolders := makeFolders
  write := write
  now := pure 0
  note n := say (.note n)
  report r := say (.report r)

/-- The machine of a session. -/
def machine : Machine (StateM Session) :=
  walking Disk.walk

end Session

end Scss
