import Scss.Bundle
import Scss.Report
import Scss.Text.Raw

/-!
# Machines

A command works on a machine: files that can be read and written, folders that can be listed and
made, a clock, and two places to write to, one for notes and one for reports. Commands are written
over any monad in which these operations are given.

* `Machine`: the operations.
* `Machine.files`: the files of a machine as a bundler sees them.
* `Machine.quiet`: the machine that takes notes up to a level only.
-/

namespace Scss

/-- What a command asks of the outside. -/
structure Machine (m : Type → Type) where
  /-- Whether a path names a file. -/
  isFile : Text → m Bool
  /-- Whether a path names a folder. -/
  isFolder : Text → m Bool
  /-- The text of a file. -/
  read : Text → m (Except Failure Text)
  /-- The paths of a folder and of all entries below it, or of those directly in it if not deep. -/
  walk : Bool → Text → m (List Raw)
  /-- Whether a path that was come to on a walk names a file. -/
  isFileEntry : Raw → m Bool
  /-- Makes a folder and its parents. -/
  makeFolders : Text → m (Except Failure Unit)
  /-- Writes a file. -/
  write : Text → Text → m (Except Failure Unit)
  /-- The time in milliseconds. -/
  now : m Nat
  /-- Takes a note. -/
  note : Note → m Unit
  /-- Gives a report. -/
  report : Report → m Unit

namespace Machine

variable {m : Type → Type} [Monad m]

/-- The files of a machine as a bundler sees them: relative paths start at the root, if one is given,
and reading is noted. -/
def files (machine : Machine m) (root? : Option Text) : Files m where
  isFile p := machine.isFile (Path.resolve root? p)
  read p := do
    let full := Path.resolve root? p
    machine.note (.reading full)
    machine.read full
  note := machine.note

/-- The machine that takes notes of the given level and of those that matter more. -/
def quiet (machine : Machine m) (level : Level) : Machine m :=
  { machine with note := fun n => if level.covers n.level then machine.note n else pure () }

end Machine

end Scss
