import Scss.Bundle

/-!
# Files in memory

A collection of texts under names, which remembers what it was asked. Names are compared as they
stand: nothing in them is a folder.

* `Memory.insert`: puts a text under a name.
* `Memory.files`: the collection as the files of a bundler, every question recorded in order.
-/

namespace Scss

/-- A question to a collection of files. -/
inductive Access where
  /-- Whether there is a file of this name. -/
  | isFile (path : Text)
  /-- The contents of the file of this name. -/
  | read (path : Text)
deriving DecidableEq

/-- Texts under names, and the questions asked so far. -/
structure Memory where
  /-- Names and texts, the latest first. -/
  entries : List (Text × Text) := []
  /-- The questions asked, in order. -/
  accesses : List Access := []

namespace Memory

/-- Puts a text under a name, in place of an earlier one. -/
def insert (memory : Memory) (path text : Text) : Memory :=
  { memory with entries := (path, text) :: memory.entries.filter fun e => e.1 != path }

/-- The text under a name. -/
def get? (memory : Memory) (path : Text) : Option Text :=
  memory.entries.lookup path

/-- Whether there is a file of this name. -/
def isFile (path : Text) : StateM Memory Bool :=
  modifyGet fun memory =>
    ((memory.get? path).isSome, { memory with accesses := memory.accesses ++ [.isFile path] })

/-- The contents of the file of this name. -/
def read (path : Text) : StateM Memory (Except Failure Text) :=
  modifyGet fun memory =>
    let answer :=
      match memory.get? path with
      | some text => .ok text
      | none => .error (.unknown path)
    (answer, { memory with accesses := memory.accesses ++ [.read path] })

/-- The collection as the files of a bundler. Notes are not kept. -/
def files : Files (StateM Memory) where
  isFile := isFile
  read := read
  note _ := pure ()

end Memory

end Scss
