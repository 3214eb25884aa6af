import Scss.Disk.Folder
import Scss.Failure

/-!
# Disks

A disk is a tree of files and folders with a working folder, from which relative paths start. A path
is followed segment by segment: every segment needs a folder to stand in, two dots go up, one dot or
nothing stays. There are no links, so each path leads to one place. Names and paths have a greatest
length. The disk itself goes by bytes; the paths that it is given are texts, but for those that were
found on it.

* `Disk.find`, `Disk.locate`: the place that a path leads to, whether something is there or not.
* `Disk.read`, `Disk.write`, `Disk.makeFolder`, `Disk.makeFolders`: the operations on paths.
* `Disk.walk`: the entries below a folder.
-/

namespace Scss

/-- A tree of files with a working folder. -/
structure Disk where
  /-- The whole tree. -/
  root : Folder
  /-- The place of the working folder. -/
  here : Place

namespace Disk

/-- The number of bytes that a name can have. -/
def longestName : Nat := 255

/-- The number of bytes that a path can have. -/
def longestPath : Nat := 4095

/-- Why a path cannot be followed at all: it holds a NUL, it is empty, or it is too long. -/
def refusal? (p : Raw) : Option Failure :=
  if p.contains 0 then some .nulInPath
  else if p.isEmpty then some .missing
  else if longestPath < p.length then some .nameTooLong
  else none

/-- Follows segments from a place. Each needs a folder to stand in, and a name must not be too long to
be looked for there; the place they lead to may be free. -/
def follow (root : Folder) : Place → List Raw → Except Failure Place
  | place, [] => .ok place
  | place, segment :: rest =>
    match root.at? place with
    | none => .error .missing
    | some (.file _) => .error .notFolder
    | some (.folder _) =>
      if Path.isIdle segment then follow root place rest
      else if segment = Path.dots then follow root place.dropLast rest
      else if longestName < segment.length then .error .nameTooLong
      else follow root (place ++ [segment]) rest

/-- The place at which a path starts. -/
def start (d : Disk) (p : Raw) : Place :=
  if Path.isAbsolute p then [] else d.here

/-- The place that a path with these segments leads to. -/
def findBy (d : Disk) (p : Raw) (segments : List Raw) : Except Failure Place :=
  match refusal? p with
  | some cause => .error cause
  | none => follow d.root (d.start p) segments

/-- The place that a path leads to. -/
def find (d : Disk) (p : Raw) : Except Failure Place :=
  d.findBy p (Path.segments p)

/-- What a path names. -/
def node? (d : Disk) (p : Raw) : Option Node :=
  match d.find p with
  | .ok place => d.root.at? place
  | .error _ => none

/-- Whether a path that was found on the disk names a file. -/
def isFileEntry (d : Disk) (p : Raw) : Bool :=
  match d.node? p with
  | some (.file _) => true
  | _ => false

/-- The place that a path leads to. -/
def locate (d : Disk) (p : Text) : Except Failure Place :=
  d.find p.bytes

/-- Whether a path names a file. -/
def isFile (d : Disk) (p : Text) : Bool :=
  d.isFileEntry p.bytes

/-- Whether a path names a folder. -/
def isFolder (d : Disk) (p : Text) : Bool :=
  match d.node? p.bytes with
  | some (.folder _) => true
  | _ => false

/-- The text of the file that a path names. -/
def read (d : Disk) (p : Text) : Except Failure Text :=
  match d.locate p with
  | .error cause => .error cause
  | .ok place =>
    match d.root.at? place with
    | none => .error .missing
    | some (.folder _) => .error .isFolder
    | some (.file bytes) =>
      match String.fromUTF8? bytes with
      | some text => .ok text.toList
      | none => .error .notText

/-- The disk with something put at a place. -/
def put (d : Disk) (place : Place) (node : Node) : Disk :=
  { d with root := d.root.put node place }

/-- The disk after a file is written with these bytes, whatever it held before. -/
def writeBytes (d : Disk) (p : Text) (bytes : ByteArray) : Except Failure Disk :=
  match d.locate p with
  | .error cause => .error cause
  | .ok place =>
    match d.root.at? place with
    | some (.folder _) => .error .isFolder
    | _ => .ok (d.put place (.file bytes))

/-- The bytes of a text in UTF-8. -/
def encode (text : Text) : ByteArray :=
  text.str.toUTF8

/-- The disk after a file is written with this text. -/
def write (d : Disk) (p text : Text) : Except Failure Disk :=
  d.writeBytes p (encode text)

/-- The segments of a path without empty ones at its end. -/
def withoutEnd (p : Raw) : List Raw :=
  ((Path.segments p).reverse.dropWhile List.isEmpty).reverse

/-- The disk with a new folder, where its parent is there and the place is free. -/
def makeFolder (d : Disk) (p : Text) : Except Failure Disk :=
  match d.findBy p.bytes (withoutEnd p.bytes) with
  | .error cause => .error cause
  | .ok place =>
    match d.root.at? place with
    | some _ => .error .occupied
    | none => .ok (d.put place (.folder .empty))

/-- The disk after a second attempt to make a folder: that it is there already is no failure. -/
def ensureFolder (d : Disk) (p : Text) : Disk × Except Failure Unit :=
  match d.makeFolder p with
  | .ok d' => (d', .ok ())
  | .error cause => (d, if d.isFolder p then .ok () else .error cause)

/-- Makes a folder and, where they are missing, its parents, which are given from the nearest on. -/
def makeFoldersAlong (d : Disk) (p : Text) (parents : List Text) : Disk × Except Failure Unit :=
  if p.isEmpty then (d, .ok ())
  else
    match d.makeFolder p, parents with
    | .error .missing, [] => (d, .error (.other "failed to create whole tree"))
    | .error .missing, parent :: further =>
      match makeFoldersAlong d parent further with
      | (d', .ok ()) => d'.ensureFolder p
      | failed => failed
    | _, _ => d.ensureFolder p

/-- Makes a folder with all its parents. What was made before a failure stays. -/
def makeFolders (d : Disk) (p : Text) : Disk × Except Failure Unit :=
  d.makeFoldersAlong p (Path.parents p)

/-- The paths of a folder and its entries, or of those directly in it if not `deep`. -/
def walk (d : Disk) (deep : Bool) (p : Text) : List Raw :=
  match d.node? p.bytes with
  | some (.folder inside) => inside.walk deep p.bytes
  | _ => []

end Disk

end Scss
