import Scss.Text.Basic

/-!
# Paths

A path is a list in which slashes divide segments. The paths that a program is given are texts, and
those that a system has are bytes, which need not be the bytes of a text; slashes and dots mean the same
in both. Paths are joined and cut as lists, without being simplified; only comparing them looks at their
components, where empty segments and single dots behind the first place do not count.

* `PathUnit`: what a path can be made of.
* `Path.components`: what a path means, segment by segment.
* `Path.join`, `Path.parents`, `Path.fileName?`, `Path.extension?`: building and cutting paths.
-/

namespace Scss

/-- What paths can be made of: among them a slash and a dot, which mean something in a path. -/
class PathUnit (α : Type) where
  slash : α
  dot : α

instance : PathUnit Char := ⟨'/', '.'⟩

instance : PathUnit UInt8 := ⟨0x2f, 0x2e⟩

namespace Path

variable {α : Type} [DecidableEq α] [PathUnit α]

/-- What stands between segments. -/
def separator : α := PathUnit.slash

/-- The segment that leads nowhere. -/
def dot : List α := [PathUnit.dot]

/-- The segment that leads one folder up. -/
def dots : List α := [PathUnit.dot, PathUnit.dot]

/-- The segments of a path, empty ones included: always one more than there are slashes. -/
def segments : List α → List (List α)
  | [] => [[]]
  | c :: s =>
    if c = separator then [] :: segments s
    else
      match segments s with
      | [] => [[c]]
      | first :: rest => (c :: first) :: rest

/-- A path that starts at the root. -/
def isAbsolute : List α → Bool
  | c :: _ => c == separator
  | [] => false

/-- A step of a path. -/
inductive Component (α : Type) where
  /-- The root of the tree, at the front of an absolute path. -/
  | root
  /-- The place where the path starts, written as a dot at its front. -/
  | here
  /-- One folder up. -/
  | up
  /-- The entry of a name. -/
  | normal (name : List α)
deriving DecidableEq

/-- A segment that leads nowhere: empty, or a single dot. -/
def isIdle (segment : List α) : Bool :=
  segment.isEmpty || segment == dot

/-- The step that a segment behind the first one makes. -/
def step? (segment : List α) : Option (Component α) :=
  if isIdle segment then none
  else if segment = dots then some .up
  else some (.normal segment)

/-- The components of a path. -/
def components (p : List α) : List (Component α) :=
  match segments p with
  | [] => []
  | first :: rest =>
    let start :=
      if isAbsolute p then some .root
      else if first = dot then some .here
      else step? first
    start.toList ++ rest.filterMap step?

/-- Whether two paths have the same components. -/
def same (p q : List α) : Bool :=
  components p == components q

/-- The path that leads to `p` from the folder `base`. An absolute `p` stands for itself. -/
def join (base p : List α) : List α :=
  if isAbsolute p then p
  else if base.isEmpty || base.getLast? == some separator then base ++ p
  else base ++ separator :: p

/-- The parents of a path from the nearest on, when its segments are `first` and, from the last on,
those of the list. Idle segments are passed over. -/
def parentsOf (first : List α) : List (List α) → List (List α)
  | [] => if first.isEmpty then [] else [[]]
  | segment :: above =>
    if isIdle segment then parentsOf first above
    else
      let front := (above.dropWhile isIdle).reverse
      let parent :=
        if first.isEmpty && front.isEmpty then [separator]
        else Text.joined [separator] (first :: front)
      parent :: parentsOf first above

/-- The parents of a path, from the nearest on: the path without its last component, without its last
two, and so on to the empty path or the root. -/
def parents (p : List α) : List (List α) :=
  match segments p with
  | [] => []
  | first :: tail => parentsOf first tail.reverse

/-- The path without its last component; the empty path and the root have no parent. -/
def parent? (p : List α) : Option (List α) :=
  (parents p).head?

/-- The folder part of a path, if there is one to name. -/
def folder? (p : List α) : Option (List α) :=
  (parent? p).filter fun dir => !dir.isEmpty

/-- The name of the entry that a path ends in. -/
def fileName? (p : List α) : Option (List α) :=
  match (components p).getLast? with
  | some (.normal name) => some name
  | _ => none

/-- What stands behind the last dot of a name, if something stands in front of that dot. -/
def extensionOf? (name : List α) : Option (List α) :=
  match name.reverse.dropWhile (fun c => c != PathUnit.dot) with
  | _ :: _ :: _ => some (name.reverse.takeWhile fun c => c != PathUnit.dot).reverse
  | _ => none

/-- The extension of the entry that a path ends in. -/
def extension? (p : List α) : Option (List α) :=
  (fileName? p).bind extensionOf?

/-- A path seen from a root folder: relative paths start there, if a root is given. -/
def resolve (root? : Option (List α)) (p : List α) : List α :=
  match root? with
  | some root => if isAbsolute p then p else join root p
  | none => p

end Path

end Scss
