import Scss.Path
import Scss.Text.Raw

/-!
# Trees of files and folders

A folder is a chain of entries, each a file with its bytes or a folder with its own entries. Names are
bytes, which need not be those of a text. Places in a tree are lists of names, from the root down.

* `Folder.at?`: what is found at a place; this is the view in which the other operations are told.
* `Folder.put`: a tree with something put at a place.
* `Folder.walk`: the paths of all entries of a tree, in the order of their names at every level.
-/

namespace Scss

/-- A chain of named entries. -/
inductive Folder where
  /-- No entries. -/
  | empty
  /-- A file and further entries. -/
  | file (name : Raw) (bytes : ByteArray) (rest : Folder)
  /-- A folder and further entries. -/
  | folder (name : Raw) (inside : Folder) (rest : Folder)

/-- What is found at a place of a tree. -/
inductive Node where
  /-- A file with its bytes. -/
  | file (bytes : ByteArray)
  /-- A folder. -/
  | folder (inside : Folder)

/-- A place in a tree: the names on the way from its root. -/
abbrev Place := List Raw

namespace Folder

/-- The entry of a name. -/
def get? (name : Raw) : Folder → Option Node
  | empty => none
  | file n bytes rest => if n = name then some (.file bytes) else get? name rest
  | folder n inside rest => if n = name then some (.folder inside) else get? name rest

/-- What is found at a place. -/
def at? (f : Folder) : Place → Option Node
  | [] => some (.folder f)
  | name :: names =>
    match f.get? name, names with
    | some (.folder inside), _ => inside.at? names
    | some (.file bytes), [] => some (.file bytes)
    | _, _ => none

/-- A single entry in front of others. -/
def cons (name : Raw) (node : Node) (rest : Folder) : Folder :=
  match node with
  | .file bytes => file name bytes rest
  | .folder inside => folder name inside rest

/-- The folder with one entry set, in place of another of the same name or behind all others. -/
def set (name : Raw) (node : Node) : Folder → Folder
  | empty => cons name node empty
  | file n bytes rest => if n = name then cons name node rest else file n bytes (set name node rest)
  | folder n inside rest =>
    if n = name then cons name node rest else folder n inside (set name node rest)

/-- The tree with something put at a place. Where the way there is no chain of folders, nothing
changes. -/
def put (f : Folder) (node : Node) : Place → Folder
  | [] => f
  | [name] => f.set name node
  | name :: names =>
    match f.get? name with
    | some (.folder inside) => f.set name (.folder (inside.put node names))
    | _ => f

/-- The entries of a folder, with their names. -/
def entries : Folder → List (Raw × Node)
  | empty => []
  | file name bytes rest => (name, .file bytes) :: entries rest
  | folder name inside rest => (name, .folder inside) :: entries rest

/-- Entries with what was gathered for each, put in the order of their names and joined. -/
def gather {α : Type} (gathered : List (Raw × List α)) : List α :=
  (gathered.mergeSort fun a b => decide (a.1 ≤ b.1)).flatMap fun e => e.2

/-- For every entry its path, seen from the path `base` of the folder, and if `deep` the paths of the
entries that it holds. -/
def walkEntries (deep : Bool) (base : Raw) : Folder → List (Raw × List Raw)
  | empty => []
  | file name _ rest => (name, [Path.join base name]) :: walkEntries deep base rest
  | folder name inside rest =>
    let path := Path.join base name
    (name, path :: if deep then gather (walkEntries deep path inside) else []) ::
      walkEntries deep base rest

/-- The path `base` of a folder and the paths of its entries: at every level in the order of the names,
what is inside a folder right behind the folder. -/
def walk (deep : Bool) (base : Raw) (f : Folder) : List Raw :=
  base :: gather (f.walkEntries deep base)

/-- An entry in front of others is the one found under its name. -/
theorem get?_cons (name other : Raw) (node : Node) (rest : Folder) :
    (cons name node rest).get? other = if name = other then some node else rest.get? other := by
  cases node <;> rfl

/-- The entry that was set is found under its name, and the others as before. -/
theorem get?_set (f : Folder) (name other : Raw) (node : Node) :
    (f.set name node).get? other = if name = other then some node else f.get? other := by
  induction f with
  | empty => exact get?_cons name other node empty
  | file n bytes rest ih => grind [set, get?, get?_cons]
  | folder n inside rest _ ih => grind [set, get?, get?_cons]

end Folder

end Scss
