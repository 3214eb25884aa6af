import Scss.Text.Reader

/-!
# TOML documents

A document is a table, and its lines build it up: a header opens a table or appends one to an array
of tables, and a line with a key puts an item into the table that was opened last. A table may come
into being on the way to another one; how it did decides what may still be added to it.

* `Toml.Item`: what a key can stand for.
* `Toml.descend`: an edit of the table that a path of keys leads to.
* `Toml.insert?`, `Toml.open?`, `Toml.append?`: the three kinds of lines.
-/

namespace Scss.Toml

/-- How a table came into being. -/
inductive Origin where
  /-- It has a header of its own, or is the document itself. -/
  | header
  /-- A header names a table inside it. -/
  | implied
  /-- A dotted key leads through it. -/
  | dotted
deriving DecidableEq

/-- What a key can stand for. -/
inductive Item where
  | string (text : Text)
  | integer (n : Int)
  /-- A number with a fraction or an exponent, or one of the two special ones, as it is spelled. -/
  | float (spelled : Text)
  | bool (b : Bool)
  /-- A date, a time or both, in the standard spelling. -/
  | date (written : Text)
  | array (items : List Item)
  /-- A table between braces, to which nothing can be added. -/
  | inline (entries : List (Text × Item))
  /-- A table of several lines. -/
  | table (origin : Origin) (entries : List (Text × Item))
  /-- An array of tables: those before the last one, and the last. -/
  | tables (earlier : List (List (Text × Item))) (latest : List (Text × Item))

/-- The entries of a table, in the order they were made. -/
abbrev Table := List (Text × Item)

/-- The entries with another item under a key that is there. -/
def replace (key : Text) (item : Item) (t : Table) : Table :=
  t.map fun e => if e.1 = key then (key, item) else e

/-- Edits the table that a path of keys leads to. Tables that are missing on the way are made; an
array of tables leads on to its last one. A dotted path does not lead through a table with a header
of its own. -/
def descend (byDots : Bool) (edit : Origin → Table → Option Table) :
    List Text → Origin → Table → Option Table
  | [], origin, t => edit origin t
  | key :: path, _, t =>
    match t.lookup key with
    | none =>
      let origin := if byDots then Origin.dotted else .implied
      (descend byDots edit path origin []).map fun inner => t ++ [(key, .table origin inner)]
    | some (.table origin inner) =>
      if byDots && origin == .header then none
      else
        (descend byDots edit path origin inner).map fun inner' =>
          replace key (.table origin inner') t
    | some (.tables earlier latest) =>
      (descend byDots edit path .header latest).map fun latest' =>
        replace key (.tables earlier latest') t
    | some _ => none

/-- Puts an item under a dotted key, which must be new. The table that the dots lead to must have
been made by dots only. -/
def insert? (path : List Text) (key : Text) (item : Item) (origin : Origin) (t : Table) :
    Option Table :=
  descend true
    (fun origin t =>
      if (origin == .dotted) == path.isEmpty then none
      else if (t.lookup key).isSome then none
      else some (t ++ [(key, item)]))
    path origin t

/-- Opens a table: a new one, or one that a header inside it has implied. -/
def open? (path : List Text) (key : Text) (t : Table) : Option Table :=
  descend false
    (fun _ t =>
      match t.lookup key with
      | none => some (t ++ [(key, .table .header [])])
      | some (.table .implied inner) => some (replace key (.table .header inner) t)
      | some _ => none)
    path .header t

/-- Appends a table to an array of tables, which may be new. -/
def append? (path : List Text) (key : Text) (t : Table) : Option Table :=
  descend false
    (fun _ t =>
      match t.lookup key with
      | none => some (t ++ [(key, .tables [] [])])
      | some (.tables earlier latest) => some (replace key (.tables (earlier ++ [latest]) []) t)
      | some _ => none)
    path .header t

/-- A line of a document that says something. -/
inductive Line where
  /-- A header in single brackets. -/
  | header (path : List Text) (key : Text)
  /-- A header in double brackets. -/
  | element (path : List Text) (key : Text)
  /-- A key and its item. -/
  | entry (path : List Text) (key : Text) (item : Item)

/-- A document as far as it was read: its entries and the path of the table that is open. -/
structure Document where
  root : Table := []
  current : List Text := []

/-- The document with one more line. -/
def Document.add? (d : Document) : Line → Option Document
  | .header path key => (open? path key d.root).map fun root => ⟨root, path ++ [key]⟩
  | .element path key => (append? path key d.root).map fun root => ⟨root, path ++ [key]⟩
  | .entry path key item =>
    (descend false (insert? path key item) d.current .header d.root).map fun root =>
      { d with root }

/-- The entries of the document that consists of these lines. -/
def ofLines? (lines : List Line) : Option Table :=
  (lines.foldlM Document.add? {}).map fun d => d.root

/-- The table between braces with these keys and items. -/
def inlineOf? (entries : List (List Text × Text × Item)) : Option Item :=
  (entries.foldlM (fun t e => insert? e.1 e.2.1 e.2.2 .header t) []).map .inline

end Scss.Toml
