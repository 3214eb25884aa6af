import Scss.Options

/-!
# Notes

While it works, the program notes what it does. Each note has a level, and how many are shown depends
on the level asked for.

* `Note`: the notes, `Note.level` and `Note.text` their level and text, `Note.line` how they are
  printed.
* `Level.covers`: which notes are shown at a level.
-/

namespace Scss

/-- How much a note matters, from most to least. -/
inductive Level where
  | warn
  | info
  | debug
  | trace
deriving DecidableEq

namespace Level

/-- The place of a level, from the one that matters most. -/
def rank : Level → Nat
  | warn => 0
  | info => 1
  | debug => 2
  | trace => 3

/-- The name of a level. -/
def title : Level → String
  | warn => "WARN"
  | info => "INFO"
  | debug => "DEBUG"
  | trace => "TRACE"

/-- The level that is shown when more output was asked for this many times. -/
def ofCount : Nat → Level
  | 0 => warn
  | 1 => info
  | 2 => debug
  | _ => trace

/-- Whether notes of level `l` are shown when `shown` is asked for. -/
def covers (shown l : Level) : Bool :=
  l.rank ≤ shown.rank

end Level

/-- Something that the program noted. -/
inductive Note where
  /-- A declaration was found. -/
  | declared (b : Binding)
  /-- A variable that had a value got another one. -/
  | redeclared (name previous : Text)
  /-- A variable is being replaced by its value. -/
  | substituting (b : Binding)
  /-- A variable is mentioned and not declared. -/
  | undefined (name : Text)
  /-- A partial is not bundled. -/
  | skippingPartial (path : Text)
  /-- A stylesheet that exists cannot be read. -/
  | unreadable (path : Text) (cause : Failure)
  /-- An imported stylesheet is being looked for. -/
  | validating (name path : Text)
  /-- A stylesheet was compiled. -/
  | compiled (path output : Text)
  /-- A file is being read. -/
  | reading (path : Text)
  /-- The program starts on a file. -/
  | banner
  /-- A file is being compiled. -/
  | compiling (path : Text)
  /-- The options of a compilation. -/
  | options (o : Options)
  /-- A partial was to be compiled. -/
  | nothingToEmit (path : Text)
  /-- A file was written. -/
  | wrote (path : Text)
  /-- The size of a source. -/
  | sourceSize (bytes : Nat)
  /-- The size of the css. -/
  | outputSize (bytes : Nat)
  /-- The time that a compilation took. -/
  | compileTime (ms : Nat)
  /-- The figures of a compilation. -/
  | stats (s : Stats)
  /-- A configuration file was read. -/
  | configLoaded (path : Text)
  /-- A partial lies among the inputs. -/
  | partialFound (path : Text)
  /-- A partial is not checked. -/
  | partialUnchecked (path : Text)
  /-- The command came to its end. -/
  | finished (ms : Nat)

namespace Note

/-- The level of a note. -/
def level : Note → Level
  | redeclared .. | undefined _ | unreadable .. => .warn
  | banner | compiling _ | nothingToEmit _ | wrote _ | sourceSize _ | outputSize _
  | compileTime _ | configLoaded _ => .info
  | declared _ | skippingPartial _ | validating .. | compiled .. | options _ | stats _
  | partialUnchecked _ | finished _ => .debug
  | substituting _ | reading _ | partialFound _ => .trace

/-- The text of a note. -/
def text (w : Wording) : Note → String
  | declared b => "Declared " ++ b.name.str ++ " = '" ++ b.value.str ++ "'"
  | redeclared name previous =>
    "Variable '" ++ name.str ++ "' redeclared, previous value '" ++ previous.str ++ "' discarded"
  | substituting b => "Substituting " ++ b.name.str ++ " -> '" ++ b.value.str ++ "'"
  | undefined name => "Variable '" ++ name.str ++ "' used but not defined"
  | skippingPartial path => "Skipping partial '" ++ path.str ++ "'"
  | unreadable path cause => "Failed to read '" ++ path.str ++ "': " ++ cause.text
  | validating name path => "Validating import '" ++ name.str ++ "' (" ++ path.str ++ ")"
  | compiled path output => "Compiled '" ++ path.str ++ "' -> '" ++ output.str ++ "'"
  | reading path => "Reading " ++ path.str
  | banner => programName ++ " v" ++ programVersion
  | compiling path => "Compiling '" ++ path.str ++ "'..."
  | options o => "Compiler options: " ++ o.describe
  | nothingToEmit path => "'" ++ path.str ++ "' is a partial, nothing to emit"
  | wrote path => "Wrote " ++ path.str
  | sourceSize bytes => "Source size: " ++ toString bytes ++ " bytes"
  | outputSize bytes => "Output size: " ++ toString bytes ++ " bytes"
  | compileTime ms => "Compile time: " ++ w.time ms ++ "ms"
  | stats s => "Full stats: " ++ s.describe w
  | configLoaded path => "Loaded configuration from " ++ path.str
  | partialFound path => "Found partial " ++ path.str
  | partialUnchecked path => "Skipping partial " ++ path.str
  | finished ms => "Finished in " ++ w.time ms ++ "ms"

/-- The text with four spaces behind every line end in it. -/
def indented (text : String) : String :=
  String.join (text.toList.map fun c => if c == '\n' then "\n    " else String.singleton c)

/-- A note as it is printed: its level in brackets and its text. Where the text has several lines,
those behind the first are indented, so that they cannot be taken for other notes. -/
def line (w : Wording) (n : Note) : String :=
  "[" ++ n.level.title ++ "] " ++ indented (n.text w) ++ "\n"

end Note

end Scss
