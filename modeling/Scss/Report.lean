import Scss.Json.Basic
import Scss.Options
import Scss.Stylesheet

/-!
# Reports

What a command prints for its user, apart from notes. A report is a value; `Report.text` words it and
`Report.channel` says where it goes.

* `Report`: the reports of all commands.
* `Compiled.toJson`: the result of a compilation as a JSON value.
-/

namespace Scss

/-- The result of a compilation as a JSON object. -/
def Compiled.toJson (c : Compiled) : Json :=
  .object
    [(Json.spell "css".toList, .ofText c.css),
     (Json.spell "variables".toList,
       .object (c.scope.bindings.map fun b => (Json.spell b.name, .ofText b.value))),
     (Json.spell "undefined".toList, .array (c.undefined.map .ofText))]

/-- Where a report goes. -/
inductive Channel where
  /-- The regular output. -/
  | output
  /-- The output for errors. -/
  | errors
deriving DecidableEq

/-- Something that a command tells its user. -/
inductive Report where
  /-- The name and version of the program. -/
  | version
  /-- No command was given. -/
  | noCommand
  /-- There is nothing to build. -/
  | noFiles
  /-- A file was built. -/
  | built (file output : Text)
  /-- A variable has no value in a file that was built. -/
  | undefinedIn (file name : Text)
  /-- The figures of a file that was built. -/
  | figures (file : Text) (stats : Stats)
  /-- All files were built. -/
  | builtTotal (count ms : Nat)
  /-- The inputs are being watched. -/
  | watching (inputs : List Text)
  /-- A watched file changed. -/
  | changed
  /-- The first build of watched inputs failed. -/
  | firstBuildFailed (error : Error)
  /-- A later build of watched inputs failed. -/
  | rebuildFailed (error : Error)
  /-- A file that was checked mentions undefined variables. -/
  | checkedUndefined (file : Text) (names : List Text)
  /-- A file that was checked is in order. -/
  | checked (file : Text)
  /-- A file that was checked cannot be bundled. -/
  | checkFailed (file : Text) (error : Error)
  /-- The result of a compilation. -/
  | result (c : Compiled)
  /-- A partial has no result. -/
  | noResult (path : Text)
  /-- The command failed. -/
  | failed (error : Error)

namespace Report

/-- Where a report goes. -/
def channel : Report → Channel
  | checkFailed .. | firstBuildFailed _ | rebuildFailed _ | failed _ => .errors
  | _ => .output

/-- How the failure of a command is told. -/
def failure (w : Wording) : Error → List String
  | .bundle (.importMissing name cause) =>
    ["Bundling failed: " ++ (BundleError.importMissing name cause).message,
     "  caused by: " ++ cause.text]
  | .io cause => ["IO Error: " ++ cause.text]
  | error => ["Compilation failed: " ++ error.message w]

/-- The lines of a report. -/
def lines (w : Wording) : Report → List String
  | version => [programName ++ " " ++ programVersion]
  | noCommand => ["No subcommand specified. Use --help for usage information."]
  | noFiles => ["No .scss files found."]
  | built file output => ["🔨 " ++ file.str ++ " -> " ++ output.str]
  | undefinedIn file name => ["⚠️  " ++ file.str ++ ": " ++ name.str ++ " not defined"]
  | figures file stats =>
    ["📊 " ++ file.str,
     "   Source: " ++ toString stats.sourceSize ++ " bytes",
     "   Output: " ++ toString stats.outputSize ++ " bytes",
     "   Imports: " ++ toString stats.imports,
     "   Variables: " ++ toString stats.declared,
     "   Undefined: " ++ toString stats.undefined.length,
     "   Time: " ++ w.time stats.time ++ "ms"]
  | builtTotal count ms => ["✅ Built " ++ toString count ++ " file(s) in " ++ w.time ms ++ "ms"]
  | watching inputs => ["👀 Watching " ++ Text.str (Text.joined [',', ' '] inputs) ++ " for changes..."]
  | changed => ["🔄 File changed, rebuilding..."]
  | firstBuildFailed error => ["❌ Initial build failed: " ++ error.message w]
  | rebuildFailed error => ["❌ Build failed: " ++ error.message w]
  | checkedUndefined file names =>
    ["⚠️  " ++ file.str ++ ": undefined " ++ Text.str (Text.joined [',', ' '] names)]
  | checked file => ["✅ " ++ file.str]
  | checkFailed file error => ["❌ " ++ file.str ++ ": " ++ error.message w]
  | result c => [c.toJson.pretty.str]
  | noResult path => ["'" ++ path.str ++ "' is a partial and produces no output."]
  | failed error => failure w error

/-- The text of a report, each line ended. -/
def text (w : Wording) (r : Report) : String :=
  String.join ((r.lines w).map (· ++ "\n"))

end Report

end Scss
