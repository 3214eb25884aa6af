import Scss.Failure
import Scss.Naming
import Scss.Wording

/-!
# Errors

Every way in which a command can fail is a cause of its own; the wording is in one function for each
type.

* `BundleError`: a stylesheet or one of its imports cannot be had.
* `Invalid`: something that was given has the wrong form.
* `Error`: any failure, and `Error.message` its text.
-/

namespace Scss

/-- Why a stylesheet cannot be bundled. -/
inductive BundleError where
  /-- The stylesheet itself is not there, or cannot be read. -/
  | entryMissing (path : Text)
  /-- An imported stylesheet cannot be read. -/
  | importMissing (name : Text) (cause : Failure)
deriving DecidableEq

namespace BundleError

/-- The text of the error. -/
def message : BundleError → String
  | entryMissing path => "'" ++ path.str ++ "' not found."
  | importMissing name _ => "File to import not found: '" ++ name.str ++ "'."

end BundleError

/-- The formats of configuration files. -/
inductive ConfigFormat where
  | json
  | toml
deriving DecidableEq

/-- The name of a format. -/
def ConfigFormat.title : ConfigFormat → String
  | json => "JSON"
  | toml => "TOML"

/-- What was given in a wrong form. -/
inductive Invalid where
  /-- A custom variable whose name is not that of a variable. -/
  | variableName (name : Text)
  /-- A custom variable whose value is empty or would end its declaration. -/
  | variableValue (name value : Text)
  /-- A definition without a name or without an equals sign. -/
  | definition (given : Text)
  /-- An input that would be overwritten by its own output. -/
  | overwritten (path : Text)
  /-- A configuration file that cannot be read. -/
  | configUnreadable (path : Text) (cause : Failure)
  /-- A configuration file that is not what its format or its fields ask for. -/
  | configMalformed (format : ConfigFormat) (detail : String)
  /-- A configuration file of another extension. -/
  | configExtension
  /-- Some of the files that were looked at failed. -/
  | filesFailed (failed total : Nat)
deriving DecidableEq

/-- What is wrong with what was given. -/
def Invalid.text (w : Wording) : Invalid → String
  | variableName name => "Invalid custom variable name '" ++ name.str ++ "'"
  | variableValue name value =>
    "Invalid value for custom variable '" ++ name.str ++ "': '" ++ value.str ++ "'"
  | definition given =>
    "Invalid variable definition: " ++ given.str ++ ". Use VAR=VALUE format."
  | overwritten path =>
    "Output for '" ++ path.str ++ "' would overwrite the input; expected a " ++
      Naming.sourceSuffix.str ++ " file"
  | configUnreadable path cause =>
    "Cannot read config file " ++ path.str ++ ": " ++ cause.text
  | configMalformed format detail => "Invalid " ++ format.title ++ " config: " ++ w.detail detail
  | configExtension => "Config file must be .json or .toml format"
  | filesFailed failed total =>
    toString failed ++ " of " ++ toString total ++ " file(s) failed"

/-- Why a command failed. -/
inductive Error where
  /-- A stylesheet cannot be bundled. -/
  | bundle (cause : BundleError)
  /-- Writing failed. -/
  | io (cause : Failure)
  /-- Something was given in a wrong form. -/
  | invalid (reason : Invalid)
  /-- A path cannot be watched. -/
  | unwatchable (path : Text) (detail : String)
  /-- A stylesheet mentions variables that it does not declare. -/
  | undefined (file : Text) (names : List Text)
  /-- Stylesheets found under an input mention variables that they do not declare. -/
  | undefinedTotal (input : Text) (count : Nat)
deriving DecidableEq

/-- The text of an error. -/
def Error.message (w : Wording) : Error → String
  | bundle cause => cause.message
  | io cause => "IO error: " ++ cause.text
  | invalid reason => "Invalid format: " ++ reason.text w
  | unwatchable path detail =>
    "Watch error: Failed to watch " ++ path.str ++ ": " ++ w.detail detail
  | undefined file names =>
    "Undefined variables in " ++ file.str ++ ": " ++ Text.str (Text.joined [',', ' '] names)
  | undefinedTotal input count =>
    "Undefined variables in " ++ input.str ++ ": " ++ toString count ++ " undefined variable(s)"

end Scss
