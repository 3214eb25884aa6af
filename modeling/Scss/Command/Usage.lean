import Scss.Wording
import Scss.Command.Basic

/-!
# Usage

How the program is used, and what is said when it is used otherwise.

* `usage`: the summary of commands and options.
* `UsageError.message`: the text of a fault in a command line.
-/

namespace Scss

/-- A summary of the commands and their options. -/
def usage : String :=
  "\n".intercalate
    [programPurpose,
     "",
     "Usage: " ++ programName ++ " [OPTIONS] [COMMAND]",
     "",
     "Commands:",
     "  build  Compile SCSS files or directories to CSS",
     "  check  Check SCSS files for missing imports and undefined variables",
     "  debug  Print the compile result of a SCSS file as JSON",
     "  help   Print this message",
     "",
     "Options:",
     "  -c, --config <FILE>  Configuration file path (.toml or .json)",
     "  -v, --verbose...     Increase verbosity (can be used multiple times)",
     "  -h, --help           Print help",
     "  -V, --version        Print version",
     "",
     "Options of build:",
     "  -o, --output <DIR>          Output directory",
     "  -D, --define <VAR=VALUE>    Define custom variable",
     "  -d, --debug                 Log each compilation step",
     "      --stats                 Show compilation statistics",
     "  -w, --watch                 Watch for file changes and recompile",
     "",
     "Options of check:",
     "  -r, --recursive             Check all SCSS files in directory recursively",
     "  -D, --define <VAR=VALUE>    Define custom variable",
     "      --strict                Fail on undefined variables",
     "",
     "Options of debug:",
     "  -D, --define <VAR=VALUE>    Define custom variable",
     ""]

/-- The text of a fault in a command line. -/
def UsageError.message : UsageError → String
  | unknownOption given => "unexpected option '" ++ given.str ++ "'"
  | missingValue name => "a value is required for '" ++ name.str ++ "'"
  | unexpectedValue name => "unexpected value for '" ++ name.str ++ "'"
  | repeated name => "the option '" ++ name.str ++ "' cannot be used multiple times"
  | unexpectedOperand given => "unexpected argument '" ++ given.str ++ "'"
  | missingOperand => "an input is required"

end Scss
