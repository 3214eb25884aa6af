import Scss.Command.Arguments

/-!
# Command lines

The command line has three commands, each with operands and options of its own, and options in front
of the command that hold for all of them.

* `Command`: the commands with what was said about them.
* `Invocation`: a command with the options in front of it.
* `Invocation.parse`: the invocation that a command line spells.
-/

namespace Scss

/-- The options of the command line. -/
inductive Setting where
  /-- The configuration file. -/
  | config
  /-- More notes. -/
  | verbose
  /-- The version of the program. -/
  | version
  /-- How the program is used. -/
  | help
  /-- The output folder. -/
  | output
  /-- A variable with its value. -/
  | define
  /-- Whether the course of each compilation is reported. -/
  | debug
  /-- Whether figures are shown. -/
  | stats
  /-- Whether the inputs are watched. -/
  | watch
  /-- Whether folders inside the input count. -/
  | recursive
  /-- Whether undefined variables are an error. -/
  | strict
deriving DecidableEq

/-- What a build was told. -/
structure BuildCommand where
  inputs : List Text
  output : Option Text
  definitions : List Text
  debug : Bool
  stats : Bool
  watch : Bool

/-- What a check was told. -/
structure CheckCommand where
  input : Text
  recursive : Bool
  definitions : List Text
  strict : Bool

/-- What was told when a result is to be shown. -/
structure DebugCommand where
  input : Text
  definitions : List Text

/-- A command. -/
inductive Command where
  /-- Compiles stylesheets and writes their css. -/
  | build (c : BuildCommand)
  /-- Looks for missing imports and undefined variables. -/
  | check (c : CheckCommand)
  /-- Shows the result of a compilation. -/
  | debug (c : DebugCommand)

/-- A command line. -/
structure Invocation where
  /-- How often more notes were asked for. -/
  verbosity : Nat
  /-- The path of the configuration file. -/
  config : Option Text
  /-- The command, if one was given. -/
  command : Option Command

namespace Invocation

/-- The option that asks for help, which every command has. -/
def helpSwitch : Switch Setting := ⟨.help, some 'h', "help".toList, .final⟩

/-- The option that defines a variable, which every command has. -/
def defineSwitch : Switch Setting := ⟨.define, some 'D', "define".toList, .repeated⟩

/-- The options in front of a command. -/
def frontSwitches : List (Switch Setting) :=
  [⟨.config, some 'c', "config".toList, .single⟩,
   ⟨.verbose, some 'v', "verbose".toList, .counter⟩,
   ⟨.version, some 'V', "version".toList, .final⟩,
   helpSwitch]

/-- The options of a build. -/
def buildSwitches : List (Switch Setting) :=
  [⟨.output, some 'o', "output".toList, .single⟩,
   defineSwitch,
   ⟨.debug, some 'd', "debug".toList, .flag⟩,
   ⟨.stats, none, "stats".toList, .flag⟩,
   ⟨.watch, some 'w', "watch".toList, .flag⟩,
   helpSwitch]

/-- The options of a check. -/
def checkSwitches : List (Switch Setting) :=
  [⟨.recursive, some 'r', "recursive".toList, .flag⟩,
   defineSwitch,
   ⟨.strict, none, "strict".toList, .flag⟩,
   helpSwitch]

/-- The options for showing a result. -/
def debugSwitches : List (Switch Setting) :=
  [defineSwitch, helpSwitch]

/-- The only operand. -/
def single (operands : List Text) : Except (Halt Setting) Text :=
  match operands with
  | [] => .error (.wrong .missingOperand)
  | [input] => .ok input
  | _ :: extra :: _ => .error (.wrong (.unexpectedOperand extra))

/-- What is said about a build. -/
def parseBuild (args : List Text) : Except (Halt Setting) Command := do
  let a ← Arguments.read buildSwitches args
  if a.operands.isEmpty then .error (.wrong .missingOperand)
  else
    return .build {
      inputs := a.operands
      output := a.value? .output
      definitions := a.values .define
      debug := a.has .debug
      stats := a.has .stats
      watch := a.has .watch }

/-- What is said about a check. -/
def parseCheck (args : List Text) : Except (Halt Setting) Command := do
  let a ← Arguments.read checkSwitches args
  return .check {
    input := ← single a.operands
    recursive := a.has .recursive
    definitions := a.values .define
    strict := a.has .strict }

/-- What is said about showing a result. -/
def parseDebug (args : List Text) : Except (Halt Setting) Command := do
  let a ← Arguments.read debugSwitches args
  return .debug { input := ← single a.operands, definitions := a.values .define }

/-- The command of a name with its arguments. -/
def parseCommand (name : Text) (args : List Text) : Except (Halt Setting) Command :=
  if name = "build".toList then parseBuild args
  else if name = "check".toList then parseCheck args
  else if name = "debug".toList then parseDebug args
  else if name = "help".toList then .error (.final .help)
  else .error (.wrong (.unexpectedOperand name))

/-- The command in what is left behind the options in front of it. Where two hyphens ended these,
there can be no command. -/
def commandOf (operands rest : List Text) : Except (Halt Setting) (Option Command) :=
  match operands, rest with
  | operand :: _, _ => .error (.wrong (.unexpectedOperand operand))
  | [], [] => .ok none
  | [], name :: args => (parseCommand name args).map some

/-- The invocation that a command line spells. -/
def parse (args : List Text) : Except (Halt Setting) Invocation := do
  let (a, rest) ← Arguments.readFront frontSwitches args
  return {
    verbosity := a.count .verbose
    config := a.value? .config
    command := ← commandOf a.operands rest }

end Invocation

end Scss
