import Scss.Text.Basic

/-!
# Reading arguments

The general part of reading a command line. Arguments are options or operands; an option has a long
name, written behind two hyphens, and often a letter, written behind one. Letters can be written
together, and the value of an option can stand behind it in the same argument or be the next one.
Two hyphens alone end the options. Arguments are read from left to right, and the first fault counts.

* `Switch`: an option with its spellings and its kind.
* `Arguments.read`: the options and operands in a list of arguments.
-/

namespace Scss

/-- What an option takes and how often it can be given. -/
inductive Kind where
  /-- No value, once. -/
  | flag
  /-- No value, any number of times. -/
  | counter
  /-- A value, once. -/
  | single
  /-- A value, any number of times. -/
  | repeated
  /-- No value; it answers the whole command line. -/
  | final
deriving DecidableEq

/-- Whether an option of a kind takes a value. -/
def Kind.takesValue : Kind → Bool
  | single | repeated => true
  | flag | counter | final => false

/-- Whether an option of a kind can be given once only. -/
def Kind.isOnce : Kind → Bool
  | flag | single => true
  | counter | repeated | final => false

/-- An option with its spellings. -/
structure Switch (σ : Type) where
  /-- What it sets. -/
  setting : σ
  /-- Its letter, if it has one. -/
  letter : Option Char
  /-- Its long name. -/
  name : Text
  /-- Its kind. -/
  kind : Kind

/-- What is wrong with a command line. -/
inductive UsageError where
  /-- No option has this name or letter. -/
  | unknownOption (given : Text)
  /-- An option lacks its value. -/
  | missingValue (name : Text)
  /-- An option that takes no value has one. -/
  | unexpectedValue (name : Text)
  /-- An option is given more than once. -/
  | repeated (name : Text)
  /-- There is no use for an operand. -/
  | unexpectedOperand (given : Text)
  /-- The operand of a command is missing. -/
  | missingOperand
deriving DecidableEq

/-- Why a command line is not read to its end. -/
inductive Halt (σ : Type) where
  /-- It is wrong. -/
  | wrong (error : UsageError)
  /-- An option answers it. -/
  | final (setting : σ)

/-- The options and operands of a command line. -/
structure Arguments (σ : Type) where
  /-- The options in order, with their values. -/
  given : List (σ × Text) := []
  /-- The operands in order. -/
  operands : List Text := []

namespace Arguments

variable {σ : Type} [DecidableEq σ]

/-- Whether an option was given. -/
def has (a : Arguments σ) (s : σ) : Bool :=
  a.given.any fun g => g.1 == s

/-- How often an option was given. -/
def count (a : Arguments σ) (s : σ) : Nat :=
  (a.given.filter fun g => g.1 == s).length

/-- The values of an option, in order. -/
def values (a : Arguments σ) (s : σ) : List Text :=
  (a.given.filter fun g => g.1 == s).map fun g => g.2

/-- The value of an option. -/
def value? (a : Arguments σ) (s : σ) : Option Text :=
  (a.values s).head?

/-- Adds an option with its value. -/
def add (a : Arguments σ) (switch : Switch σ) (value : Text) : Except (Halt σ) (Arguments σ) :=
  if switch.kind = .final then .error (.final switch.setting)
  else if switch.kind.isOnce && a.has switch.setting then .error (.wrong (.repeated switch.name))
  else .ok { a with given := a.given ++ [(switch.setting, value)] }

/-- Adds an operand. -/
def addOperand (a : Arguments σ) (operand : Text) : Arguments σ :=
  { a with operands := a.operands ++ [operand] }

/-- The arguments read so far, and the option that waits for its value. -/
abbrev Progress (σ : Type) := Arguments σ × Option (Switch σ)

/-- The argument that ends the options. -/
def endMark : Text := ['-', '-']

/-- Whether an argument is written like an option: it starts with a hyphen and is not that hyphen
alone. -/
def isOption : Text → Bool
  | '-' :: _ :: _ => true
  | _ => false

/-- Reads an option by its long name, with its value behind an equals sign if it has one there. -/
def readLong (switches : List (Switch σ)) (a : Arguments σ) (body : Text) :
    Except (Halt σ) (Progress σ) :=
  let name := body.takeWhile fun c => c != '='
  match switches.find? fun s => s.name == name with
  | none => .error (.wrong (.unknownOption name))
  | some switch =>
    match body.dropWhile fun c => c != '=' with
    | _ :: value =>
      if switch.kind.takesValue then (a.add switch value).map fun a' => (a', none)
      else .error (.wrong (.unexpectedValue name))
    | [] =>
      if switch.kind.takesValue then .ok (a, some switch)
      else (a.add switch []).map fun a' => (a', none)

/-- What stands behind the letter of an option as its value: an equals sign in front of it does not
belong to it. -/
def attached : Text → Text
  | '=' :: value => value
  | value => value

/-- Reads options by their letters, the last of which may have its value behind it. -/
def readLetters (switches : List (Switch σ)) (a : Arguments σ) :
    Text → Except (Halt σ) (Progress σ)
  | [] => .ok (a, none)
  | c :: rest =>
    match switches.find? fun s => s.letter == some c with
    | none => .error (.wrong (.unknownOption [c]))
    | some switch =>
      if switch.kind.takesValue then
        if rest.isEmpty then .ok (a, some switch)
        else (a.add switch (attached rest)).map fun a' => (a', none)
      else
        match a.add switch [] with
        | .ok a' => readLetters switches a' rest
        | .error halt => .error halt

/-- Reads an argument that is written like an option. -/
def readOption (switches : List (Switch σ)) (a : Arguments σ) (arg : Text) :
    Except (Halt σ) (Progress σ) :=
  match Text.after? endMark arg with
  | some body => readLong switches a body
  | none => readLetters switches a (arg.drop 1)

/-- Reads arguments after `a`, the first of them as the value of the option that waits for one. If
operands are not taken, reading stops at the first one and leaves it with what follows. -/
def readFrom (switches : List (Switch σ)) (takeOperands : Bool) :
    Progress σ → List Text → Except (Halt σ) (Arguments σ × List Text)
  | (_, some switch), [] => .error (.wrong (.missingValue switch.name))
  | (a, none), [] => .ok (a, [])
  | (a, some switch), value :: rest =>
    if isOption value then .error (.wrong (.missingValue switch.name))
    else
      match a.add switch value with
      | .ok a' => readFrom switches takeOperands (a', none) rest
      | .error halt => .error halt
  | (a, none), arg :: rest =>
    if arg = endMark then .ok ({ a with operands := a.operands ++ rest }, [])
    else if isOption arg then
      match readOption switches a arg with
      | .ok progress => readFrom switches takeOperands progress rest
      | .error halt => .error halt
    else if takeOperands then readFrom switches takeOperands (a.addOperand arg, none) rest
    else .ok (a, arg :: rest)

/-- The options and operands in a list of arguments. -/
def read (switches : List (Switch σ)) (args : List Text) : Except (Halt σ) (Arguments σ) :=
  (readFrom switches true ({}, none) args).map fun r => r.1

/-- The options in front of the first operand, and the arguments from there on. -/
def readFront (switches : List (Switch σ)) (args : List Text) :
    Except (Halt σ) (Arguments σ × List Text) :=
  readFrom switches false ({}, none) args

end Arguments

end Scss
