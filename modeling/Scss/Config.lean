import Scss.Error
import Scss.Json.Parser
import Scss.Scope
import Scss.Toml.Parser

/-!
# Configuration files

A configuration file gives the output folder, definitions of variables and whether undefined
variables are an error, each of which may be left out. It is written in JSON or in TOML, and its
extension tells which. Fields of other names are passed over.

* `Config.ofJson?`, `Config.ofToml?`: the settings in a parsed file.
* `Config.parse`: the settings in the text of a file.
-/

namespace Scss

/-- The settings in a configuration file. -/
structure Config where
  /-- The folder for the output. -/
  outputFolder : Option Text := none
  /-- Variables defined from outside. -/
  definitions : Option Scope := none
  /-- Whether undefined variables are an error. -/
  failOnUndefined : Option Bool := none

namespace Config

/-- The name of the field for the output folder. -/
def outputField : Text := "output_directory".toList

/-- The name of the field for the definitions. -/
def definitionsField : Text := "custom_variables".toList

/-- The name of the field that makes undefined variables an error. -/
def strictField : Text := "fail_on_undefined".toList

/-- A field of JSON that may be null, read by `f` otherwise. -/
def nullable {α : Type} (f : Json → Option α) : Json → Option (Option α)
  | .null => some none
  | j => (f j).map some

/-- The text of a JSON string. -/
def jsonText? : Json → Option Text
  | .string spelled => Json.decode? spelled
  | _ => none

/-- The truth value of JSON. -/
def jsonBool? : Json → Option Bool
  | .bool b => some b
  | _ => none

/-- The definition in a member of a JSON object. -/
def jsonBinding? (member : Text × Json) : Option Binding := do
  return ⟨← Json.decode? member.1, ← jsonText? member.2⟩

/-- The definitions in a JSON object of strings. The last one of a name counts. -/
def jsonScope? : Json → Option Scope
  | .object members => (members.mapM jsonBinding?).map .ofBindings
  | _ => none

/-- The member of an object under a name that may be given once at most. -/
def once? (name : Text) (members : List (Text × Json)) : Option Json :=
  match members.filter fun e => e.1 == name with
  | [] => some .null
  | [e] => some e.2
  | _ => none

/-- The settings given by the values of the three fields. -/
def ofFields? (output definitions strict : Json) : Option Config := do
  return {
    outputFolder := ← nullable jsonText? output
    definitions := ← nullable jsonScope? definitions
    failOnUndefined := ← nullable jsonBool? strict }

/-- The settings in a JSON value: an object, or an array of the three fields in order. -/
def ofJson? : Json → Option Config
  | .array [output, definitions, strict] => ofFields? output definitions strict
  | .object members => do
    let named ← members.mapM fun e => (Json.decode? e.1).map fun name => (name, e.2)
    ofFields? (← once? outputField named) (← once? definitionsField named)
      (← once? strictField named)
  | _ => none

/-- The text of a TOML string. -/
def tomlText? : Toml.Item → Option Text
  | .string text => some text
  | _ => none

/-- The truth value of TOML. -/
def tomlBool? : Toml.Item → Option Bool
  | .bool b => some b
  | _ => none

/-- The definitions in a table of strings. -/
def tomlEntries? (entries : Toml.Table) : Option Scope :=
  (entries.mapM fun e => (tomlText? e.2).map (Binding.mk e.1)).map .ofBindings

/-- The name under which a date stands for a table with one field. -/
def dateField : Text := "$__toml_private_datetime".toList

/-- The definitions in an item of TOML. A date counts as a table with its text as the only field. -/
def tomlScope? : Toml.Item → Option Scope
  | .table _ entries => tomlEntries? entries
  | .inline entries => tomlEntries? entries
  | .date written => some (.ofBindings [⟨dateField, written⟩])
  | _ => none

/-- A field of a table that may be missing, read by `f` otherwise. -/
def optional {α : Type} (f : Toml.Item → Option α) (name : Text) (t : Toml.Table) :
    Option (Option α) :=
  match t.lookup name with
  | none => some none
  | some item => (f item).map some

/-- The settings in a TOML document. -/
def ofToml? (t : Toml.Table) : Option Config := do
  return {
    outputFolder := ← optional tomlText? outputField t
    definitions := ← optional tomlScope? definitionsField t
    failOnUndefined := ← optional tomlBool? strictField t }

/-- Whether a path ends in the given text. -/
def endsIn (ending path : Text) : Bool :=
  (Text.after? ending.reverse path.reverse).isSome

/-- The format of a configuration file, told by its extension. -/
def formatOf? (path : Text) : Option ConfigFormat :=
  if endsIn ".json".toList path then some .json
  else if endsIn ".toml".toList path then some .toml
  else none

/-- What was found of a file's settings, or why nothing: the text is not of the format, or its fields
are not of the right kind. -/
def settle {α : Type} (format : ConfigFormat) (parsed : Option α) (read : α → Option Config) :
    Except Invalid Config :=
  match parsed with
  | none => .error (.configMalformed format "the text is not well-formed")
  | some a =>
    match read a with
    | none => .error (.configMalformed format "a field is repeated or of the wrong type")
    | some config => .ok config

/-- The settings in the text of a file at a path. -/
def parse (path text : Text) : Except Invalid Config :=
  match formatOf? path with
  | some .json => settle .json (Json.parse? text) ofJson?
  | some .toml => settle .toml (Toml.parse? text) ofToml?
  | none => .error .configExtension

end Config

end Scss
