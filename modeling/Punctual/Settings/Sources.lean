import Punctual.Binary64.Reader
import Punctual.Json.Reader
import Punctual.Settings.Conversion
import Punctual.Settings.Layer
import Punctual.Toml.Reader

/-!
Where settings come from: built-in values, a file at a usual place, a file that is named, and
variables of the environment, each a layer over those before it.

The reader of configuration files is not part of the program, and is given to what loads settings. Of the
formats that it knows two are written out here; for files in others it stands for itself.
-/
namespace Punctual

/-- Texts of files, by name. -/
abbrev Files := List (String × String)

namespace Settings

/-- The values that are built in. -/
def builtIn : Layer := [(["log_level"], .str initial.logLevel),
  (["shutdown_timeout_secs"], .int initial.shutdownSeconds)]

/-! ## Places -/

/-- The character may stand in a name on a path. -/
def isNameChar (c : Char) : Bool := c.isAlphanum || c = ' ' || c = '_' || c = '-'

/-- The parts of a text between points. -/
def splitPoints : List Char → List (List Char)
  | [] => [[]]
  | '.' :: rest => [] :: splitPoints rest
  | c :: rest =>
    match splitPoints rest with
    | part :: parts => (c :: part) :: parts
    | [] => [[c]]

/-- The names that a key with points leads through. A key that is no such path is one name. -/
def pathOf (key : String) : List String :=
  let parts := splitPoints key.toList
  if parts.all fun part => !part.isEmpty && part.all isNameChar then parts.map String.ofList
  else [key]

/-- The layer of a table. -/
def layerOf (fields : List (String × Json)) : Layer :=
  fields.map fun (key, value) => (pathOf key, value)

/-! ## Files -/

/-- The formats that are written out here. -/
inductive FileFormat
  | toml | json
deriving DecidableEq, Repr

namespace FileFormat

/-- How names of files in the format end. -/
def ending : FileFormat → String
  | toml => ".toml"
  | json => ".json"

/-- All formats, in the order in which endings are tried. -/
def all : List FileFormat := [toml, json]

/-- The format that the end of a file's name tells; there must be a name before it. -/
def ofName? (name : String) : Option FileFormat :=
  let file := (name.toList.reverse.takeWhile (· ≠ '/')).reverse
  all.find? fun format =>
    format.ending.toList.isSuffixOf file && format.ending.length < file.length

end FileFormat

mutual

/-- With whole numbers that 64 bits with a sign do not hold made floating. -/
def narrow : Json → Json
  | .int n => if (toInt64? n).isSome then .int n else .real (Binary64.ofInt n)
  | .arr items => .arr (narrowItems items)
  | .obj fields => .obj (narrowFields fields)
  | .null => .null
  | .bool b => .bool b
  | .real x => .real x
  | .str s => .str s

/-- Does so with every item. -/
def narrowItems : List Json → List Json
  | [] => []
  | item :: rest => narrow item :: narrowItems rest

/-- Does so with the value of every field. -/
def narrowFields : List (String × Json) → List (String × Json)
  | [] => []
  | (name, value) :: rest => (name, narrow value) :: narrowFields rest

end

/-- The layer that a file's text spells: a table at the outermost level. -/
def layerOfText? (format : FileFormat) (text : String) : Option Layer := do
  let text := match text.toList with
    | '\uFEFF' :: rest => String.ofList rest
    | _ => text
  let j ← match format with
    | .toml => Toml.ofText? text
    | .json => Json.ofText? text
  match narrow j.canonical with
  | .obj fields => some (layerOf fields)
  | _ => none

/-- The file of a name. One that is not there under the very name may have an ending more. -/
def findFile? (files : Files) (name : String) : Option (FileFormat × String) :=
  match files.lookup name with
  | some text => (FileFormat.ofName? name).map (·, text)
  | none => FileFormat.all.findSome? fun format =>
      (files.lookup (name ++ format.ending)).map (format, ·)

/-- The files among which a name's is found. -/
def candidates (name : String) : List String := name :: FileFormat.all.map (name ++ ·.ending)

/-- What a reader of configuration files makes of a name: nothing if it finds no file, and else the layer
that the file's text spells, if it spells one. -/
abbrev FileReader := Files → String → Option (Option Layer)

/-- The reader as far as files of the two formats go. -/
def tomlOrJson : FileReader := fun files name =>
  (findFile? files name).map fun (format, text) => layerOfText? format text

/-- The layer of a file that need not be there. -/
def optionalLayer? (reader : FileReader) (files : Files) (name : String) : Option Layer :=
  match reader files name with
  | some layer? => layer?
  | none => some []

/-- The layer of a file that must be there. -/
def requiredLayer? (reader : FileReader) (files : Files) (name : String) : Option Layer :=
  (reader files name).join

/-! ## Environment -/

/-- Two underscores stand for the point of a path. -/
def withPoints : List Char → List Char
  | '_' :: '_' :: rest => '.' :: withPoints rest
  | c :: rest => c :: withPoints rest
  | [] => []

/-- The value of a variable: a truth value, a number, or else a text. -/
def variableValue (text : String) : Json :=
  match Text.lowerCase text with
  | "true" => .bool true
  | "false" => .bool false
  | _ =>
    match (Numeral.signed? text.toList).bind toInt64? with
    | some n => .int n
    | none =>
      match Binary64.ofText? text.toList with
      | some x => .real x
      | none => .str text

/-- What a variable's name must begin with, in any case. -/
def variableStart : List Char := "timer_".toList

/-- The place and value that a variable sets, if it is one of the program's. -/
def placed? (name value : String) : Option (List String × Json) :=
  let name := (Text.lowerCase name).toList
  if variableStart.isPrefixOf name then
    let key := withPoints (name.drop variableStart.length)
    some (pathOf (String.ofList key), variableValue value)
  else none

/-- The layer of the variables that are the program's. -/
def environmentLayer (environment : List (String × String)) : Layer :=
  environment.filterMap fun (name, value) => placed? name value

/-! ## Loading -/

/-- The layers that make up settings, if they can be read. -/
def layers? (reader : FileReader) (files : Files) (usual : String) (named? : Option String)
    (environment : List (String × String)) : Option (List Layer) := do
  let file ← optionalLayer? reader files usual
  let named ← match named? with
    | some name => requiredLayer? reader files name
    | none => some []
  return [builtIn, file, named, environmentLayer environment]

/-- The operation `load_from`: loads settings with a reader of configuration files. A scheduler's
configuration that cannot be used is refused. -/
def loadWith (reader : FileReader) (files : Files) (usual : String) (named? : Option String)
    (environment : List (String × String)) : Except ConfigFault Settings :=
  match (layers? reader files usual named? environment).bind fun layers => ofAny? (resolve layers) with
  | none => .error .unreadable
  | some settings => settings.scheduler.validate.map fun _ => settings

/-- Loads settings from files of the two formats. -/
def load : Files → String → Option String → List (String × String) → Except ConfigFault Settings :=
  loadWith tomlOrJson

end Settings

end Punctual
