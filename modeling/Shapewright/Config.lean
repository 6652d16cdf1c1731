import Shapewright.Files
import Shapewright.OrderedMap
import Shapewright.Yaml.Value

/-!
# Configurations

Options of a run by key. A configuration file is a YAML document, and its sections are flattened: the
option `b` of the section `a` has the key `a.b`.

* `Config.string`, `Config.flag` — reading an option.
* `Config.set`, `Config.setAll` — options from arguments.
* `Config.load` — options from a file.
-/

set_option autoImplicit false

namespace Shapewright

/-- Options by key. -/
structure Config where
  options : OrderedMap Json := {}
  deriving Repr

namespace Config

/-- Sets an option. -/
def insert (c : Config) (key : String) (v : Json) : Config := ⟨c.options.insert key v⟩

/-- The options of a list of keys with values. -/
def ofList (options : List (String × Json)) : Config :=
  options.foldl (fun c (key, v) => c.insert key v) {}

/-- All options, sorted by key. -/
def toList (c : Config) : List (String × Json) := Json.sortFields c.options.toList

/-- A text option; anything else counts as empty. -/
def string (c : Config) (key : String) : String :=
  match c.options.get? key with
  | some (.string s) => s
  | _ => ""

/-- An option that is on or off: it is on with any value but false and null. -/
def flag (c : Config) (key : String) : Bool :=
  match c.options.get? key with
  | none | some .null | some (.bool false) => false
  | _ => true

/-! ## Arguments -/

/-- The value that an argument gives an option. -/
def argumentValue : String → Json
  | "true" => .bool true
  | "false" => .bool false
  | s => .string s

/-- Sets an option as an argument `key=value` says; a key alone switches the option on. -/
def set (c : Config) (argument : String) : Config :=
  match Text.cut '=' argument with
  | some (key, value) => c.insert key (argumentValue value)
  | none => c.insert argument (.bool true)

/-- Sets options as arguments say, the last one winning. -/
def setAll (c : Config) (arguments : List String) : Config := arguments.foldl set c

/-! ## Files -/

/-- A key below a section. -/
def keyIn (path key : String) : String := if path == "" then key else path ++ "." ++ key

mutual

/-- The options of a value: those of a section have its key in front of their own. -/
def flatten (path : String) : Json → List (String × Json)
  | .object fields => flattenFields path fields
  | v => [(path, v)]

/-- The options of a section. -/
def flattenFields (path : String) : List (String × Json) → List (String × Json)
  | [] => []
  | (key, v) :: rest => flatten (keyIn path key) v ++ flattenFields path rest

end

/-- The options that a text gives: its document has to be a mapping, or empty. -/
def ofText? (text : String) : Option Config := do
  match ← Yaml.read? text with
  | .object fields => return ofList (flatten "" (Json.object fields).canonical)
  | .null => return {}
  | _ => none

/-- The options of a file; without a path there are none. -/
def load (files : Files) (path : String) : Outcome Config :=
  if path == "" then .ok {}
  else do
    let text ← (files.read path).at_ .configFile
    match ofText? text with
    | some c => return c
    | none => throw (.malformedConfig path)

end Config
end Shapewright
