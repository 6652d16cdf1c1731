import Shapewright.Command.Flags
import Shapewright.Text.Case

/-!
# Commands

* `Command` — what the program can be asked to do.
* `Command.find` — the command that arguments ask for; the other arguments are its own.
* `Command.similar` — the commands that a wrong name resembles.
-/

set_option autoImplicit false

namespace Shapewright

/-- What the program can be asked to do. -/
inductive Command where
  /-- Generate code or summaries from a model. -/
  | generate
  /-- List the shapes of a model. -/
  | list
  /-- Show how the inputs of operations are bound. -/
  | inputs
  | version
  | help
  | completion
  deriving DecidableEq, Repr

namespace Command

/-- The name of a command. -/
def name : Command → String
  | .generate => "generate"
  | .list => "list"
  | .inputs => "inputs"
  | .version => "version"
  | .help => "help"
  | .completion => "completion"

/-- All commands. -/
def all : List Command := [.generate, .list, .inputs, .version, .help, .completion]

/-- The command with a name. -/
def ofName? (word : String) : Option Command := all.find? fun c => c.name == word

/-- The flags that every command knows. -/
def commonFlags : List Flag :=
  [{ name := "verbose", isSwitch := true },
   { name := "help", letter := some 'h', isSwitch := true }]

/-- The flags that a command knows. -/
def flags : Command → List Flag
  | .generate => commonFlags ++
    [{ name := "generator", letter := some 'g' }, { name := "outdir", letter := some 'o' },
     { name := "force", letter := some 'f', isSwitch := true },
     { name := "sort", isSwitch := true }, { name := "config" },
     { name := "arg", letter := some 'a' }]
  | .inputs => commonFlags ++
    [{ name := "dump", isSwitch := true }, { name := "inline-primitives", isSwitch := true }]
  | _ => commonFlags

/-- Whether a command needs the paths of a model. -/
def needsModel : Command → Bool
  | .generate | .list | .inputs => true
  | _ => false

/-! ## Finding the command -/

/-- Whether an argument in front of the command takes the next one as its value: every flag does
that is not known there to be a switch. -/
def takesNext (argument : String) : Bool :=
  Text.startsWith "-" argument && !Text.hasChar '=' argument && argument != "--verbose"
    && (Text.startsWith "--" argument || argument.utf8ByteSize == 2)

/-- The arguments that are no flags and not their values, as far as they can be told apart. -/
def words : List String → List String
  | [] => []
  | argument :: rest =>
    if argument == "--" then []
    else if takesNext argument then match rest with
      | _ :: next :: more => words (next :: more)
      | _ => []
    else if argument == "" || Text.startsWith "-" argument then words rest
    else argument :: words rest

/-- The arguments without the first one that is the given word and no value of a flag. -/
def without (word : String) : List String → List String
  | [] => []
  | argument :: rest =>
    if argument == "--" then argument :: rest
    else if takesNext argument then match rest with
      | value :: more => argument :: value :: without word more
      | [] => [argument]
    else if argument == word then rest
    else argument :: without word rest

/-! ## Similar names -/

/-- The distances from the letters of a text to the starts of another, after one more letter. -/
def distanceRow (letter : UInt8) : List UInt8 → Nat → Nat → List Nat → List Nat
  | c :: cs, diagonal, left, above :: row =>
    let here := if c == letter then diagonal else 1 + min diagonal (min left above)
    here :: distanceRow letter cs above here row
  | _, _, _, _ => []

/-- How many letters have to be changed, added or taken away to turn one text into another. -/
def distance (a b : List UInt8) : Nat :=
  let start := List.range (b.length + 1)
  let last := a.foldl (fun (row : List Nat) letter => match row with
    | first :: rest => (first + 1) :: distanceRow letter b first (first + 1) rest
    | [] => []) start
  (last.getLast?).getD 0

/-- A text in lower case. -/
def lower (s : String) : String := String.ofList (s.toList.map Text.toLower)

/-- The commands that a wrong name resembles: at most two letters differ, or it is the start of
theirs. -/
def similar (word : String) : List String :=
  ([generate, list, inputs, version, completion].map name).filter fun n =>
    distance (lower word).toUTF8.toList n.toUTF8.toList ≤ 2 || Text.startsWith (lower word) n

/-- The command that arguments ask for, if they name one, and its own arguments. -/
def find (arguments : List String) : Outcome (Option Command × List String) :=
  match words arguments with
  | [] => .ok (none, arguments)
  | word :: _ => match ofName? word with
    | some c => .ok (some c, without word arguments)
    | none => .error (.usage (.unknownCommand word (similar word)))

end Command
end Shapewright
