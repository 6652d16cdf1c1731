import Shapewright.Failure
import Shapewright.Text.Truth

/-!
# Flags of a command

Flags and other arguments may stand in any order. A flag is given by its name, `--name value` or
`--name=value`, or by its letter, `-n value`, `-nvalue` or `-n=value`; letters of switches can be
put together, and after `--` there are no more flags. Letters that start with `test.` are meant for
the tool that runs tests, and are passed over.

* `Flag` — a flag that a command knows.
* `Arguments` — what was given: the flags in order, and the rest.
* `Arguments.parse` — reading arguments; the first one at fault is reported.
-/

set_option autoImplicit false

namespace Shapewright

/-- A flag that a command knows. -/
structure Flag where
  name : String
  letter : Option Char := none
  /-- Whether the flag is on by itself and needs no value. -/
  isSwitch : Bool := false
  deriving DecidableEq, Repr

namespace Flag

/-- The flag as messages name it. -/
def shown (f : Flag) : String :=
  match f.letter with
  | some c => "-" ++ String.singleton c ++ ", --" ++ f.name
  | none => "--" ++ f.name

/-- A value for a flag, which has to be a truth value for a switch. -/
def check (f : Flag) (value : String) : Outcome (String × String) :=
  if f.isSwitch && (Text.truth? value).isNone then
    .error (.usage (.notASwitch value f.shown))
  else .ok (f.name, value)

end Flag

/-- What an argument gives: values of flags, and whether the argument after it was one of them. -/
structure Given where
  values : List (String × String) := []
  tookNext : Bool := false

/-- The arguments of a command. -/
structure Arguments where
  flags : List (String × String) := []
  rest : List String := []
  deriving Repr

namespace Arguments

/-- Reads a flag given by its name. -/
def readName (known : List Flag) (argument : String) (next : Option String) : Outcome Given :=
  let body := argument.toList.drop 2
  if body.head?.any fun c => c == '-' || c == '=' then
    .error (.usage (.malformedFlag argument))
  else
    let text := String.ofList body
    let (name, own) := match Text.cut '=' text with
      | some (name, value) => (name, some value)
      | none => (text, none)
    match known.find? fun f => f.name == name with
    | none => .error (.usage (.unknownFlag name))
    | some f => match own, next with
      | some value, _ => do return { values := [← f.check value] }
      | none, next =>
        if f.isSwitch then .ok { values := [(f.name, "true")] }
        else match next with
          | some value => .ok { values := [(f.name, value)], tookNext := true }
          | none => .error (.usage (.missingValue argument))

/-- The first byte of a character as a character, by which unknown letters are reported. -/
def firstByte (c : Char) : Char :=
  match (String.singleton c).toUTF8.toList with
  | b :: _ => Char.ofNat b.toNat
  | [] => c

/-- Whether letters are meant for the tool that runs tests. -/
def isForTests (letters : List Char) : Bool := "test.".toList.isPrefixOf letters

/-- Reads flags given by their letters. -/
def readLetters (known : List Flag) (next : Option String) : List Char → Outcome Given
  | [] => .ok {}
  | c :: rest =>
    if isForTests (c :: rest) then .ok {}
    else match known.find? fun f => f.letter == some c with
    | none => .error (.usage (.unknownLetter (firstByte c) (String.ofList (c :: rest))))
    | some f =>
      let assigned := match rest with
        | '=' :: v :: value => some (v :: value)
        | _ => none
      match assigned with
      | some value => do return { values := [← f.check (String.ofList value)] }
      | none =>
        if f.isSwitch then do
          let more ← readLetters known next rest
          return { more with values := (f.name, "true") :: more.values }
        else if !rest.isEmpty then .ok { values := [(f.name, String.ofList rest)] }
        else match next with
          | some value => .ok { values := [(f.name, value)], tookNext := true }
          | none => .error (.usage (.missingLetterValue c (String.ofList [c])))

/-- Reads an argument that starts with a dash. -/
def readFlag (known : List Flag) (argument : String) (next : Option String) : Outcome Given :=
  if Text.startsWith "--" argument then readName known argument next
  else readLetters known next (argument.toList.drop 1)

/-- Whether an argument is a flag, or ends the flags. -/
def isFlag (argument : String) : Bool := Text.startsWith "-" argument && argument != "-"

/-- Adds an argument that is no flag. -/
def withArgument (a : Arguments) (argument : String) : Arguments :=
  { a with rest := argument :: a.rest }

/-- Adds values of flags. -/
def withFlags (a : Arguments) (values : List (String × String)) : Arguments :=
  { a with flags := values ++ a.flags }

/-- Reads the arguments of a command. -/
def parse (known : List Flag) : List String → Outcome Arguments
  | [] => .ok {}
  | argument :: rest =>
    if !isFlag argument then do return (← parse known rest).withArgument argument
    else if argument == "--" then .ok { rest }
    else match readFlag known argument rest.head? with
      | .error f => .error f
      | .ok given => match given.tookNext, rest with
        | true, _ :: more => do return (← parse known more).withFlags given.values
        | _, rest => do return (← parse known rest).withFlags given.values

/-- The last value of a flag. -/
def value? (a : Arguments) (name : String) : Option String := a.flags.reverse.lookup name

/-- All values of a flag, in order. -/
def valuesOf (a : Arguments) (name : String) : List String :=
  a.flags.filterMap fun (n, v) => if n == name then some v else none

/-- Whether a switch is on. -/
def isOn (a : Arguments) (name : String) : Bool :=
  ((a.value? name).bind Text.truth?).getD false

end Arguments
end Shapewright
