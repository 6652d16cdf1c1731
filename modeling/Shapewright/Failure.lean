import Shapewright.Shape.Id
import Shapewright.Shape.Kind
import Shapewright.Shape.Node
import Shapewright.Binding.Origin
import Shapewright.Text.Quoted

/-!
# What can go wrong before a request is served

Every way in which loading a model or generating code can fail is a case here, with what it is
about; the wording is in one place.  One case, `endlessNesting`, is no failure: it stands where a walk
through the shapes of a model would not end.

* `Failure` — the causes; `within` adds where it happened, `many` collects several.
* `Failure.message` — the wording.
* `Failure.collect` — adds one failure to several.
-/

set_option autoImplicit false

namespace Shapewright

/-- Why a default does not suit its shape. -/
inductive DefaultFault where
  /-- A value of the wrong kind. -/
  | wrongKind (kind : NodeKind)
  /-- A number for something that takes none. -/
  | number (text : String)
  /-- A number beyond the range of its type. -/
  | outOfRange (text : String)
  /-- A number that cannot be read. -/
  | malformed (text : String)
  /-- A text that is no time. -/
  | notATime
  deriving DecidableEq, Repr

/-- The wording of a fault. -/
def DefaultFault.message : DefaultFault → String
  | .wrongKind kind => kind.name ++ " default"
  | .number text => "number default " ++ text
  | .outOfRange text => "number default " ++ text ++ " out of range"
  | .malformed text => "strconv.ParseFloat: parsing " ++ Text.quote text ++ ": invalid syntax"
  | .notATime => "parsing time"

/-- Where a failure happened. -/
inductive Place where
  | member (id : ShapeId)
  | inputOf (id : ShapeId)
  | outputOf (name : String)
  | operation (name : String)
  | service (name : String)
  | shape (id : ShapeId)
  | defaultOf (id : ShapeId)
  | endpoint (id : ShapeId)
  | modelPath
  | modelFile
  | modelText (path : String)
  | idlText (path : String)
  | sadlText (path : String)
  | sadlConversion (path : String)
  | encodedText (path : String)
  | decodedText (path : String)
  | configFile
  | outputDirectory
  deriving DecidableEq, Repr

/-- The wording of a place. -/
def Place.text : Place → String
  | .member id => "member " ++ id.text
  | .inputOf id => "input of " ++ id.text
  | .outputOf name => "output of " ++ name
  | .operation name => "operation " ++ name
  | .service name => "service " ++ name
  | .shape id => "shape " ++ id.text
  | .defaultOf id => "default of " ++ id.text
  | .endpoint id => id.text
  | .modelPath => "cannot read model path"
  | .modelFile => "cannot read Smithy AST file"
  | .modelText path => "cannot parse Smithy AST file " ++ path
  | .idlText path => "cannot parse Smithy IDL file " ++ path
  | .sadlText path => "cannot parse SADL file " ++ path
  | .sadlConversion path => "cannot convert SADL file " ++ path
  | .encodedText path => "cannot encode AST for " ++ path
  | .decodedText path => "cannot decode AST for " ++ path
  | .configFile => "cannot read config"
  | .outputDirectory => "cannot create output directory"

/-- Why a path of the file system could not be used. -/
inductive PathFault where
  | missing
  | notADirectory
  | isADirectory
  /-- A name or the whole path has too many bytes. -/
  | nameTooLong
  /-- The path holds a NUL. -/
  | invalid
  /-- There is something else already. -/
  | exists
  deriving DecidableEq, Repr

/-- The wording of a fault. -/
def PathFault.message : PathFault → String
  | .missing => "no such file or directory"
  | .notADirectory => "not a directory"
  | .isADirectory => "is a directory"
  | .nameTooLong => "file name too long"
  | .invalid => "invalid argument"
  | .exists => "file exists"

/-- What is wrong with the arguments of a command. -/
inductive UsageFault where
  | tooFewArguments (count : Nat)
  /-- An unknown command, with those that resemble it. -/
  | unknownCommand (name : String) (similar : List String)
  | unknownFlag (name : String)
  | malformedFlag (argument : String)
  | missingValue (argument : String)
  /-- An unknown letter, and the letters from it on. -/
  | unknownLetter (letter : Char) (letters : String)
  | missingLetterValue (letter : Char) (letters : String)
  | notASwitch (value flag : String)
  deriving DecidableEq, Repr

namespace UsageFault

/-- A character in single quotes. -/
def quoteLetter (c : Char) : String :=
  "'" ++ (if c == '\'' then "\\'" else if c == '"' then "\"" else String.ofList (Text.escape c))
    ++ "'"

/-- The wording of a fault. -/
def message : UsageFault → String
  | .tooFewArguments count => "requires at least 1 arg(s), only received " ++ toString count
  | .unknownCommand name similar =>
    "unknown command " ++ Text.quote name ++ " for \"smithygen\""
      ++ (if similar.isEmpty then "" else
        "\n\nDid you mean this?\n" ++ String.join (similar.map fun s => "\t" ++ s ++ "\n"))
  | .unknownFlag name => "unknown flag: --" ++ name
  | .malformedFlag argument => "bad flag syntax: " ++ argument
  | .missingValue argument => "flag needs an argument: " ++ argument
  | .unknownLetter letter letters =>
    "unknown shorthand flag: " ++ quoteLetter letter ++ " in -" ++ letters
  | .missingLetterValue letter letters =>
    "flag needs an argument: " ++ quoteLetter letter ++ " in -" ++ letters
  | .notASwitch value flag =>
    "invalid argument " ++ Text.quote value ++ " for " ++ Text.quote flag
      ++ " flag: strconv.ParseBool: parsing " ++ Text.quote value ++ ": invalid syntax"

end UsageFault

/-- A failure to load a model or to generate code. -/
inductive Failure where
  -- the catalog
  | shapeNotFound (id : ShapeId)
  | preludeRedefined (id : ShapeId)
  | duplicateInCatalog (id : ShapeId)
  | notAnOperation (id : ShapeId) (kind : Kind)
  -- targets of operations
  | uriNotRooted (uri : String)
  | uriEmptyLabel (uri : String)
  | greedyNotLast (label uri : String)
  -- types and defaults
  | unsupportedKind (shape : ShapeId) (kind : Kind)
  | missingItem (kind : String) (shape : ShapeId)
  | missingValue (kind : Kind) (shape : ShapeId)
  | unsupportedDefault (shape : ShapeId) (kind : Kind) (node : NodeKind)
  | invalidDefault (shape : ShapeId) (kind : Kind) (fault : DefaultFault)
  -- bindings
  | unresolvedLabel (member : ShapeId) (uri : String)
  | unsupportedBinding (member : ShapeId) (kind : Kind) (origin : Origin)
  -- generated code
  | notAnInteger (member : ShapeId)
  | unparsable
  | unknownGenerator (name : String)
  -- model documents
  | malformedDocument
  | malformedModel (path : String)
  /-- What the parser of another package says. -/
  | foreign (message : String)
  | missingVersion
  | duplicateInAssembly (id : String)
  | applyTargetMissing (target : String)
  | applyMemberMissing (target member : String)
  | mixinMissing (id : String)
  | mixinMismatch (mixin type shape : String)
  | unresolvedApply (id : String)
  | unsupportedType (id type : String)
  | incompleteMap (id : String)
  | undefinedTarget (target source : ShapeId)
  /-- A null stands where a shape, member or reference is needed. -/
  | nullReference
  | noModelFiles (paths : List String)
  | unsupportedKindName (name : String)
  -- files
  | cannotOpen (path : String) (fault : PathFault)
  | cannotRead (path : String) (fault : PathFault)
  | cannotStat (path : String) (fault : PathFault)
  | cannotMakeDirectory (path : String) (fault : PathFault)
  | fileExists (path : String)
  | malformedConfig (path : String)
  -- the command line
  | usage (fault : UsageFault)
  -- no failure of the program
  /-- A walk from shape to shape has met its bound. Where walks are not bounded this is no failure:
  they go on without end. -/
  | endlessNesting (shape : ShapeId)
  -- structure
  | within (place : Place) (cause : Failure)
  | many (causes : List Failure)
  deriving Repr

namespace Failure

instance : Inhabited Failure := ⟨.nullReference⟩

/-- Several messages as one: a headline and a list. -/
def listing (messages : List String) : String :=
  (if messages.length == 1 then "1 error occurred:" else
    toString messages.length ++ " errors occurred:")
    ++ "\n\t" ++ "\n\t".intercalate (messages.map ("* " ++ ·)) ++ "\n\n"

mutual

/-- The wording of a failure. -/
def message : Failure → String
  | .shapeNotFound id => "shape not found: " ++ id.text
  | .preludeRedefined id => "cannot redefine prelude shape " ++ id.text
  | .duplicateInCatalog id => "duplicate shape in catalog: " ++ id.text
  | .notAnOperation id kind => id.text ++ " is not an operation: " ++ kind.name
  | .uriNotRooted uri => "uri pattern must start with '/': " ++ Text.quote uri
  | .uriEmptyLabel uri => "empty label in uri pattern " ++ Text.quote uri
  | .greedyNotLast label uri =>
    "greedy label \x7b" ++ label ++ "+\x7d must end the path in " ++ Text.quote uri
  | .unsupportedKind shape kind => "no type strategy for " ++ kind.name ++ " " ++ shape.text
  | .missingItem kind shape => kind ++ " " ++ shape.text ++ " has no member"
  | .missingValue kind shape => kind.name ++ " " ++ shape.text ++ " has no value member"
  | .unsupportedDefault shape kind node =>
    "default values of type " ++ node.name ++ " are not supported for " ++ kind.name ++ " "
      ++ shape.text
  | .invalidDefault shape kind fault =>
    "invalid default for " ++ kind.name ++ " " ++ shape.text ++ ": " ++ fault.message
  | .unresolvedLabel member uri =>
    "member " ++ member.text ++ " is bound to a label that is not in uri " ++ Text.quote uri
  | .unsupportedBinding member kind origin =>
    "member " ++ member.text ++ ": " ++ kind.name ++ " values cannot be bound from the "
      ++ origin.name
  | .notAnInteger member => "intEnum member " ++ member.text ++ " has no integer value"
  | .unparsable => "generated code does not parse"
  | .unknownGenerator name => "Unknown generator: " ++ Text.quote name
  | .malformedDocument => "malformed document"
  | .foreign message => message
  | .malformedModel path => "cannot parse Smithy AST file " ++ path
  | .missingVersion => "not a Smithy AST: missing \"smithy\" version"
  | .duplicateInAssembly id => "duplicate shape in assembly: " ++ id
  | .applyTargetMissing target =>
    "cannot apply traits to " ++ target ++ ": target shape not found"
  | .applyMemberMissing target member =>
    "cannot apply traits to " ++ target ++ "$" ++ member ++ ": member not found"
  | .mixinMissing id => "mixin shape not available: " ++ id
  | .mixinMismatch mixin type shape =>
    "target for mixin " ++ mixin ++ " with members is a " ++ type ++ ": " ++ shape
  | .unresolvedApply id =>
    "Assertion failure: apply for " ++ id ++ " should have been resolved by Assemble"
  | .unsupportedType id type => "shape " ++ id ++ " has unsupported type " ++ Text.quote type
  | .incompleteMap id => "map " ++ id ++ " must have key and value"
  | .undefinedTarget target source =>
    "shape not defined: " ++ target.text ++ " (referenced from " ++ source.text ++ ")"
  | .nullReference => "null reference"
  | .noModelFiles paths => "no model files found in [" ++ " ".intercalate paths ++ "]"
  | .unsupportedKindName name => "Bad enum symbol for type ShapeKind: " ++ name
  | .cannotOpen path fault => "open " ++ path ++ ": " ++ fault.message
  | .cannotRead path fault => "read " ++ path ++ ": " ++ fault.message
  | .cannotStat path fault => "stat " ++ path ++ ": " ++ fault.message
  | .cannotMakeDirectory path fault => "mkdir " ++ path ++ ": " ++ fault.message
  | .fileExists path => "[" ++ path ++ " already exists, not overwriting]"
  | .malformedConfig path => "cannot parse config " ++ path
  | .usage fault => fault.message
  | .endlessNesting shape => shape.text ++ " contains itself"
  | .within place cause => place.text ++ ": " ++ message cause
  | .many causes => listing (messages causes)

/-- The wordings of several failures. -/
def messages : List Failure → List String
  | [] => []
  | f :: rest => message f :: messages rest

end

/-- Adds a failure to those collected so far. One that is itself a collection adds its members. -/
def collect (sofar : List Failure) : Failure → List Failure
  | .many causes => sofar ++ causes
  | f => sofar ++ [f]

/-- The failures collected, if there are any. -/
def ofCollected : List Failure → Option Failure
  | [] => none
  | causes => some (.many causes)

end Failure

/-- An outcome, or a failure of loading or generating. -/
abbrev Outcome (α : Type) := Except Failure α

/-- Says where a failure happened. -/
def Outcome.at_ {α : Type} (place : Place) : Outcome α → Outcome α
  | .ok a => .ok a
  | .error f => .error (.within place f)

end Shapewright
