import Shapewright.Json.Printer
import Shapewright.Text.Quoted

/-!
# What can go wrong while a request is served

A request can lack a value that is required, or hold one that is malformed; both are the caller's
fault and are reported as such.  Anything else is the server's.

* `Fault` — the causes.
* `Fault.message` — the wording.
* `Response` — what is sent back: `Response.ofJson` for an answer, `Response.ofFault` for a fault.
-/

set_option autoImplicit false

namespace Shapewright
namespace Wire

/-- A failure to serve a request. -/
inductive Fault where
  /-- A value that is required is absent. -/
  | missing (field origin : String)
  /-- A value cannot be converted to what it should be; it may be cut inside a character. -/
  | malformed (kind field : String) (value : Bytes) (cause : Option String)
  | other (text : String)
  /-- Serving broke down; nobody is told why. -/
  | breakdown
  /-- A failure with words in front of it. -/
  | within (text : String) (cause : Fault)
  deriving DecidableEq, Repr

namespace Fault

instance : Inhabited Fault := ⟨.other ""⟩

/-- The wording of a failure. -/
def message : Fault → String
  | .missing field origin => "missing required " ++ origin ++ " value " ++ Text.quote field
  | .malformed kind field value cause =>
    "malformed " ++ kind ++ " value for " ++ Text.quote field ++ ": " ++ Text.quoteBytes value
      ++ match cause with
        | some text => " (" ++ text ++ ")"
        | none => ""
  | .other text => text
  | .breakdown => ""
  | .within text cause => text ++ ": " ++ cause.message

/-- What a failure is about, without the words in front of it. -/
def root : Fault → Fault
  | .within _ cause => cause.root
  | f => f

/-- Whether a required value is absent. -/
def isMissing (f : Fault) : Bool :=
  match f.root with
  | .missing .. => true
  | _ => false

/-- Whether a value is malformed. -/
def isMalformed (f : Fault) : Bool :=
  match f.root with
  | .malformed .. => true
  | _ => false

/-- Whether serving broke down. -/
def isBreakdown (f : Fault) : Bool :=
  f.root == .breakdown

/-- Why a value is malformed, where that is known. -/
def cause? (f : Fault) : Option String :=
  match f.root with
  | .malformed _ _ _ cause => cause
  | _ => none

/-- A malformed text. -/
def ofText (kind field text : String) (cause : Option String) : Fault :=
  .malformed kind field (Bytes.encode text) cause

end Fault

/-- The outcome of serving a part of a request. -/
abbrev Served (α : Type) := Except Fault α

/-- What is sent back. -/
structure Response where
  status : Int
  contentType : String := "application/json"
  body : String
  deriving DecidableEq, Repr

namespace Response

/-- An answer that holds a value; a null is sent as nothing. -/
def ofJson (status : Int) : Json → Response
  | .null => { status, body := "" }
  | v => { status, body := v.compact ++ "\n" }

/-- Whether a number can be sent as a status: it has three digits. -/
def isStatus (status : Int) : Bool :=
  100 ≤ status && status ≤ 999

/-- An answer that holds a value, if its status can be sent. -/
def ofJson? (status : Int) (v : Json) : Option Response :=
  if isStatus status then some (ofJson status v) else none

/-- How a failure is classified: its status, the word for it, and the field it is about. -/
def classify (f : Fault) : Int × String × String :=
  match f.root with
  | .missing field _ => (400, "missing field", field)
  | .malformed _ field _ _ => (400, "malformed value", field)
  | _ => (500, "internal error", "")

/-- The report of a failure. -/
def ofFault (f : Fault) : Response :=
  let (status, word, field) := classify f
  ofJson status (.object ([("error", .string word)]
    ++ (if field == "" then [] else [("field", .string field)])
    ++ [("message", .string f.message)]))

end Response
end Wire
end Shapewright
