import Shapewright.Config

/-!
# Where a run writes to

Texts go to files of an output directory, or are printed if there is none. A file that exists is
overwritten only by force, and after the first failure nothing more is written.

* `Output` — the directory, the files and what has been printed.
* `Output.configure` — the options of a run.
* `Output.write` — one text.
* `Output.start`, `Output.emit` — a text put together piece by piece.
-/

set_option autoImplicit false

namespace Shapewright

/-- Where a run writes to, and what it has written. -/
structure Output where
  directory : String := ""
  /-- Whether shapes are listed by name. -/
  sorted : Bool := false
  force : Bool := false
  files : Files := {}
  printed : String := ""
  /-- The first failure to write. -/
  failed : Option Failure := none
  /-- The text that is being put together. -/
  draft : Option String := none
  deriving Repr, Inhabited

namespace Output

/-- Takes over the options of a run and makes the output directory. The options hold even if the
directory cannot be made. -/
def configure (o : Output) (c : Config) : Output × Option Failure :=
  let o := { o with
    directory := c.string "outdir", sorted := c.flag "sort", force := c.flag "force" }
  if o.directory == "" then (o, none)
  else match o.files.makeDirectories o.directory with
    | .ok files => ({ o with files }, none)
    | .error f => (o, some (.within .outputDirectory f))

/-- The name of the file for a namespace. -/
def fileName (ns ending : String) : String := Text.replaceChar '.' "_" ns ++ ending

/-- Writes a text to a file, unless it exists and force is not asked for. -/
def writeFile (o : Output) (path text : String) : Outcome Files :=
  if !o.force && o.files.occupied path then .error (.fileExists path)
  else o.files.write path text

/-- Writes a text to a file of the output directory, or prints it after a separator. -/
def write (o : Output) (text name separator : String) : Output :=
  if o.failed.isSome then o
  else if o.directory == "" then { o with printed := o.printed ++ separator ++ text }
  else match o.writeFile (Files.join o.directory name) text with
    | .ok files => { o with files }
    | .error f => { o with failed := some f }

/-! ## Drafts -/

/-- Starts a text anew. -/
def start (o : Output) : Output := { o with draft := some "" }

/-- Adds to the text that was started. -/
def emit (o : Output) (text : String) : Output := { o with draft := o.draft.map (· ++ text) }

end Output
end Shapewright
